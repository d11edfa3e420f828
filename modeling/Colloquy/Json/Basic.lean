import Colloquy.Fields

/-! JSON values. Integers have any size and are kept apart from floating point numbers; the members of an object
keep their order. -/
namespace Colloquy

/-- A JSON value. -/
inductive Json where
  | null
  | bool (b : Bool)
  | int (n : Int)
  | float (x : Float)
  | text (s : String)
  | list (items : List Json)
  | object (fields : List (String × Json))
  deriving Inhabited

namespace Json

/-- The member of an object under a name. -/
def get? : Json → String → Option Json
  | object fields, name => Fields.get? fields name
  | _, _ => none

/-- The characters of a string. -/
def text? : Json → Option String
  | text s => some s
  | _ => none

/-- An integer, not a floating point number with an integral value. -/
def int? : Json → Option Int
  | int n => some n
  | _ => none

/-- A truth value. -/
def bool? : Json → Option Bool
  | bool b => some b
  | _ => none

/-- The items of a list. -/
def list? : Json → Option (List Json)
  | list items => some items
  | _ => none

/-- The members of an object, in order. -/
def object? : Json → Option (List (String × Json))
  | object fields => some fields
  | _ => none

end Json
end Colloquy
