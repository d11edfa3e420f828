import Colloquy.Value.Order
import Colloquy.Value.Text
import Colloquy.Text.Case

/-! What a filter is: its parameters beside the value it is applied to, and a function of the value and the
arguments. A value that is not defined is passed in as such, and a filter may yield one. -/
namespace Colloquy

/-- A parameter, with the value it has when no argument is given for it. -/
structure Parameter where
  name : String
  fallback : Option Value

namespace Parameter

/-- A parameter that needs an argument. -/
def required (name : String) : Parameter := ⟨name, none⟩

/-- A parameter that may be left out. -/
def optional (name : String) (fallback : Value) : Parameter := ⟨name, some fallback⟩

/-- Gives each parameter its argument: first those by position, then those by name, then the fallbacks. -/
def assign (parameters : List Parameter) (positional : List Value) (keywords : Fields Value) :
    Except Misuse (Fields Value) :=
  match parameters, positional with
  | [], [] => if keywords.isEmpty then .ok [] else .error .wrongType
  | [], _ :: _ => .error .wrongType
  | parameter :: rest, value :: values =>
    if keywords.has parameter.name then .error .wrongType
    else (assign rest values keywords).map ((parameter.name, value) :: ·)
  | parameter :: rest, [] =>
    match (keywords.get? parameter.name).or parameter.fallback with
    | none => .error .wrongType
    | some value => (assign rest [] (keywords.drop parameter.name)).map ((parameter.name, value) :: ·)

end Parameter

/-- The outcome of a filter: a value, or none when the result is not defined. -/
abbrev Filtered := Except Misuse (Option Value)

/-- A filter. Some take any arguments, and some cannot be used outside a running template. -/
inductive Filter where
  | plain (parameters : List Parameter) (apply : Option Value → (String → Value) → Filtered)
  | variadic (apply : Option Value → List Value → Fields Value → Filtered)
  | contextual

namespace Filter

/-- A defined value. -/
def defined : Option Value → Except Misuse Value
  | some value => .ok value
  | none => .error .undefined

/-- A filter that yields a value whenever it accepts one. -/
def total (parameters : List Parameter) (apply : Value → (String → Value) → Except Misuse Value) : Filter :=
  .plain parameters fun subject argument => do
    let value ← defined subject
    return some (← apply value argument)

/-- The value of a parameter among assigned arguments. -/
def argumentOf (assigned : Fields Value) (name : String) : Value := (assigned.get? name).getD .null

/-- Applies a filter to a value and arguments. -/
def apply (filter : Filter) (subject : Option Value) (positional : List Value) (keywords : Fields Value) :
    Filtered :=
  match filter with
  | plain parameters run =>
    match Parameter.assign parameters positional keywords with
    | .ok assigned => run subject (argumentOf assigned)
    | .error misuse => .error misuse
  | variadic run => run subject positional keywords
  | contextual => .error .needsContext

/-- An argument that is a whole number. -/
def whole : Value → Except Misuse Int
  | .bool b => .ok (if b then 1 else 0)
  | .int n => .ok n
  | _ => .error .wrongType

/-- An argument that is a whole number of at most so many binary digits. -/
def bounded (digits : Nat) (value : Value) : Except Misuse Int := do
  let n ← whole value
  if -(Decimal.twoTo digits : Int) ≤ n && n < Decimal.twoTo digits then return n else throw .overflow

/-- A text in small letters, any other value as it is: the form in which case makes no difference. -/
def ignoringCase : Value → Value
  | .text s | .safe s => .text (Text.lower s)
  | value => value

/-! Attributes: names and indices joined by points, followed one after the other into a value. -/

/-- One part of an attribute: an index when it is all digits. -/
def attributePart (part : String) : Value :=
  if part.toList.isEmpty || !part.toList.all Text.isAsciiDigit then .text part
  else .int (Text.numeral (part.toList.map fun c => c.toNat - '0'.toNat))

/-- The parts of an attribute; none at all means the value itself. -/
def attributeParts : Value → List Value
  | .null => []
  | .text s | .safe s => (s.splitOn ".").map attributePart
  | value => [value]

/-- The item of a value at an index, where it has one. -/
def itemAt (value : Value) (i : Int) : Option Value :=
  match value with
  | .text s | .safe s => Value.nth? (s.toList.map fun c => .text (String.singleton c)) i
  | .bytes data => Value.nth? (data.map fun byte => .int byte.toNat) i
  | .list items | .tuple items => Value.nth? items i
  | .range start stop step => Value.rangeItem? start stop step i
  | _ => none

/-- What one part of an attribute leads to. -/
def follow (value part : Value) : Option Value :=
  match part with
  | .text name | .safe name =>
    match value with
    | .mapping fields | .model _ fields => Fields.get? fields name
    | _ => none
  | .int i => itemAt value i
  | .bool b => itemAt value (if b then 1 else 0)
  | _ => none

/-- What an attribute leads to. The last part may lead nowhere, the ones before may not. -/
def attributeOf (value : Option Value) : List Value → Filtered
  | [] => .ok value
  | part :: rest =>
    match value with
    | none => .error .undefined
    | some value => attributeOf (follow value part) rest

end Filter
end Colloquy
