import Colloquy.Store.Basic
import Colloquy.Check.Value

/-! Commits: the order to write a value under a key into a scope or a record. -/
namespace Colloquy

/-- A value to be written under a key, and whether it has been. -/
structure Commit where
  target : Item
  key : String
  value : Item
  applied : Bool
  deriving Inhabited

/-- The name of the kind of a value. -/
def Value.kindName : Value → String
  | null => "NoneType"
  | bool _ => "bool"
  | int _ => "int"
  | float _ => "float"
  | text _ => "str"
  | safe _ => "Markup"
  | bytes _ => "bytes"
  | list _ => "list"
  | tuple _ => "tuple"
  | mapping _ => "dict"
  | range _ _ _ => "range"
  | stream _ _ => "generator"
  | model kind _ => kind.name
  | function _ => "function"
  | scope _ _ => "Scope"
  | foreign => "Opaque"

/-- The name of the kind of an item. -/
def Item.kindName : Item → String
  | leaf value => value.kindName
  | list _ => "list"
  | tuple _ => "tuple"
  | record _ => "dict"
  | scope _ => "Scope"

/-- Writes a commit; what is neither a scope nor a record cannot be written into, and its kind is told. -/
def Commit.write (commit : Commit) (store : Store) : Except String Store :=
  match commit.target with
  | .scope id => .ok (store.bind id commit.key commit.value)
  | .record id => .ok (store.setMember id commit.key commit.value)
  | target => .error target.kindName

/-- The wording for a target that cannot be written into. -/
def notWritableMessage (kind : String) : String := "Cannot commit into " ++ kind

end Colloquy
