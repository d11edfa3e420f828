import Colloquy.Store.Basic

/-! Bindings that a script insists on. -/
namespace Colloquy

/-- A name that is not bound, or whose value cannot be used for a reason. -/
structure BindingError where
  name : String
  reason : Option String
  deriving DecidableEq, Repr

/-- The wording of an error. An empty reason is none. -/
def BindingError.message (error : BindingError) : String :=
  match error.reason with
  | none | some "" => "'" ++ error.name ++ "' is not bound"
  | some reason => "Cannot use binding '" ++ error.name ++ "': " ++ reason

namespace Store

/-- The binding of a name that must be there. -/
def require (store : Store) (scope : Nat) (name : String) : Except BindingError Item :=
  match store.lookup scope name with
  | some item => .ok item
  | none => .error ⟨name, none⟩

/-- The numbers of items that are all records. -/
def recordsOf : List Item → Option (List Nat)
  | [] => some []
  | .record id :: rest => (recordsOf rest).map (id :: ·)
  | _ :: _ => none

/-- The records under a name, in order and as often as they are listed. -/
def requireRecords (store : Store) (scope : Nat) (name : String) : Except BindingError (List Nat) := do
  let records := match ← store.require scope name with
    | .list items | .tuple items => recordsOf items
    | .leaf (.range start stop step) => if Value.rangeLength start stop step == 0 then some [] else none
    | _ => none
  match records with
  | some ids => return ids
  | none => throw ⟨name, some "expected a sequence of records"⟩

end Store
end Colloquy
