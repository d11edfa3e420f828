import Colloquy.Value.Basic

/-! What a running script shares and changes. Scopes bind names and enclose one another; records are mappings that can
be changed in place and seen wherever they are bound. A scope refers to the scopes around it and never changes them:
a write lands in the scope it is made in, and a look-up goes outward. -/
namespace Colloquy

/-- A value in place: records and scopes are referred to, anything else is held. -/
inductive Item where
  | leaf (value : Value)
  | list (items : List Item)
  | tuple (items : List Item)
  | record (id : Nat)
  | scope (id : Nat)
  deriving Inhabited

/-- A scope: the scopes around it, nearest first, and its own bindings. -/
structure Scope where
  enclosing : List Nat
  bindings : Fields Item
  deriving Inhabited

/-- All records and scopes, numbered in the order in which they were made. -/
structure Store where
  records : List (Fields Item)
  scopes : List Scope
  deriving Inhabited

namespace Store

/-- Nothing yet. -/
def empty : Store := ⟨[], []⟩

/-- The scope of a number. -/
def scopeAt (store : Store) (id : Nat) : Scope := store.scopes[id]?.getD ⟨[], []⟩

/-- A scope's own bindings. -/
def bindingsOf (store : Store) (id : Nat) : Fields Item := (store.scopeAt id).bindings

/-- A scope and those around it, from the inside out. -/
def chain (store : Store) (id : Nat) : List Nat := id :: (store.scopeAt id).enclosing

/-- The number of scopes around a scope. -/
def depth (store : Store) (id : Nat) : Nat := (store.scopeAt id).enclosing.length

/-- The innermost binding of a name. -/
def lookup (store : Store) (id : Nat) (name : String) : Option Item :=
  (store.chain id).findSome? fun scope => (store.bindingsOf scope).get? name

/-- Every visible binding, in the order of first appearance from the outside in. -/
def flatten (store : Store) (id : Nat) : Fields Item :=
  (store.chain id).reverse.foldl (fun all scope => all.merge (store.bindingsOf scope)) []

/-- Opens a scope with bindings of its own, inside another one if there is a parent. -/
def openScope (store : Store) (parent : Option Nat) (bindings : Fields Item) : Nat × Store :=
  let enclosing := match parent with
    | some id => store.chain id
    | none => []
  (store.scopes.length, { store with scopes := store.scopes ++ [⟨enclosing, bindings⟩] })

/-- Binds a name in a scope. -/
def bind (store : Store) (id : Nat) (name : String) (item : Item) : Store :=
  { store with scopes := store.scopes.modify id fun scope =>
      { scope with bindings := scope.bindings.put name item } }

/-- The members of a record. -/
def membersOf (store : Store) (id : Nat) : Fields Item := store.records[id]?.getD []

/-- Makes a record. -/
def addRecord (store : Store) (members : Fields Item) : Nat × Store :=
  (store.records.length, { store with records := store.records ++ [members] })

/-- Writes a member of a record. -/
def setMember (store : Store) (id : Nat) (name : String) (item : Item) : Store :=
  { store with records := store.records.modify id fun members => members.put name item }

mutual

/-- The value that an item has now, references followed at most `steps` deep. -/
def viewWithin (store : Store) (steps : Nat) (item : Item) : Value :=
  match item with
  | .leaf value => value
  | .list items => .list (viewItems store steps items)
  | .tuple items => .tuple (viewItems store steps items)
  | .record id =>
    match steps with
    | 0 => .null
    | steps + 1 => .mapping (viewFields store steps (store.membersOf id))
  | .scope id =>
    match steps with
    | 0 => .null
    | steps + 1 => .scope (store.depth id) (viewFields store steps (store.bindingsOf id))
termination_by (steps, sizeOf item)

/-- The values of several items. -/
def viewItems (store : Store) (steps : Nat) (items : List Item) : List Value :=
  match items with
  | [] => []
  | item :: rest => viewWithin store steps item :: viewItems store steps rest
termination_by (steps, sizeOf items)

/-- The values of named items. -/
def viewFields (store : Store) (steps : Nat) (fields : Fields Item) : Fields Value :=
  match fields with
  | [] => []
  | (name, item) :: rest => (name, viewWithin store steps item) :: viewFields store steps rest
termination_by (steps, sizeOf fields)

end

/-- As many steps as there are records and scopes: enough unless one contains itself. -/
def reach (store : Store) : Nat := store.records.length + store.scopes.length + 1

/-- The value that an item has now. -/
def view (store : Store) (item : Item) : Value := store.viewWithin store.reach item

/-- The values under names. -/
def viewAll (store : Store) (fields : Fields Item) : Fields Value := store.viewFields store.reach fields

/-- The values that the names visible in a scope have now. -/
def valueOf (store : Store) (id : Nat) (name : String) : Option Value := (store.lookup id name).map store.view

mutual

/-- Puts a value in place, each of its mappings as a record of its own. -/
def place (store : Store) : Value → Item × Store
  | .list items => let (placed, store) := placeItems store items; (.list placed, store)
  | .tuple items => let (placed, store) := placeItems store items; (.tuple placed, store)
  | .mapping fields =>
    let (placed, store) := placeFields store fields
    let (id, store) := store.addRecord placed
    (.record id, store)
  | value => (.leaf value, store)

/-- Puts several values in place. -/
def placeItems (store : Store) : List Value → List Item × Store
  | [] => ([], store)
  | value :: rest =>
    let (item, store) := place store value
    let (placed, store) := placeItems store rest
    (item :: placed, store)

/-- Puts named values in place. -/
def placeFields (store : Store) : List (String × Value) → Fields Item × Store
  | [] => ([], store)
  | (name, value) :: rest =>
    let (item, store) := place store value
    let (placed, store) := placeFields store rest
    ((name, item) :: placed, store)

end

end Store
end Colloquy
