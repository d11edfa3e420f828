import Colloquy.Store.Commit

/-! What the scopes and records of a store contain. Placing a value and opening a scope only add to a store; a commit
writes one name of its own target and leaves every other name, scope and record as it was. -/
namespace Colloquy

/-- Whether two items are one and the same scope or record. -/
def Item.isSame : Item → Item → Bool
  | .scope id, .scope other => id == other
  | .record id, .record other => id == other
  | _, _ => false

namespace Store

/-- Whether an item is a scope or a record of the store. -/
def Holds (store : Store) : Item → Prop
  | .scope id => id < store.scopes.length
  | .record id => id < store.records.length
  | _ => False

/-- The names bound in a scope, or the members of a record. -/
def contents (store : Store) : Item → Fields Item
  | .scope id => store.bindingsOf id
  | .record id => store.membersOf id
  | _ => []

theorem isSame_self {store : Store} {target : Item} (held : store.Holds target) : target.isSame target = true := by
  cases target with
  | scope id => exact beq_self_eq_true id
  | record id => exact beq_self_eq_true id
  | leaf value => exact held.elim
  | list items => exact held.elim
  | tuple items => exact held.elim

/-- The second store has all scopes and records of the first one as they were, and perhaps more. -/
structure Extends (before after : Store) : Prop where
  records : before.records <+: after.records
  scopes : before.scopes <+: after.scopes

variable {store before middle after : Store} {target : Item}

theorem extends_refl (store : Store) : store.Extends store := ⟨List.prefix_refl _, List.prefix_refl _⟩

theorem Extends.trans (first : before.Extends middle) (second : middle.Extends after) : before.Extends after :=
  ⟨first.records.trans second.records, first.scopes.trans second.scopes⟩

theorem Extends.holds (grown : before.Extends after) (held : before.Holds target) : after.Holds target := by
  cases target with
  | scope id => exact Nat.lt_of_lt_of_le held grown.scopes.length_le
  | record id => exact Nat.lt_of_lt_of_le held grown.records.length_le
  | leaf value => exact held.elim
  | list items => exact held.elim
  | tuple items => exact held.elim

theorem Extends.contents (grown : before.Extends after) (held : before.Holds target) :
    after.contents target = before.contents target := by
  cases target with
  | scope id =>
    obtain ⟨more, grown⟩ := grown.scopes
    have inside : id < before.scopes.length := held
    simp only [Store.contents, bindingsOf, scopeAt, ← grown, List.getElem?_append_left inside]
  | record id =>
    obtain ⟨more, grown⟩ := grown.records
    have inside : id < before.records.length := held
    simp only [Store.contents, membersOf, ← grown, List.getElem?_append_left inside]
  | leaf value => rfl
  | list items => rfl
  | tuple items => rfl

theorem Extends.enclosing (grown : before.Extends after) {id : Nat} (inside : id < before.scopes.length) :
    (after.scopeAt id).enclosing = (before.scopeAt id).enclosing := by
  obtain ⟨more, grown⟩ := grown.scopes
  simp only [scopeAt, ← grown, List.getElem?_append_left inside]

mutual

theorem place_extends (store : Store) : (value : Value) → store.Extends (store.place value).2
  | .list items | .tuple items => placeItems_extends store items
  | .mapping fields => by
    have members := placeFields_extends store fields
    exact ⟨members.records.trans (List.prefix_append _ _), members.scopes⟩
  | .null | .bool _ | .int _ | .float _ | .text _ | .safe _ | .bytes _ | .range _ _ _ | .stream _ _ | .model _ _
  | .function _ | .scope _ _ | .foreign => extends_refl store

theorem placeItems_extends (store : Store) : (values : List Value) → store.Extends (store.placeItems values).2
  | [] => extends_refl store
  | value :: rest => (place_extends store value).trans (placeItems_extends _ rest)

theorem placeFields_extends (store : Store) :
    (fields : List (String × Value)) → store.Extends (store.placeFields fields).2
  | [] => extends_refl store
  | (_, value) :: rest => (place_extends store value).trans (placeFields_extends _ rest)

end

mutual

/-- Placing a value opens no scope. -/
theorem place_scopes (store : Store) : (value : Value) → (store.place value).2.scopes = store.scopes
  | .list items | .tuple items => placeItems_scopes store items
  | .mapping fields => placeFields_scopes store fields
  | .null | .bool _ | .int _ | .float _ | .text _ | .safe _ | .bytes _ | .range _ _ _ | .stream _ _ | .model _ _
  | .function _ | .scope _ _ | .foreign => rfl

theorem placeItems_scopes (store : Store) : (values : List Value) → (store.placeItems values).2.scopes = store.scopes
  | [] => rfl
  | value :: rest => (placeItems_scopes _ rest).trans (place_scopes store value)

theorem placeFields_scopes (store : Store) :
    (fields : List (String × Value)) → (store.placeFields fields).2.scopes = store.scopes
  | [] => rfl
  | (_, value) :: rest => (placeFields_scopes _ rest).trans (place_scopes store value)

end

/-- Opening a scope adds it behind those that are there. -/
theorem openScope_extends (store : Store) (parent : Option Nat) (bindings : Fields Item) :
    store.Extends (store.openScope parent bindings).2 :=
  ⟨List.prefix_refl _, List.prefix_append _ _⟩

theorem bind_holds (id : Nat) (name : String) (item : Item) :
    (store.bind id name item).Holds target ↔ store.Holds target := by
  cases target <;> simp [Holds, bind]

theorem setMember_holds (id : Nat) (name : String) (item : Item) :
    (store.setMember id name item).Holds target ↔ store.Holds target := by
  cases target <;> simp [Holds, setMember]

/-- Binding a name changes that name in that scope and nothing else. -/
theorem bind_contents (id : Nat) (name : String) (item : Item) (held : store.Holds target) :
    (store.bind id name item).contents target =
      if (Item.scope id).isSame target then (store.contents target).put name item else store.contents target := by
  cases target with
  | scope other =>
    have inside : other < store.scopes.length := held
    by_cases same : id = other
    · subst same
      simp [contents, bindingsOf, scopeAt, bind, Item.isSame, List.getElem?_eq_getElem inside]
    · simp [contents, bindingsOf, scopeAt, bind, Item.isSame, same]
  | record other => rfl
  | leaf value => rfl
  | list items => rfl
  | tuple items => rfl

theorem bind_enclosing (id : Nat) (name : String) (item : Item) (other : Nat) :
    ((store.bind id name item).scopeAt other).enclosing = (store.scopeAt other).enclosing := by
  simp only [scopeAt, bind, List.getElem?_modify]
  by_cases same : id = other
  · cases store.scopes[other]? <;> simp [same]
  · simp [same]

/-- Writing a member changes that member of that record and nothing else. -/
theorem setMember_contents (id : Nat) (name : String) (item : Item) (held : store.Holds target) :
    (store.setMember id name item).contents target =
      if (Item.record id).isSame target then (store.contents target).put name item else store.contents target := by
  cases target with
  | record other =>
    have inside : other < store.records.length := held
    by_cases same : id = other
    · subst same
      simp [contents, membersOf, setMember, Item.isSame, List.getElem?_eq_getElem inside]
    · simp [contents, membersOf, setMember, Item.isSame, same]
  | scope other => rfl
  | leaf value => rfl
  | list items => rfl
  | tuple items => rfl

end Store

namespace Commit
variable {commit : Commit} {before after : Store} {target : Item}

/-- A scope or a record of the store can be written into. -/
theorem write_ok (held : before.Holds commit.target) : ∃ after, commit.write before = .ok after := by
  unfold write
  cases place : commit.target with
  | scope id => exact ⟨_, rfl⟩
  | record id => exact ⟨_, rfl⟩
  | leaf value => simp [place, Store.Holds] at held
  | list items => simp [place, Store.Holds] at held
  | tuple items => simp [place, Store.Holds] at held

theorem write_holds (written : commit.write before = .ok after) : after.Holds target ↔ before.Holds target := by
  unfold write at written
  split at written
  · cases written
    exact Store.bind_holds _ _ _
  · cases written
    exact Store.setMember_holds _ _ _
  · cases written

/-- A commit opens no scope. -/
theorem write_scopes (written : commit.write before = .ok after) : after.scopes.length = before.scopes.length := by
  unfold write at written
  split at written
  · cases written
    exact List.length_modify ..
  · cases written
    rfl
  · cases written

/-- A commit moves no scope. -/
theorem write_enclosing (written : commit.write before = .ok after) (id : Nat) :
    (after.scopeAt id).enclosing = (before.scopeAt id).enclosing := by
  unfold write at written
  split at written
  · cases written
    exact Store.bind_enclosing _ _ _ id
  · cases written
    rfl
  · cases written

/-- A commit changes its own key of its own target and nothing else. -/
theorem write_contents (written : commit.write before = .ok after) (held : before.Holds target) :
    after.contents target =
      if commit.target.isSame target then (before.contents target).put commit.key commit.value
      else before.contents target := by
  unfold write at written
  split at written
  · rename_i id place
    cases written
    rw [place]
    exact Store.bind_contents _ _ _ held
  · rename_i id place
    cases written
    rw [place]
    exact Store.setMember_contents _ _ _ held
  · cases written

end Commit
end Colloquy
