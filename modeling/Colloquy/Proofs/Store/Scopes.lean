import Colloquy.Proofs.Store.Contents
import Colloquy.Store.Binding

/-! Scopes that enclose one another, and the records under a name. A look-up sees the bindings of a scope and of those
around it and nothing else; a name stands for records only if a sequence is bound to it all of whose elements are
records. -/
namespace Colloquy

/-- The elements of a sequence in place. Lists and tuples are kept as such, and never in a leaf; of the values in a leaf
only ranges are sequences, of numbers. -/
def Item.elements? : Item → Option (List Item)
  | list items | tuple items => some items
  | leaf (.range start stop step) => some ((Value.rangeItems start stop step).map leaf)
  | _ => none

namespace Store
variable {store other : Store} {scope : Nat} {name : String}

/-! ## Looking up -/

/-- A look-up inside a scope that another one encloses: its own bindings first, and then those that the other one sees. -/
theorem lookup_inside {parent : Nat} (inside : (store.scopeAt scope).enclosing = store.chain parent) (name : String) :
    store.lookup scope name = ((store.bindingsOf scope).get? name).or (store.lookup parent name) := by
  unfold lookup
  rw [chain, List.findSome?_cons, inside]
  cases (store.bindingsOf scope).get? name <;> rfl

theorem chain_congr (same : other.scopeAt scope = store.scopeAt scope) : other.chain scope = store.chain scope := by
  rw [chain, chain, same]

/-- Two stores look a name up alike if they agree about the scope and those around it. -/
theorem lookup_congr (same : ∀ id ∈ store.chain scope, other.scopeAt id = store.scopeAt id) (name : String) :
    other.lookup scope name = store.lookup scope name := by
  unfold lookup
  rw [chain_congr (same scope List.mem_cons_self)]
  generalize store.chain scope = scopes at same
  induction scopes with
  | nil => rfl
  | cons id rest ih =>
    have here : other.bindingsOf id = store.bindingsOf id := congrArg Scope.bindings (same id List.mem_cons_self)
    rw [List.findSome?_cons, List.findSome?_cons, here, ih fun id member => same id (List.mem_cons_of_mem _ member)]

/-! ## Scopes that are kept -/

section Kept
variable {id : Nat}

theorem scopeAt_ext (enclosing : (other.scopeAt id).enclosing = (store.scopeAt id).enclosing)
    (contents : other.contents (.scope id) = store.contents (.scope id)) : other.scopeAt id = store.scopeAt id := by
  have bindings : (other.scopeAt id).bindings = (store.scopeAt id).bindings := contents
  calc other.scopeAt id
      = ⟨(other.scopeAt id).enclosing, (other.scopeAt id).bindings⟩ := rfl
    _ = store.scopeAt id := by rw [enclosing, bindings]

theorem Extends.scopeAt (extended : store.Extends other) (inside : id < store.scopes.length) :
    other.scopeAt id = store.scopeAt id :=
  scopeAt_ext (extended.enclosing inside) (extended.contents (show store.Holds (.scope id) from inside))

/-- What is there is not the scope that is opened next. -/
theorem Holds.apart {target : Item} (held : store.Holds target) :
    (Item.scope store.scopes.length).isSame target = false := by
  cases target with
  | scope other => exact beq_false_of_ne (Nat.ne_of_gt held)
  | _ => rfl

end Kept

/-! ## Opening -/

section Opening
variable (store) (bindings : Fields Item)

theorem openScope_length (parent : Option Nat) :
    (store.openScope parent bindings).2.scopes.length = store.scopes.length + 1 := by
  simp [openScope]

/-- A scope that is opened has the bindings it is given, inside its parent and those that its parent is inside of. -/
theorem openScope_scopeAt (parent : Option Nat) :
    (store.openScope parent bindings).2.scopeAt store.scopes.length = ⟨parent.elim [] store.chain, bindings⟩ := by
  cases parent <;> simp [openScope, scopeAt]

theorem openScope_before (parent : Option Nat) {id : Nat} (inside : id < store.scopes.length) :
    (store.openScope parent bindings).2.scopeAt id = store.scopeAt id := by
  simp only [openScope, scopeAt, List.getElem?_append_left inside]

/-- Opening a scope changes nothing that is seen from the scopes there are. -/
theorem openScope_lookup_before (parent : Option Nat) (inside : ∀ id ∈ store.chain scope, id < store.scopes.length)
    (name : String) : (store.openScope parent bindings).2.lookup scope name = store.lookup scope name :=
  lookup_congr (fun id member => openScope_before store bindings parent (inside id member)) name

/-- From a scope that is opened inside no other one, just its own bindings are seen. -/
theorem openScope_lookup_alone (name : String) :
    (store.openScope none bindings).2.lookup store.scopes.length name = Fields.get? bindings name := by
  have own := openScope_scopeAt store bindings none
  rw [lookup, chain, own, Option.elim_none, List.findSome?_singleton, bindingsOf, own]

/-- What is seen from a scope that is opened: its own bindings, and what its parent sees. -/
theorem openScope_lookup (parent : Nat) (enclosed : ∀ id ∈ store.chain parent, id < store.scopes.length)
    (name : String) : (store.openScope (some parent) bindings).2.lookup store.scopes.length name =
      (Fields.get? bindings name).or (store.lookup parent name) := by
  have own := openScope_scopeAt store bindings (some parent)
  have outward := chain_congr (openScope_before store bindings (some parent) (enclosed parent List.mem_cons_self))
  rw [lookup_inside (by rw [own, outward]; rfl), bindingsOf, own, openScope_lookup_before store bindings _ enclosed]

end Opening

/-! ## Records under a name -/

theorem recordsOf_eq_some {items : List Item} {ids : List Nat} :
    recordsOf items = some ids ↔ items = ids.map .record := by
  induction items generalizing ids with
  | nil => cases ids <;> simp [recordsOf]
  | cons item rest ih =>
    cases item with
    | record id =>
      cases ids with
      | nil => simp [recordsOf]
      | cons other others =>
        simp only [recordsOf, Option.map_eq_some_iff, ih, List.map_cons, List.cons.injEq, Item.record.injEq]
        constructor
        · rintro ⟨found, same, rfl, rfl⟩
          exact ⟨rfl, same⟩
        · rintro ⟨rfl, same⟩
          exact ⟨others, same, rfl, rfl⟩
    | leaf value => cases ids <;> simp [recordsOf]
    | list items => cases ids <;> simp [recordsOf]
    | tuple items => cases ids <;> simp [recordsOf]
    | scope id => cases ids <;> simp [recordsOf]

/-- No number of a range is a record. -/
theorem recordsOf_range (start stop step : Int) :
    recordsOf ((Value.rangeItems start stop step).map .leaf) =
      if Value.rangeLength start stop step == 0 then some [] else none := by
  unfold Value.rangeItems
  cases Value.rangeLength start stop step with
  | zero => rfl
  | succ n => simp [List.range_succ_eq_map, recordsOf]

/-- The records under a name are the elements of the sequence that is bound to it. -/
theorem requireRecords_eq (store : Store) (scope : Nat) (name : String) :
    store.requireRecords scope name =
      match store.lookup scope name with
      | none => .error ⟨name, none⟩
      | some item =>
        match item.elements?.bind recordsOf with
        | some ids => .ok ids
        | none => .error ⟨name, some "expected a sequence of records"⟩ := by
  unfold requireRecords require
  cases store.lookup scope name with
  | none => rfl
  | some item =>
    cases item with
    | list items | tuple items =>
      simp only [Item.elements?, Option.bind_some]
      change (match recordsOf items with | some ids => _ | none => _) = _
      cases recordsOf items <;> rfl
    | record id => rfl
    | scope id => rfl
    | leaf value =>
      cases value with
      | range start stop step =>
        simp only [Item.elements?, Option.bind_some, recordsOf_range]
        change (match (if _ then _ else _ : Option (List Nat)) with | some ids => _ | none => _) = _
        by_cases empty : (Value.rangeLength start stop step == 0) = true
        · rw [if_pos empty]; rfl
        · rw [if_neg empty]; rfl
      | _ => rfl

/-! What can come of asking for the records under a name. -/

theorem requireRecords_unbound (missing : store.lookup scope name = none) :
    store.requireRecords scope name = .error ⟨name, none⟩ := by
  rw [requireRecords_eq, missing]

theorem requireRecords_listed {item : Item} {ids : List Nat} (bound : store.lookup scope name = some item)
    (listed : item.elements? = some (ids.map .record)) : store.requireRecords scope name = .ok ids := by
  have all : item.elements?.bind recordsOf = some ids := by
    rw [listed, Option.bind_some]
    exact recordsOf_eq_some.mpr rfl
  rw [requireRecords_eq, bound]
  dsimp only
  rw [all]

theorem requireRecords_unfit {item : Item} (bound : store.lookup scope name = some item)
    (others : ∀ ids : List Nat, item.elements? ≠ some (ids.map .record)) :
    store.requireRecords scope name = .error ⟨name, some "expected a sequence of records"⟩ := by
  have none : item.elements?.bind recordsOf = none := by
    refine Option.bind_eq_none_iff.mpr fun items sequence => Option.eq_none_iff_forall_ne_some.mpr fun ids all => ?_
    exact others ids (by rw [sequence, recordsOf_eq_some.mp all])
  rw [requireRecords_eq, bound]
  dsimp only
  rw [none]

end Store
end Colloquy
