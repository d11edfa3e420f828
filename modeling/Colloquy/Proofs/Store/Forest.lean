import Mathlib.Data.List.Basic
import Colloquy.Proofs.Store.Fields
import Colloquy.Proofs.Store.Scopes

/-! Forests of scopes. Scopes are opened beside and inside one another and names are bound in them, in any order. What a
scope shows in the end is told by the steps alone: a look-up finds what was bound last in the first scope on the way out
that has the name, and the flat view and the depth agree with it. -/
namespace Colloquy

/-- A step in the growth of a forest: a scope is opened with bindings of its own, inside another one or inside none, or
a name is bound in a scope. Scopes are numbered in the order in which they are opened. -/
inductive ScopeStep where
  | opened (parent : Option Nat) (seed : Fields Item)
  | bound (scope : Nat) (name : String) (item : Item)

namespace ScopeStep

/-- The scope that a step opens: the one it is inside of and its bindings. -/
def opening? : ScopeStep → Option (Option Nat × Fields Item)
  | opened parent seed => some (parent, seed)
  | bound _ _ _ => none

/-- What a step binds in a scope that is there. -/
def entry? (scope : Nat) : ScopeStep → Option (String × Item)
  | opened _ _ => none
  | bound id name item => if id = scope then some (name, item) else none

end ScopeStep

/-- The scopes that steps open. -/
def openings (steps : List ScopeStep) : List (Option Nat × Fields Item) := steps.filterMap ScopeStep.opening?

/-- The scope that a scope is opened inside of. -/
def parentIn (steps : List ScopeStep) (scope : Nat) : Option Nat := (openings steps)[scope]?.bind Prod.fst

/-- All that is ever bound in a scope, in order: what it is opened with and then what steps bind in it. -/
def boundIn (steps : List ScopeStep) (scope : Nat) : List (String × Item) :=
  (openings steps)[scope]?.elim [] Prod.snd ++ steps.filterMap (ScopeStep.entry? scope)

/-- The scopes from one scope outward, each followed by the one it was opened inside of. -/
inductive Lineage (steps : List ScopeStep) : Nat → List Nat → Prop where
  | root {scope : Nat} (outermost : parentIn steps scope = none) : Lineage steps scope [scope]
  | inside {scope parent : Nat} {outward : List Nat} (within : parentIn steps scope = some parent)
      (onward : Lineage steps parent outward) : Lineage steps scope (scope :: outward)

/-- No scope before the given one has the name. -/
def Exposed (steps : List ScopeStep) (scopes : List Nat) (target : Nat) (name : String) : Prop :=
  ∃ inner outer, scopes = inner ++ target :: outer ∧ ∀ id ∈ inner, name ∉ Fields.names (boundIn steps id)

/-- The stores that steps lead to. A seed is a mapping, so its names are distinct; it is given by its entries, so what
happens to a record that it was copied from happens elsewhere, like anything else that leaves the scopes alone. -/
inductive Forest : List ScopeStep → Store → Prop where
  | start {store : Store} (scopeless : store.scopes = []) : Forest [] store
  | opened {steps : List ScopeStep} {store : Store} {parent : Option Nat} {seed : Fields Item}
      (forest : Forest steps store) (there : ∀ id, parent = some id → id < store.scopes.length)
      (distinct : seed.names.Nodup) : Forest (steps ++ [.opened parent seed]) (store.openScope parent seed).2
  | bound {steps : List ScopeStep} {store : Store} {scope : Nat} {name : String} {item : Item}
      (forest : Forest steps store) (there : scope < store.scopes.length) :
      Forest (steps ++ [.bound scope name item]) (store.bind scope name item)
  | elsewhere {steps : List ScopeStep} {store after : Store} (forest : Forest steps store)
      (kept : after.scopes = store.scopes) : Forest steps after

/-! ## What steps say -/

section Steps
variable {steps : List ScopeStep} {parent : Option Nat} {seed : Fields Item} {scope target : Nat} {name other : String}
  {item : Item}

theorem openings_opened : openings (steps ++ [.opened parent seed]) = openings steps ++ [(parent, seed)] := by
  simp [openings, ScopeStep.opening?]

theorem openings_bound : openings (steps ++ [.bound target name item]) = openings steps := by
  simp [openings, ScopeStep.opening?]

theorem getElem?_openings_opened : (openings (steps ++ [.opened parent seed]))[scope]? =
    if scope = (openings steps).length then some (parent, seed) else (openings steps)[scope]? := by
  rw [openings_opened]
  rcases Nat.lt_trichotomy scope (openings steps).length with old | rfl | late
  · rw [if_neg (Nat.ne_of_lt old), List.getElem?_append_left old]
  · rw [if_pos rfl, List.getElem?_concat_length]
  · rw [if_neg (Nat.ne_of_gt late), List.getElem?_eq_none (Nat.le_of_lt late), List.getElem?_eq_none]
    rwa [List.length_append]

theorem parentIn_opened : parentIn (steps ++ [.opened parent seed]) scope =
    if scope = (openings steps).length then parent else parentIn steps scope := by
  rw [parentIn, getElem?_openings_opened]
  split <;> rfl

theorem parentIn_bound : parentIn (steps ++ [.bound target name item]) scope = parentIn steps scope := by
  rw [parentIn, parentIn, openings_bound]

/-- Opening a scope puts its seed in front of all that is bound there. -/
theorem boundIn_opened : boundIn (steps ++ [.opened parent seed]) scope =
    (if scope = (openings steps).length then seed else []) ++ boundIn steps scope := by
  have silent : [ScopeStep.opened parent seed].filterMap (ScopeStep.entry? scope) = [] := rfl
  rw [boundIn, boundIn, getElem?_openings_opened, List.filterMap_append, silent, List.append_nil]
  split
  · rename_i same
    rw [same, List.getElem?_eq_none (Nat.le_refl _)]
    rfl
  · rfl

/-- Binding a name in a scope puts it behind all that was bound there. -/
theorem boundIn_bound : boundIn (steps ++ [.bound target name item]) scope =
    boundIn steps scope ++ if target = scope then [(name, item)] else [] := by
  rw [boundIn, boundIn, openings_bound, List.filterMap_append, ← List.append_assoc]
  congr 1
  by_cases same : target = scope <;> simp [ScopeStep.entry?, same]

/-- The last value of a name in a scope, after one more binding. -/
theorem last?_boundIn_bound : Fields.last? (boundIn (steps ++ [.bound target name item]) scope) other =
    if target = scope ∧ name = other then some item else Fields.last? (boundIn steps scope) other := by
  rw [boundIn_bound, Fields.last?_append]
  by_cases here : target = scope
  · by_cases same : name = other <;> simp [here, same, Fields.last?]
  · simp [here, Fields.last?]

end Steps

namespace Store
variable {steps : List ScopeStep} {store after : Store} {scope target id : Nat} {name other : String} {item : Item}

/-! ## What a forest is like

Each scope is opened inside an earlier one, and its own bindings are what the steps bind in it. -/

/-- The scopes of a store are as the steps say. -/
structure Follows (steps : List ScopeStep) (store : Store) : Prop where
  length : store.scopes.length = (openings steps).length
  earlier : ∀ id parent, parentIn steps id = some parent → parent < id
  enclosing : ∀ id, id < store.scopes.length → (store.scopeAt id).enclosing = (parentIn steps id).elim [] store.chain
  bindings : ∀ id, id < store.scopes.length → store.bindingsOf id = Fields.ofPairs (boundIn steps id)
  silent : ∀ id, store.scopes.length ≤ id → boundIn steps id = []

theorem Follows.congr (follows : Follows steps store) (kept : after.scopes = store.scopes) : Follows steps after := by
  have scopeAt : after.scopeAt = store.scopeAt := by
    funext id
    rw [Store.scopeAt, Store.scopeAt, kept]
  have chain : after.chain = store.chain := funext fun id => chain_congr (congrFun scopeAt id)
  refine ⟨kept ▸ follows.length, follows.earlier, fun id inside => ?_, fun id inside => ?_, kept ▸ follows.silent⟩
  · rw [scopeAt, chain]
    exact follows.enclosing id (kept ▸ inside)
  · rw [bindingsOf, scopeAt]
    exact follows.bindings id (kept ▸ inside)

theorem Follows.opened {parent : Option Nat} {seed : Fields Item} (follows : Follows steps store)
    (there : ∀ id, parent = some id → id < store.scopes.length) (distinct : seed.names.Nodup) :
    Follows (steps ++ [.opened parent seed]) (store.openScope parent seed).2 := by
  have before {id : Nat} (inside : id < store.scopes.length) := openScope_before store seed parent inside
  have own := openScope_scopeAt store seed parent
  have length := openScope_length store seed parent
  have split {id : Nat} (inside : id < (store.openScope parent seed).2.scopes.length) :
      id = store.scopes.length ∨ id < store.scopes.length := by omega
  -- The scopes around the new one and around an old one are old, so they are as before.
  have outward (outer : Option Nat) (inside : ∀ id, outer = some id → id < store.scopes.length) :
      outer.elim [] (store.openScope parent seed).2.chain = outer.elim [] store.chain := by
    cases outer with
    | none => rfl
    | some id => exact chain_congr (before (inside id rfl))
  refine ⟨?_, fun id outer within => ?_, fun id inside => ?_, fun id inside => ?_, fun id outside => ?_⟩
  · rw [length, openings_opened, List.length_append, follows.length, List.length_singleton]
  · rw [parentIn_opened, ← follows.length] at within
    split at within
    · rename_i new
      exact new ▸ there outer within
    · exact follows.earlier id outer within
  · rw [parentIn_opened, ← follows.length]
    rcases split inside with rfl | old
    · rw [own, if_pos rfl, outward parent there]
    · rw [before old, if_neg (Nat.ne_of_lt old), follows.enclosing id old]
      exact (outward _ fun outer within => Nat.lt_trans (follows.earlier id outer within) old).symm
  · rw [bindingsOf, boundIn_opened, ← follows.length]
    rcases split inside with rfl | old
    · rw [own, if_pos rfl, follows.silent _ (Nat.le_refl _), List.append_nil, Fields.ofPairs_of_distinct distinct]
    · rw [before old, if_neg (Nat.ne_of_lt old)]
      exact follows.bindings id old
  · rw [length] at outside
    rw [boundIn_opened, ← follows.length, if_neg (by omega), follows.silent id (by omega)]
    rfl

theorem Follows.bound (follows : Follows steps store) (there : target < store.scopes.length) :
    Follows (steps ++ [.bound target name item]) (store.bind target name item) := by
  have length : (store.bind target name item).scopes.length = store.scopes.length := List.length_modify ..
  have enclosing (other : Nat) : ((store.bind target name item).scopeAt other).enclosing =
      (store.scopeAt other).enclosing := bind_enclosing target name item other
  have chain : (store.bind target name item).chain = store.chain := by
    funext id
    rw [Store.chain, Store.chain, enclosing]
  refine ⟨?_, fun id outer within => ?_, fun id inside => ?_, fun id inside => ?_, fun id outside => ?_⟩
  · rw [length, openings_bound, follows.length]
  · rw [parentIn_bound] at within
    exact follows.earlier id outer within
  · rw [enclosing, parentIn_bound, chain]
    exact follows.enclosing id (length ▸ inside)
  · rw [length] at inside
    have written := bind_contents target name item (show store.Holds (.scope id) from inside)
    change (store.bind target name item).bindingsOf id = _ at written
    rw [written, boundIn_bound]
    by_cases same : target = id
    · rw [if_pos same, Fields.ofPairs_concat, ← follows.bindings id inside]
      simp [Item.isSame, same, contents]
    · simpa [Item.isSame, same, contents] using follows.bindings id inside
  · rw [length] at outside
    rw [boundIn_bound, follows.silent id outside, if_neg (by omega)]
    rfl

theorem follows_of_forest (forest : Forest steps store) : Follows steps store := by
  induction forest with
  | start scopeless =>
    refine ⟨by rw [scopeless]; rfl, nofun, fun id inside => ?_, fun id inside => ?_, fun id outside => rfl⟩
    · rw [scopeless] at inside
      cases inside
    · rw [scopeless] at inside
      cases inside
  | opened forest there distinct ih => exact ih.opened there distinct
  | bound forest there ih => exact ih.bound there
  | elsewhere forest kept ih => exact ih.congr kept

/-! ## Lineages -/

section Lineages
variable (follows : Follows steps store)
include follows

/-- The way out of a scope leads along parents, as it was when the scope was opened. -/
theorem Follows.lineage (inside : scope < store.scopes.length) : Lineage steps scope (store.chain scope) := by
  induction scope using Nat.strongRecOn with
  | ind scope ih =>
    have enclosing := follows.enclosing scope inside
    cases within : parentIn steps scope with
    | none =>
      rw [chain, enclosing, within]
      exact .root within
    | some parent =>
      have earlier := follows.earlier scope parent within
      rw [chain, enclosing, within]
      exact .inside within (ih parent earlier (Nat.lt_trans earlier inside))

/-- The scopes around a scope were opened before it. -/
theorem Follows.chain_le (inside : scope < store.scopes.length) : ∀ id ∈ store.chain scope, id ≤ scope := by
  have lineage := follows.lineage inside
  generalize store.chain scope = scopes at lineage
  clear inside
  induction lineage with
  | root outermost => simp
  | @inside scope parent outward within onward ih =>
    have earlier := follows.earlier scope parent within
    intro id member
    rcases List.mem_cons.mp member with rfl | further
    · exact Nat.le_refl id
    · have := ih id further
      omega

/-- A scope is not around those that enclose it, nor around one that was opened inside the same scope. -/
theorem Follows.not_mem_chain (insideScope : scope < store.scopes.length) (insideTarget : target < store.scopes.length)
    (apart : target ≠ scope) (kin : scope ∈ store.chain target ∨ parentIn steps target = parentIn steps scope) :
    target ∉ store.chain scope := by
  intro around
  have above := follows.chain_le insideScope target around
  rcases kin with encloses | sibling
  · have := follows.chain_le insideTarget scope encloses
    omega
  · rw [chain, follows.enclosing scope insideScope, ← sibling] at around
    have outward := (List.mem_cons.mp around).resolve_left apart
    cases within : parentIn steps target with
    | none =>
      rw [within] at outward
      cases outward
    | some parent =>
      rw [within] at outward
      have earlier := follows.earlier target parent within
      have := follows.chain_le (Nat.lt_trans earlier insideTarget) target outward
      omega

end Lineages

/-! ## Looking up -/

section Lookups
variable (follows : Follows steps store)
include follows

theorem Follows.chain_inside (inside : scope < store.scopes.length) :
    ∀ id ∈ store.chain scope, id < store.scopes.length :=
  fun id member => Nat.lt_of_le_of_lt (follows.chain_le inside id member) inside

theorem Follows.get?_bindings (inside : id < store.scopes.length) (name : String) :
    (store.bindingsOf id).get? name = Fields.last? (boundIn steps id) name := by
  rw [follows.bindings id inside, Fields.get?_ofPairs]

/-- A look-up asks one scope after another for what was bound last under the name. -/
theorem Follows.lookup_eq (inside : scope < store.scopes.length) (name : String) :
    store.lookup scope name = (store.chain scope).findSome? fun id => Fields.last? (boundIn steps id) name := by
  rw [lookup, ← List.head?_filterMap, ← List.head?_filterMap, List.filterMap_congr fun id member => ?_]
  exact follows.get?_bindings (follows.chain_inside inside id member) name

theorem Follows.lookup_eq_some (inside : scope < store.scopes.length) : store.lookup scope name = some item ↔
    ∃ own, Exposed steps (store.chain scope) own name ∧ Fields.last? (boundIn steps own) name = some item := by
  rw [follows.lookup_eq inside, List.findSome?_eq_some_iff]
  simp only [Fields.last?_eq_none_iff]
  constructor
  · rintro ⟨inner, own, outer, split, found, before⟩
    exact ⟨own, ⟨inner, outer, split, before⟩, found⟩
  · rintro ⟨own, ⟨inner, outer, split, before⟩, found⟩
    exact ⟨inner, own, outer, split, found, before⟩

theorem Follows.lookup_eq_none (inside : scope < store.scopes.length) : store.lookup scope name = none ↔
    ∀ id ∈ store.chain scope, name ∉ Fields.names (boundIn steps id) := by
  rw [follows.lookup_eq inside, List.findSome?_eq_none_iff]
  simp only [Fields.last?_eq_none_iff]

/-! ## Binding -/

theorem Follows.bind_lookup (inside : scope < store.scopes.length) (there : target < store.scopes.length) :
    (store.bind target name item).lookup scope other = (store.chain scope).findSome? fun id =>
      if target = id ∧ name = other then some item else Fields.last? (boundIn steps id) other := by
  have length : (store.bind target name item).scopes.length = store.scopes.length := List.length_modify ..
  have chain : (store.bind target name item).chain scope = store.chain scope := by
    rw [Store.chain, Store.chain, bind_enclosing]
  rw [(follows.bound there).lookup_eq (length ▸ inside), chain]
  simp only [last?_boundIn_bound]

/-- A name that is bound where no scope before has it is found there. -/
theorem Follows.bind_exposed (inside : scope < store.scopes.length)
    (exposed : Exposed steps (store.chain scope) target name) :
    (store.bind target name item).lookup scope name = some item := by
  obtain ⟨inner, outer, split, before⟩ := exposed
  have there := follows.chain_inside inside target (by rw [split]; simp)
  rw [follows.bind_lookup inside there, split, List.findSome?_append]
  cases found : inner.findSome? fun id =>
      if target = id ∧ name = name then some item else Fields.last? (boundIn steps id) name with
  | none => simp
  | some value =>
    -- Only the target itself could have the name before.
    obtain ⟨id, member, seen⟩ := List.exists_of_findSome?_eq_some found
    rw [Fields.last?_eq_none (before id member)] at seen
    split at seen
    · rw [← seen]
      rfl
    · cases seen

/-- A name that is bound anywhere else changes nothing that a scope sees. -/
theorem Follows.bind_hidden (inside : scope < store.scopes.length) (there : target < store.scopes.length)
    (hidden : other = name → ¬ Exposed steps (store.chain scope) target name) :
    (store.bind target name item).lookup scope other = store.lookup scope other := by
  rw [follows.bind_lookup inside there, follows.lookup_eq inside]
  by_cases same : name = other
  · subst same
    have hidden := hidden rfl
    rw [Exposed] at hidden
    generalize store.chain scope = scopes at hidden
    induction scopes with
    | nil => rfl
    | cons first rest ih =>
      have apart : target ≠ first := by
        rintro rfl
        exact hidden ⟨[], rest, rfl, nofun⟩
      rw [List.findSome?_cons, List.findSome?_cons, if_neg fun both => apart both.1]
      cases found : Fields.last? (boundIn steps first) name with
      | some value => rfl
      | none =>
        refine ih ?_
        rintro ⟨inner, outer, rfl, before⟩
        exact hidden ⟨first :: inner, outer, rfl, List.forall_mem_cons.mpr ⟨Fields.last?_eq_none_iff.mp found, before⟩⟩
  · simp only [same, and_false, if_false]

/-! ## The flat view -/

omit follows in
theorem flatten_eq (store : Store) (scope : Nat) :
    store.flatten scope = Fields.ofPairs ((store.chain scope).reverse.flatMap store.bindingsOf) :=
  Fields.foldl_merge ..

/-- The flat view has what a look-up finds. -/
theorem Follows.flatten_get? (inside : scope < store.scopes.length) (name : String) :
    (store.flatten scope).get? name = store.lookup scope name := by
  rw [flatten_eq, Fields.get?_ofPairs, lookup]
  have around := follows.chain_inside inside
  generalize store.chain scope = scopes at around
  induction scopes with
  | nil => rfl
  | cons first rest ih =>
    have here := around first List.mem_cons_self
    have distinct : (store.bindingsOf first).names.Nodup := by
      rw [follows.bindings first here, Fields.names_ofPairs]
      exact Fields.eraseDups_nodup _
    rw [List.reverse_cons, List.flatMap_append, List.flatMap_singleton, Fields.last?_append,
      ih fun id member => around id (List.mem_cons_of_mem _ member), Fields.last?_of_distinct distinct,
      List.findSome?_cons]
    cases (store.bindingsOf first).get? name <;> rfl

/-- The names of the flat view stand in the order in which they were first bound, from the outermost scope on. -/
theorem Follows.flatten_names (inside : scope < store.scopes.length) : (store.flatten scope).names =
    ((store.chain scope).reverse.flatMap fun id => Fields.names (boundIn steps id)).eraseDups := by
  have own : ∀ id ∈ (store.chain scope).reverse,
      (store.bindingsOf id).names = (Fields.names (boundIn steps id)).eraseDups := by
    intro id member
    rw [follows.bindings id (follows.chain_inside inside id (List.mem_reverse.mp member)), Fields.names_ofPairs]
    rfl
  rw [flatten_eq, Fields.names_ofPairs, List.map_flatMap,
    ← Fields.eraseDups_flatMap _ fun id => Fields.names (boundIn steps id)]
  exact congrArg List.eraseDups (List.flatMap_congr own)

theorem Follows.depth_eq (inside : scope < store.scopes.length) :
    store.depth scope = (parentIn steps scope).elim 0 fun parent => store.depth parent + 1 := by
  rw [depth, follows.enclosing scope inside]
  cases parentIn steps scope <;> rfl

end Lookups

/-! ## What a scope shows -/

/-- What a scope of a forest shows, told by the steps. -/
structure Shows (steps : List ScopeStep) (store : Store) (scope : Nat) : Prop where
  lineage : Lineage steps scope (store.chain scope)
  lookup_eq_some : ∀ name item, store.lookup scope name = some item ↔
    ∃ own, Exposed steps (store.chain scope) own name ∧ Fields.last? (boundIn steps own) name = some item
  lookup_eq_none : ∀ name, store.lookup scope name = none ↔
    ∀ id ∈ store.chain scope, name ∉ Fields.names (boundIn steps id)
  bind_exposed : ∀ target name item, Exposed steps (store.chain scope) target name →
    (store.bind target name item).lookup scope name = some item
  bind_hidden : ∀ target, target < store.scopes.length → ∀ name item other,
    (other = name → ¬ Exposed steps (store.chain scope) target name) →
      (store.bind target name item).lookup scope other = store.lookup scope other
  bind_kin : ∀ target, target < store.scopes.length → target ≠ scope →
    (scope ∈ store.chain target ∨ parentIn steps target = parentIn steps scope) → ∀ name item other,
      (store.bind target name item).lookup scope other = store.lookup scope other
  bind_null : ∀ name, (store.bind scope name (.leaf .null)).lookup scope name = some (.leaf .null)
  bind_records : ∀ name item, (store.bind scope name item).records = store.records
  flatten_get? : ∀ name, (store.flatten scope).get? name = store.lookup scope name
  flatten_names : (store.flatten scope).names =
    ((store.chain scope).reverse.flatMap fun id => Fields.names (boundIn steps id)).eraseDups
  depth_eq : store.depth scope = (store.chain scope).length - 1
  depth_parent : store.depth scope = (parentIn steps scope).elim 0 fun parent => store.depth parent + 1

/-- However a forest was grown, each of its scopes shows what the steps say. A name is looked up from the scope outward;
binding a name is seen just from the scopes on whose way out nothing hides it. -/
theorem forest_shows (forest : Forest steps store) (inside : scope < store.scopes.length) : Shows steps store scope := by
  have follows := follows_of_forest forest
  have own (name : String) : Exposed steps (store.chain scope) scope name :=
    ⟨[], (store.scopeAt scope).enclosing, rfl, nofun⟩
  refine ⟨follows.lineage inside, fun name item => follows.lookup_eq_some inside,
    fun name => follows.lookup_eq_none inside, fun target name item => follows.bind_exposed inside,
    fun target there name item other => follows.bind_hidden inside there, ?_,
    fun name => follows.bind_exposed inside (own name), fun name item => rfl, follows.flatten_get? inside,
    follows.flatten_names inside, rfl, follows.depth_eq inside⟩
  intro target there apart kin name item other
  refine follows.bind_hidden inside there fun _ exposed => ?_
  obtain ⟨inner, outer, split, -⟩ := exposed
  exact follows.not_mem_chain inside there apart kin (by rw [split]; simp)

/-- A name that is bound to nothing hides what an outer scope has under it. -/
theorem forest_shows_null : ∃ steps store, Forest steps store ∧ 1 < store.scopes.length ∧ Shows steps store 1 ∧
    store.lookup 1 "topic" = some (.leaf .null) ∧ store.lookup 0 "topic" = some (.leaf (.text "tides")) := by
  have root : Forest [.opened none [("topic", .leaf (.text "tides"))]]
      (Store.empty.openScope none [("topic", .leaf (.text "tides"))]).2 := .opened (.start rfl) nofun (by decide)
  have child := @Forest.opened _ _ (some 0) [] root (by rintro id ⟨⟩; decide) List.nodup_nil
  have forest := @Forest.bound _ _ 1 "topic" (.leaf .null) child (by decide)
  exact ⟨_, _, forest, by decide, forest_shows forest (by decide), rfl, rfl⟩

end Store
end Colloquy
