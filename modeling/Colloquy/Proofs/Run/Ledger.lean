import Colloquy.Proofs.Run.Handler

/-! The history as a ledger of the store. Whatever is bound in a scope or held by a record changes through commits only,
each of which is written down as it happens; so what a scope or record contains later is what it contained before, with
the commits that were written down since carried out in their order. -/
namespace Colloquy

/-- The commits among some events, each with the call that it was made for. -/
def commitsIn (events : List Event) : List (ToolCall × Commit) :=
  events.filterMap fun
    | .committed call commit => some (call, commit)
    | _ => none

/-- What the contents of a target become through the commits among some events. -/
def committedInto (target : Item) (events : List Event) (contents : Fields Item) : Fields Item :=
  (commitsIn events).foldl (fun contents entry =>
    if entry.2.target.isSame target then contents.put entry.2.key entry.2.value else contents) contents

/-- Whether an event is a commit. -/
def Event.isCommit : Event → Bool
  | .committed _ _ => true
  | _ => false

theorem commitsIn_append (early late : List Event) : commitsIn (early ++ late) = commitsIn early ++ commitsIn late :=
  List.filterMap_append

theorem commitsIn_none {events : List Event} (none : ∀ event ∈ events, event.isCommit = false) :
    commitsIn events = [] := by
  refine List.filterMap_eq_nil_iff.mpr fun event member => ?_
  have known := none event member
  cases event <;> first | rfl | cases known

theorem committedInto_append (target : Item) (early late : List Event) (contents : Fields Item) :
    committedInto target (early ++ late) contents =
      committedInto target late (committedInto target early contents) := by
  rw [committedInto, commitsIn_append, List.foldl_append]
  rfl

/-- Events without a commit into the target leave its contents alone. -/
theorem committedInto_spared {target : Item} {events : List Event}
    (spared : ∀ entry ∈ commitsIn events, entry.2.target.isSame target = false) (contents : Fields Item) :
    committedInto target events contents = contents := by
  unfold committedInto
  generalize commitsIn events = commits at spared
  induction commits with
  | nil => rfl
  | cons entry rest ih =>
    rw [List.foldl_cons, spared entry List.mem_cons_self]
    exact ih fun other member => spared other (List.mem_cons_of_mem _ member)

/-- Between two worlds the history only grew, no scope and no record was lost, each scope is where it was, and all
changes of what was there are commits in the history. -/
structure Accounted (before after : World) : Prop where
  history : before.history <+: after.history
  holds : ∀ target, before.store.Holds target → after.store.Holds target
  enclosing : ∀ id, id < before.store.scopes.length →
    (after.store.scopeAt id).enclosing = (before.store.scopeAt id).enclosing
  contents : ∀ target, before.store.Holds target →
    after.store.contents target = committedInto target (before.since after) (before.store.contents target)

namespace Accounted
variable {before middle after : World}

theorem refl (world : World) : Accounted world world := by
  refine ⟨List.prefix_refl _, fun _ held => held, fun _ _ => rfl, fun target _ => ?_⟩
  rw [World.since_self]
  rfl

theorem trans (first : Accounted before middle) (second : Accounted middle after) : Accounted before after := by
  refine ⟨first.history.trans second.history, fun target held => second.holds target (first.holds target held), ?_, ?_⟩
  · intro id inside
    exact (second.enclosing id (first.holds (.scope id) inside)).trans (first.enclosing id inside)
  · intro target held
    rw [World.since_trans first.history second.history, committedInto_append, ← first.contents target held]
    exact second.contents target (first.holds target held)

theorem records_length (accounted : Accounted before after) :
    before.store.records.length ≤ after.store.records.length := by
  refine Nat.le_of_not_lt fun fewer => ?_
  have held : before.store.Holds (.record after.store.records.length) := fewer
  exact Nat.lt_irrefl _ (accounted.holds _ held)

/-- A step that adds to the store, and writes down no commit, is accounted for. -/
theorem of_extends (extended : before.store.Extends after.store)
    (writes : World.Writes (fun event => !event.isCommit) before after) : Accounted before after := by
  refine ⟨writes.grows, fun target held => extended.holds held, fun id => extended.enclosing, fun target held => ?_⟩
  have none : commitsIn (before.since after) = [] :=
    commitsIn_none fun event member => by simpa using writes.since event member
  rw [committedInto, none]
  exact extended.contents held

theorem of_prepares (prepares : Prepares before after) : Accounted before after :=
  of_extends prepares.store (prepares.history.mono fun event known => by cases event <;> first | rfl | cases known)

theorem of_record {event : Event} (harmless : event.isCommit = false) (world : World) :
    Accounted world (world.record event) :=
  of_extends (Store.extends_refl _) (.of_record (by simp [harmless]) world)

theorem of_said (world : World) (message : Message) : Accounted world (world.said message) :=
  of_extends (Store.extends_refl _) (.of_record rfl _)

theorem of_heard (world : World) (answer : Option String) (rest : List (Option String)) :
    Accounted world (world.heard answer rest) :=
  of_extends (Store.extends_refl _) (.of_record rfl _)

/-- A commit is the change that it writes down. -/
theorem of_wrote {world : World} {call : ToolCall} {commit : Commit} {store : Store}
    (written : commit.write world.store = .ok store) : Accounted world (world.wrote call commit store) := by
  refine ⟨⟨_, rfl⟩, fun target held => (Commit.write_holds written).mpr held,
    fun id _ => Commit.write_enclosing written id, fun target held => ?_⟩
  rw [World.since_eq (World.wrote_history world call commit store)]
  exact Commit.write_contents written held

end Accounted
end Colloquy
