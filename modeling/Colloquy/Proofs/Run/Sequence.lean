import Mathlib.Data.List.Infix
import Colloquy.Proofs.Run.Basic

/-! Working through a list. Scripts, chats and the generations for several records all run one part for each of some
items, in order, until one fails. What is known of such a run is said once: it is a list of visits, each with the world
it starts from; up to a visit it is a run of its own; and what every visit does to the world adds up. -/
namespace Colloquy.Run
variable {σ ι : Type}

/-- Runs a part for each of some items, in order. Each is given what was gathered by the one before it. -/
def through (part : σ → ι → Run σ) (state : σ) : List ι → Run σ
  | [] => pure state
  | item :: rest => do through part (← part state item) rest

/-- An item that is reached, with what has been gathered by then and the world in which it is reached. -/
structure Visit (σ ι : Type) where
  item : ι
  state : σ
  before : World

namespace Visit
variable (part : σ → ι → Run σ) (visit : Visit σ ι)

/-- What has been gathered with the item, or the error that it ends with. -/
def result : Except RunError σ := (part visit.state visit.item visit.before).1

/-- The world that the item leaves. -/
def after : World := (part visit.state visit.item visit.before).2

/-- What is written into the history for the item. -/
def events : List Event := visit.before.since (visit.after part)

end Visit

section
variable (part : σ → ι → Run σ)

/-- The items that are reached, in order: all of them, unless one fails. -/
def visits (state : σ) (world : World) : List ι → List (Visit σ ι)
  | [] => []
  | item :: rest =>
    ⟨item, state, world⟩ ::
      match part state item world with
      | (.ok next, middle) => visits next middle rest
      | (.error _, _) => []

/-- What can come of some items. -/
inductive Through : σ → World → List ι → List (Visit σ ι) → Except RunError σ → World → Prop
  | done (state : σ) (world : World) : Through state world [] [] (.ok state) world
  | next {state next : σ} {world middle after : World} {item : ι} {rest : List ι} {later : List (Visit σ ι)}
      {result : Except RunError σ} (ran : part state item world = (.ok next, middle))
      (more : Through next middle rest later result after) :
      Through state world (item :: rest) (⟨item, state, world⟩ :: later) result after
  | failed {state : σ} {world after : World} {item : ι} {error : RunError} (rest : List ι)
      (failed : part state item world = (.error error, after)) :
      Through state world (item :: rest) [⟨item, state, world⟩] (.error error) after

theorem through_visits (state : σ) (items : List ι) (world : World) :
    Through part state world items (visits part state world items) (through part state items world).1
      (through part state items world).2 := by
  induction items generalizing state world with
  | nil => exact .done state world
  | cons item rest ih =>
    simp only [through, visits]
    cases ran : part state item world with
    | mk result middle =>
      cases result with
      | error error =>
        rw [bind_error ran]
        exact .failed rest ran
      | ok next =>
        rw [bind_ok ran]
        exact .next ran (ih next middle)

end

variable {part : σ → ι → Run σ} {state : σ} {world after : World} {items : List ι} {log : List (Visit σ ι)}
  {result : Except RunError σ}

/-- The items are reached in order, and only the last one that is reached can have failed. -/
structure InOrder (part : σ → ι → Run σ) (items : List ι) (log : List (Visit σ ι)) (result : Except RunError σ) :
    Prop where
  order : log.map Visit.item <+: items
  earlier : ∀ visit ∈ log.dropLast, ∃ next, visit.result part = .ok next
  ended : ∀ state, result = .ok state → log.map Visit.item = items ∧ ∀ visit ∈ log, ∃ next, visit.result part = .ok next
  failed : ∀ error, result = .error error → ∃ last, log.getLast? = some last ∧ last.result part = .error error

theorem through_inOrder (ran : Through part state world items log result after) : InOrder part items log result := by
  induction ran with
  | done state world => exact ⟨List.prefix_refl _, by simp, fun _ _ => ⟨rfl, by simp⟩, nofun⟩
  | @next state next world middle after item rest later result ran more ih =>
    have mine : ∃ next, (Visit.mk item state world).result part = .ok next := ⟨next, by rw [Visit.result, ran]⟩
    refine ⟨by simpa using ih.order, fun visit member => ?_, fun found ended => ?_, fun error failed => ?_⟩
    · cases later with
      | nil => cases member
      | cons second others =>
        rcases List.mem_cons.mp member with rfl | member
        · exact mine
        · exact ih.earlier visit member
    · obtain ⟨all, each⟩ := ih.ended found ended
      exact ⟨by rw [List.map_cons, all], List.forall_mem_cons.mpr ⟨mine, each⟩⟩
    · obtain ⟨last, isLast, same⟩ := ih.failed error failed
      exact ⟨last, by rw [List.getLast?_cons, isLast]; rfl, same⟩
  | @failed state world after item error rest failed =>
    refine ⟨List.prefix_append [item] rest, by simp, nofun, fun other ended => ⟨⟨item, state, world⟩, rfl, ?_⟩⟩
    cases ended
    rw [Visit.result, failed]

/-- An item that fails fails the whole. -/
theorem InOrder.ends (inOrder : InOrder part items log result) {visit : Visit σ ι} (member : visit ∈ log)
    {error : RunError} (failed : visit.result part = .error error) : result = .error error := by
  have unfinished : ∀ {next}, visit.result part ≠ .ok next := fun ended => by
    rw [failed] at ended
    cases ended
  cases ended : result with
  | ok state =>
    obtain ⟨next, done⟩ := (inOrder.ended state ended).2 visit member
    exact absurd done unfinished
  | error other =>
    obtain ⟨last, isLast, same⟩ := inOrder.failed other ended
    rw [← List.dropLast_append_getLast? last isLast] at member
    rcases List.mem_append.mp member with member | member
    · obtain ⟨next, done⟩ := inOrder.earlier visit member
      exact absurd done unfinished
    · rw [List.mem_singleton.mp member, same] at failed
      exact failed

/-- Up to an item that is reached, the items are run through to their end. -/
theorem through_upTo (ran : Through part state world items log result after) {early late : List (Visit σ ι)}
    {visit : Visit σ ι} (split : log = early ++ visit :: late) :
    Through part state world (early.map Visit.item) early (.ok visit.state) visit.before := by
  induction ran generalizing early with
  | done state world => simp at split
  | @next state next world middle after item rest later result ran more ih =>
    cases early with
    | nil =>
      obtain ⟨rfl, _⟩ := List.cons.inj split
      exact .done state world
    | cons first others =>
      obtain ⟨rfl, same⟩ := List.cons.inj split
      exact .next ran (ih same)
  | @failed state world after item error rest failed =>
    cases early with
    | nil =>
      obtain ⟨rfl, _⟩ := List.cons.inj split
      exact .done state world
    | cons first others => simp at split

/-- What is gathered stays within bounds that every item keeps to. -/
theorem through_states (good : σ → Prop) (ran : Through part state world items log result after) (start : good state)
    (keeps : ∀ visit ∈ log, good visit.state → ∀ next, visit.result part = .ok next → good next) :
    ∀ visit ∈ log, good visit.state := by
  induction ran with
  | done state world => simp
  | @next state next world middle after item rest later result ran more ih =>
    have onward : good next := keeps _ List.mem_cons_self start next (by rw [Visit.result, ran])
    have others := ih onward fun visit member => keeps visit (List.mem_cons_of_mem _ member)
    exact List.forall_mem_cons.mpr ⟨start, others⟩
  | failed rest failed => simpa using start

/-- What is gathered in all is what the items add to it in turn, where it is known what each of them adds. -/
theorem through_gathers (gather : σ → ι → σ)
    (each : ∀ state item world next, (part state item world).1 = .ok next → next = gather state item)
    (ran : Through part state world items log result after) : ∀ last, result = .ok last → last = items.foldl gather state := by
  induction ran with
  | done state world =>
    rintro last ⟨⟩
    rfl
  | @next state next world middle after item rest later result ran more ih =>
    intro last ended
    rw [List.foldl_cons, ← each state item world next (by rw [ran])]
    exact ih last ended
  | failed rest failed => nofun

/-- A relation that every item respects holds from the start to the end, and from either of them to each item. -/
theorem through_spanned {relation : World → World → Prop} (refl : ∀ world, relation world world)
    (trans : ∀ {before middle after}, relation before middle → relation middle after → relation before after)
    (ran : Through part state world items log result after)
    (each : ∀ visit ∈ log, relation visit.before (visit.after part)) :
    relation world after ∧ ∀ visit ∈ log, relation world visit.before ∧ relation (visit.after part) after := by
  induction ran with
  | done state world => exact ⟨refl world, by simp⟩
  | @next state next world middle after item rest later result ran more ih =>
    have step := each _ List.mem_cons_self
    simp only [Visit.after, ran] at step
    obtain ⟨whole, others⟩ := ih fun visit member => each visit (List.mem_cons_of_mem _ member)
    refine ⟨trans step whole, fun visit member => ?_⟩
    rcases List.mem_cons.mp member with rfl | member
    · refine ⟨refl world, ?_⟩
      rw [Visit.after, ran]
      exact whole
    · obtain ⟨early, late⟩ := others visit member
      exact ⟨trans step early, late⟩
  | @failed state world after item error rest failed =>
    have step := each _ List.mem_cons_self
    simp only [Visit.after, failed] at step
    refine ⟨step, fun visit member => ?_⟩
    obtain rfl := List.mem_singleton.mp member
    refine ⟨refl world, ?_⟩
    rw [Visit.after, failed]
    exact refl after

/-- Something about the world that every item changes in a known way has all these changes made to it, in order. -/
theorem through_folds {β : Type} (measure : World → β) (change : Visit σ ι → β → β)
    (ran : Through part state world items log result after)
    (each : ∀ visit ∈ log, measure (visit.after part) = change visit (measure visit.before)) :
    measure after = log.foldl (fun value visit => change visit value) (measure world) := by
  induction ran with
  | done state world => rfl
  | @next state next world middle after item rest later result ran more ih =>
    have step := each _ List.mem_cons_self
    simp only [Visit.after, ran] at step
    rw [List.foldl_cons, ih fun visit member => each visit (List.mem_cons_of_mem _ member), step]
  | @failed state world after item error rest failed =>
    have step := each _ List.mem_cons_self
    simp only [Visit.after, failed] at step
    rw [List.foldl_cons, List.foldl_nil, step]

/-- The histories of the items follow one another. -/
theorem through_grown (ran : Through part state world items log result after)
    (each : ∀ visit ∈ log, visit.before.history <+: (visit.after part).history) :
    after.history = world.history ++ log.flatMap (Visit.events part) := by
  have grown := through_folds World.history (fun visit history => history ++ visit.events part) ran
    fun visit member => World.since_spec (each visit member)
  rw [grown, List.foldl_append_eq_append, List.flatMap_def]

end Colloquy.Run
