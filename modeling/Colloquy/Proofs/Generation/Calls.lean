import Colloquy.Proofs.Conversation.Effects
import Colloquy.Proofs.Store.Placed
import Colloquy.Run.Evaluate

/-! The calls of a generation. A call of its own tool offers a value, and is kept at once, or if there is a review when
the reviewer accepts it; a call that is kept writes the value into the target under the name of the generation, and any
other call leaves the target alone. -/
namespace Colloquy

/-- A handler never wants anything written into a target. -/
def Handler.Spares (target : Item) (handler : Handler) : Prop :=
  ∀ arguments world action resolved commit, handler.respond arguments world = (.ok action, resolved) →
    action.commit = some commit → commit.target.isSame target = false

/-- No handler of a context ever wants anything written into a target. -/
def Context.Spares (context : Context Handler) (target : Item) : Prop :=
  ∀ name handler, context.handlers.get? name = some handler → handler.Spares target

/-- A reviewer's answer that accepts. -/
def Event.isAcceptance : Event → Bool
  | .answered answer => answer.all Text.isBlankText
  | _ => false

namespace Generation
variable (context : Context Handler) (generation : Generation) (target : Item)

/-- The handler that serves the tool of a generation. -/
def handler : Handler := .generation generation.tool target generation.store generation.feedback

/-- What the model is asked in the conversation of a generation. -/
def terms : Run.Terms :=
  ⟨context.withHandlers [(generation.tool.name, generation.handler target)], [generation.tool],
    some generation.tool.name, none⟩

/-- What is wanted of a value in place. -/
def wants (item : Item) : Action :=
  let commit := some ⟨target, generation.store, item, false⟩
  if generation.feedback then .review item commit none none else .close item commit

/-- Other handlers leave the target alone. -/
def SparedBy : Prop :=
  ∀ name handler, name ≠ generation.tool.name → context.handlers.get? name = some handler → handler.Spares target

variable {context target} in
theorem SparedBy.of_spares (spares : context.Spares target) : generation.SparedBy context target :=
  fun name handler _ found => spares name handler found

/-- The value that a call offers: its arguments, decoded and taken out of their wrapper. -/
def valueOf (call : ToolCall) : Value := generation.tool.unwrap (.ofJson call.given)

/-- The value that a call offers, in place. -/
def itemOf (serving : Run.Serving) : Item := (serving.before.store.place (generation.valueOf serving.call)).1

/-- A call of the generation's own tool whose value is kept: any without a review, else one that is accepted. -/
def keeps (serving : Run.Serving) : Bool :=
  serving.call.name == generation.tool.name && (!generation.feedback ||
    (serving.events (generation.terms context target).context).any Event.isAcceptance)

end Generation

namespace Run
open Generation
variable {context : Context Handler} {generation : Generation} {target : Item} {serving : Serving}

/-- The world in which the value that a call offers is in place. -/
def Serving.offered (generation : Generation) (serving : Serving) : World :=
  { serving.taken with store := (serving.before.store.place (generation.valueOf serving.call)).2 }

theorem own_handler (context : Context Handler) (generation : Generation) (target : Item) :
    (generation.terms context target).context.handlers.get? generation.tool.name = some (generation.handler target) :=
  Fields.get?_put_self ..

theorem other_handler {name : String} (apart : name ≠ generation.tool.name) :
    (generation.terms context target).context.handlers.get? name = context.handlers.get? name :=
  Fields.get?_put_other _ _ apart.symm

theorem own_resolves (own : serving.call.name = generation.tool.name) :
    serving.Resolves (generation.terms context target).context (generation.wants target (generation.itemOf serving))
      (serving.offered generation) := by
  refine ⟨generation.handler target, ?_, rfl⟩
  rw [own]
  exact own_handler context generation target

theorem offered_extends (generation : Generation) (serving : Serving) :
    serving.before.store.Extends (serving.offered generation).store :=
  Store.place_extends _ _

/-- What a call of the generation's own tool writes. -/
theorem own_events (context : Context Handler) (own : serving.call.name = generation.tool.name)
    (held : serving.before.store.Holds target) :
    ∃ account, serving.events (generation.terms context target).context = .dispatched serving.call :: account ∧
      Exact serving.call (serving.offered generation).store
        (serving.result (generation.terms context target).context) account
        (generation.wants target (generation.itemOf serving)) := by
  have resolves : serving.Resolves (generation.terms context target).context _ _ := own_resolves own
  obtain ⟨_, account, events⟩ := resolved_account resolves
  have none : serving.taken.since (serving.offered generation) = [] := World.since_eq (List.append_nil _).symm
  rw [none, List.nil_append] at events
  refine ⟨_, events, account_exact account fun commit wanted => ?_⟩
  have into : commit.target = target := by
    unfold wants at wanted
    cases feedback : generation.feedback <;> simp [feedback, Action.commit] at wanted <;> rw [← wanted]
  rw [into]
  exact (offered_extends generation serving).holds held

theorem accepts_iff (answer : Option String) : answer.all Text.isBlankText = true ↔ Accepts answer := by
  cases answer <;> simp [Accepts]

/-- A call of the generation's own tool has one commit, of the value that it offers, if it is kept, and else none. -/
theorem own_commits (own : serving.call.name = generation.tool.name) (held : serving.before.store.Holds target) :
    commitsIn (serving.events (generation.terms context target).context) =
      if generation.keeps context target serving then
        [(serving.call, ⟨target, generation.store, generation.itemOf serving, true⟩)] else [] := by
  obtain ⟨account, events, exact⟩ := own_events context own held
  unfold keeps
  rw [events, own, beq_self_eq_true, Bool.true_and]
  unfold wants at exact
  cases feedback : generation.feedback with
  | false =>
    simp only [feedback, Bool.false_eq_true, if_false] at exact
    obtain ⟨after, _, _, rfl⟩ := exact
    rfl
  | true =>
    simp only [feedback, if_true] at exact
    rcases exact with ⟨fault, _, _, rfl⟩ | ⟨text, _, ⟨_, rfl⟩ | ⟨answer, ended, accepts, _, _, _, rfl⟩ |
      ⟨revision, ended, visible, _, _, rfl⟩⟩
    · rfl
    · rfl
    · have agreed : answer.all Text.isBlankText = true := (accepts_iff answer).mpr accepts
      simp [reviewing, writing, Event.isAcceptance, agreed, commitsIn]
    · simp [reviewing, Event.isAcceptance, visible, commitsIn]

/-- A call of another tool leaves the target alone. -/
theorem other_commits (other : serving.call.name ≠ generation.tool.name) (spared : generation.SparedBy context target) :
    ∀ entry ∈ commitsIn (serving.events (generation.terms context target).context),
      entry.1.name ≠ generation.tool.name ∧ entry.2.target.isSame target = false := by
  intro entry member
  obtain ⟨action, resolved, commit, ⟨handler, found, ran⟩, wants, rfl⟩ := serving_commits entry member
  rw [other_handler other] at found
  exact ⟨other, spared _ handler other found _ _ _ _ commit ran wants⟩

/-- What a call of a conversation does to the target. -/
theorem serving_into (held : serving.before.store.Holds target) (spared : generation.SparedBy context target)
    (contents : Fields Item) :
    committedInto target (serving.events (generation.terms context target).context) contents =
      if generation.keeps context target serving then contents.put generation.store (generation.itemOf serving)
      else contents := by
  -- A call of the generation's own tool writes what it offers or nothing; any other call spares the target.
  by_cases own : serving.call.name = generation.tool.name
  · rw [committedInto, own_commits own held]
    cases kept : generation.keeps context target serving with
    | false => rfl
    | true => simp [Store.isSame_self held]
  · have notKept : generation.keeps context target serving = false := by simp [keeps, own]
    rw [committedInto_spared fun entry member => (other_commits own spared entry member).2, notKept]
    rfl

/-- Whether a call of a conversation produces a value. -/
theorem serving_produced (held : serving.before.store.Holds target) (spared : generation.SparedBy context target) :
    (commitsIn (serving.events (generation.terms context target).context)).any (·.1.name == generation.tool.name) =
      generation.keeps context target serving := by
  by_cases own : serving.call.name = generation.tool.name
  · rw [own_commits own held]
    cases kept : generation.keeps context target serving with
    | false => rfl
    | true => simp [own]
  · have notKept : generation.keeps context target serving = false := by simp [keeps, own]
    rw [notKept, List.any_eq_false]
    intro entry member
    simpa using (other_commits own spared entry member).1

/-! ## All calls -/

section Log
variable {log : List Serving} (held : ∀ serving ∈ log, serving.before.store.Holds target)
  (spared : generation.SparedBy context target)
include held spared

/-- The target has the values of the calls that are kept written into it, in order. -/
theorem log_into (contents : Fields Item) :
    committedInto target (log.flatMap (Serving.events (generation.terms context target).context)) contents =
      (log.filter (generation.keeps context target)).foldl
        (fun contents serving => contents.put generation.store (generation.itemOf serving)) contents := by
  induction log generalizing contents with
  | nil => rfl
  | cons serving rest ih =>
    have more := ih (fun other member => held other (List.mem_cons_of_mem _ member))
    rw [List.flatMap_cons, committedInto_append, serving_into (held serving List.mem_cons_self) spared, more]
    cases kept : generation.keeps context target serving with
    | false => simp [kept]
    | true => simp [kept]

theorem log_produced :
    (log.flatMap fun serving => commitsIn (serving.events (generation.terms context target).context)).any
      (·.1.name == generation.tool.name) = log.any (generation.keeps context target) := by
  rw [List.any_flatMap]
  induction log with
  | nil => rfl
  | cons serving rest ih =>
    rw [List.any_cons, List.any_cons, serving_produced (held serving List.mem_cons_self) spared,
      ih fun other member => held other (List.mem_cons_of_mem _ member)]

end Log

end Run
end Colloquy
