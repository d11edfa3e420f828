import Colloquy.Proofs.Run.Ledger
import Colloquy.Proofs.Run.Serving

/-! What is known of a call once it has been served, drawn from the outcomes of `Serving`: what it adds to the messages
and to the history, how it changes the store, and whether it asks for another round. -/
namespace Colloquy

/-- What may be written into the history between taking up a call and having served it. -/
def Event.isInCall : Event → Bool
  | .requested _ | .replied _ | .dispatched _ | .warned _ => false
  | _ => true

namespace Run

/-- A call, and the world in which it is taken up. -/
structure Serving where
  call : ToolCall
  before : World

namespace Serving
variable (context : Context Handler) (serving : Serving)

/-- Whether another round is needed, or the error that serving the call ends with. -/
def result : Except RunError Bool := (dispatch context serving.call serving.before).1

/-- The world that serving the call leaves. -/
def after : World := (dispatch context serving.call serving.before).2

/-- The world in which the handler of the call is asked. -/
def taken : World := serving.before.record (.dispatched serving.call)

/-- What is written into the history while the call is served. -/
def events : List Event := serving.before.since (serving.after context)

/-- The handler of the call wants an action, and leaves a world in which it is to be carried out. -/
def Resolves (action : Action) (resolved : World) : Prop :=
  ∃ handler, context.handlers.get? serving.call.name = some handler ∧
    handler.respond serving.call.given serving.taken = (.ok action, resolved)

end Serving

/-- What can come of serving a call. -/
inductive Dispatched (context : Context Handler) (serving : Serving) : Except RunError Bool → World → Prop
  | unknown (missing : context.handlers.get? serving.call.name = none) :
      Dispatched context serving (.error (.unknownTool serving.call.name))
        (serving.taken.said (.ofResult serving.call (.text (unknownToolText serving.call.name))))
  | unresolved {handler : Handler} {error : RunError} {after : World}
      (found : context.handlers.get? serving.call.name = some handler)
      (failed : handler.respond serving.call.given serving.taken = (.error error, after)) :
      Dispatched context serving (.error error) after
  | resolved {action : Action} {resolved after : World} {result : Except RunError Bool}
      (resolves : serving.Resolves context action resolved)
      (carried : Carried serving.call resolved action result after) : Dispatched context serving result after

theorem dispatch_unknown {context : Context Handler} {serving : Serving}
    (missing : context.handlers.get? serving.call.name = none) :
    dispatch context serving.call serving.before = (.error (.unknownTool serving.call.name),
      serving.taken.said (.ofResult serving.call (.text (unknownToolText serving.call.name)))) := by
  unfold dispatch
  rw [record_bind, missing]
  rfl

theorem dispatch_found {context : Context Handler} {serving : Serving} {handler : Handler}
    (found : context.handlers.get? serving.call.name = some handler) :
    dispatch context serving.call serving.before =
      (handler.respond serving.call.given >>= carryOut serving.call) serving.taken := by
  unfold dispatch
  rw [record_bind, found]
  rfl

/-- Serving a call has one of the listed outcomes. -/
theorem dispatch_dispatched (context : Context Handler) (serving : Serving) :
    Dispatched context serving (serving.result context) (serving.after context) := by
  unfold Serving.result Serving.after
  cases found : context.handlers.get? serving.call.name with
  | none =>
    rw [dispatch_unknown found]
    exact .unknown found
  | some handler =>
    rw [dispatch_found found]
    cases ran : handler.respond serving.call.given serving.taken with
    | mk result resolved =>
      cases result with
      | error error =>
        rw [bind_error ran]
        exact .unresolved found ran
      | ok action =>
        rw [bind_ok ran]
        exact .resolved ⟨handler, found, ran⟩ (carryOut_carried _ _ _)

theorem resolves_prepares {context : Context Handler} {serving : Serving} {action : Action} {resolved : World}
    (resolves : serving.Resolves context action resolved) : Prepares serving.taken resolved := by
  obtain ⟨handler, found, ran⟩ := resolves
  simpa only [ran] using handler.respond_prepares serving.call.given serving.taken

/-- A call is resolved in one way at most. -/
theorem resolves_unique {context : Context Handler} {serving : Serving} {action other : Action} {resolved world : World}
    (resolves : serving.Resolves context action resolved) (resolvesToo : serving.Resolves context other world) :
    action = other ∧ resolved = world := by
  obtain ⟨handler, found, ran⟩ := resolves
  obtain ⟨handler, foundToo, ranToo⟩ := resolvesToo
  rw [found] at foundToo
  cases foundToo
  rw [ran] at ranToo
  cases ranToo
  exact ⟨rfl, rfl⟩

/-! ## What a call adds to the messages -/

/-- The result of a call. -/
def resultOf (call : ToolCall) (text : String) : Message := .result text call.id (some call.name)

/-- Up to one result of a call was added; one, if the call was served to its end or has no handler. -/
structure Answered (call : ToolCall) (before : World) (result : Except RunError Bool) (after : World)
    (texts : List String) : Prop where
  messages : after.messages = before.messages ++ texts.map (resultOf call)
  atMostOne : texts.length ≤ 1
  served : ∀ again, result = .ok again → texts.length = 1
  unknown : ∀ name, result = .error (.unknownTool name) → texts.length = 1

theorem applied_messages {call : ToolCall} {world after : World} {commit : Option Commit} {result : Except RunError Unit}
    (applied : Applied call world commit result after) : after.messages = world.messages := by
  cases applied <;> rfl

theorem hooked_messages {happened : Hook → Event} {given : List Value} {world after : World} {hook : Option Hook}
    {result : Except RunError Unit} (hooked : Hooked happened given world hook result after) :
    after.messages = world.messages := by
  cases hooked <;> rfl

theorem carried_answers {call : ToolCall} {world after : World} {action : Action} {result : Except RunError Bool}
    (carried : Carried call world action result after) : ∃ texts, Answered call world result after texts := by
  cases carried with
  | @settled _ content _ _ middle settles applied =>
    refine ⟨[(middle.store.view content).resultText], ?_, Nat.le_refl 1, fun _ _ => rfl, fun _ _ => rfl⟩
    rw [World.said_messages, applied_messages applied]
    rfl
  | refused settles applied =>
    refine ⟨[], ?_, by simp, nofun, fun name unknown => ?_⟩
    · simp [applied_messages applied]
    · cases applied
      cases unknown
  | unshown laid => exact ⟨[], by simp, by simp, nofun, nofun⟩
  | unanswered laid nobody => exact ⟨[], by simp, by simp, nofun, nofun⟩
  | unwritten laid answered accepts applied =>
    refine ⟨[acceptedText], ?_, Nat.le_refl 1, fun _ _ => rfl, fun _ _ => rfl⟩
    rw [applied_messages applied]
    rfl
  | accepted laid answered accepts applied hooked =>
    refine ⟨[acceptedText], ?_, Nat.le_refl 1, fun _ _ => rfl, fun _ _ => rfl⟩
    rw [hooked_messages hooked, applied_messages applied]
    rfl
  | @revised _ _ _ _ _ revision _ _ _ laid answered visible hooked =>
    refine ⟨[revision], ?_, Nat.le_refl 1, fun _ _ => rfl, fun _ _ => rfl⟩
    rw [hooked_messages hooked]
    rfl

theorem dispatch_answers (context : Context Handler) (serving : Serving) :
    ∃ texts, Answered serving.call serving.before (serving.result context) (serving.after context) texts := by
  have dispatched := dispatch_dispatched context serving
  generalize serving.result context = result at dispatched ⊢
  generalize serving.after context = after at dispatched ⊢
  cases dispatched with
  | unknown missing =>
    exact ⟨[unknownToolText serving.call.name], rfl, Nat.le_refl 1, fun _ _ => rfl, fun _ _ => rfl⟩
  | @unresolved handler error after found failed =>
    have prepares := handler.respond_prepares serving.call.given serving.taken
    rw [failed] at prepares
    refine ⟨[], by simpa [Serving.taken] using prepares.messages, by simp, nofun, fun name unknown => ?_⟩
    cases unknown
    -- A handler fails for reasons of its own, and never for want of one.
    have impossible : Handler.Failure (.unknownTool name) :=
      handler.respond_failsOnly serving.call.given serving.taken _ (by rw [failed])
    exact False.elim impossible
  | resolved resolves carried =>
    obtain ⟨texts, answered⟩ := carried_answers carried
    refine ⟨texts, ?_, answered.atMostOne, answered.served, answered.unknown⟩
    rw [answered.messages, (resolves_prepares resolves).messages]
    rfl

/-! ## What a call may change -/

/-- A relation between worlds that spans whatever serving a call may do, step by step. -/
structure Spans (relation : World → World → Prop) : Prop where
  refl : ∀ world, relation world world
  trans : ∀ {before middle after}, relation before middle → relation middle after → relation before after
  prepared : ∀ {before after}, Prepares before after → relation before after
  said : ∀ world message, relation world (world.said message)
  wrote : ∀ {world call commit store}, commit.write world.store = .ok store →
    relation world (world.wrote call commit store)
  shown : ∀ world text, relation world (world.shown text)
  heard : ∀ world answer rest, relation world (world.heard answer rest)
  accepted : ∀ world hook, relation world (world.record (.accepted hook))
  rejected : ∀ world hook revision, relation world (world.record (.rejected hook revision))

section Spans
variable {relation : World → World → Prop} (spans : Spans relation)
include spans

theorem applied_spanned {call : ToolCall} {world after : World} {commit : Option Commit} {result : Except RunError Unit}
    (applied : Applied call world commit result after) : relation world after := by
  cases applied with
  | nothing => exact spans.refl _
  | written written => exact spans.wrote written
  | refused refused => exact spans.refl _

theorem hooked_spanned {happened : Hook → Event} {given : List Value} {world after : World} {hook : Option Hook}
    {result : Except RunError Unit} (step : ∀ hook, relation world (world.record (happened hook)))
    (hooked : Hooked happened given world hook result after) : relation world after := by
  cases hooked with
  | nothing => exact spans.refl _
  | ran ends => exact step _

/-- A review up to the result that the model is sent. -/
theorem reviewed_spanned (world : World) (text : String) (answer : Option String) (rest : List (Option String))
    (message : Message) : relation world (((world.shown text).heard answer rest).said message) :=
  spans.trans (spans.trans (spans.shown world text) (spans.heard _ answer rest)) (spans.said _ message)

theorem carried_spanned {call : ToolCall} {world after : World} {action : Action} {result : Except RunError Bool}
    (carried : Carried call world action result after) : relation world after := by
  cases carried with
  | settled settles applied => exact spans.trans (applied_spanned spans applied) (spans.said _ _)
  | refused settles applied => exact applied_spanned spans applied
  | unshown laid => exact spans.refl _
  | unanswered laid nobody => exact spans.shown world _
  | unwritten laid answered accepts applied =>
    exact spans.trans (reviewed_spanned spans world _ _ _ _) (applied_spanned spans applied)
  | accepted laid answered accepts applied hooked =>
    exact spans.trans (spans.trans (reviewed_spanned spans world _ _ _ _) (applied_spanned spans applied))
      (hooked_spanned spans (spans.accepted _) hooked)
  | @revised _ _ _ _ _ revision _ _ _ laid answered visible hooked =>
    exact spans.trans (reviewed_spanned spans world _ _ _ _)
      (hooked_spanned spans (fun hook => spans.rejected _ hook revision) hooked)

theorem dispatch_spanned (context : Context Handler) (serving : Serving) :
    relation serving.taken (serving.after context) := by
  have dispatched := dispatch_dispatched context serving
  generalize serving.result context = result at dispatched
  generalize serving.after context = after at dispatched ⊢
  cases dispatched with
  | unknown missing => exact spans.said _ _
  | @unresolved handler error after found failed =>
    have prepares := handler.respond_prepares serving.call.given serving.taken
    rw [failed] at prepares
    exact spans.prepared prepares
  | resolved resolves carried =>
    exact spans.trans (spans.prepared (resolves_prepares resolves)) (carried_spanned spans carried)

end Spans

theorem writes_spans : Spans (World.Writes Event.isInCall) where
  refl := .refl
  trans := .trans
  prepared prepares := prepares.history.mono fun event known => by cases event <;> first | rfl | cases known
  said world message := .of_history (World.said_history world message) (by simp [Event.isInCall])
  wrote _ := .of_history (World.wrote_history _ _ _ _) (by simp [Event.isInCall])
  shown world text := .of_history (World.shown_history world text) (by simp [Event.isInCall])
  heard world answer rest := .of_history (World.heard_history world answer rest) (by simp [Event.isInCall])
  accepted world _ := .of_record rfl world
  rejected world _ _ := .of_record rfl world

theorem accounted_spans : Spans Accounted where
  refl := Accounted.refl
  trans := Accounted.trans
  prepared := Accounted.of_prepares
  said := Accounted.of_said
  wrote := Accounted.of_wrote
  shown world _ := (Accounted.of_record rfl world).trans (Accounted.of_record rfl _)
  heard := Accounted.of_heard
  accepted world _ := Accounted.of_record rfl world
  rejected world _ _ := Accounted.of_record rfl world

/-- Serving a call begins with taking it up, and then no request is sent and no other call taken up. -/
theorem serving_events (context : Context Handler) (serving : Serving) :
    serving.events context = .dispatched serving.call :: serving.taken.since (serving.after context) := by
  have grown := World.since_spec (dispatch_spanned writes_spans context serving).grows
  apply World.since_eq
  rw [grown]
  simp [Serving.taken]

end Run
end Colloquy
