import Colloquy.Proofs.Action.Spelled
import Colloquy.Proofs.Run.Account
import Colloquy.Proofs.Run.History

/-! The effects of a conversation: contents shown to the reviewer, commits, and hooks that are run when a review ends.
They are those of its calls, in the order of the calls; what a call has for effects is fixed by its action and by the
answer of the reviewer; and a call that fails is the last one that has any. -/
namespace Colloquy

/-- Whether an event is a content shown to the reviewer, a commit, or a hook that was run. -/
def Event.isEffect : Event → Bool
  | .displayed _ | .committed _ _ | .accepted _ | .rejected _ _ => true
  | _ => false

/-- The effects among some events. -/
def effectsIn (events : List Event) : List Event := events.filter Event.isEffect

theorem effectsIn_append (early late : List Event) : effectsIn (early ++ late) = effectsIn early ++ effectsIn late :=
  List.filter_append ..

theorem effectsIn_flatMap {α : Type} (events : α → List Event) (items : List α) :
    effectsIn (items.flatMap events) = items.flatMap fun item => effectsIn (events item) := by
  rw [effectsIn, List.filter_flatMap]
  rfl

theorem commitsIn_effectsIn (events : List Event) : commitsIn (effectsIn events) = commitsIn events := by
  induction events with
  | nil => rfl
  | cons event rest ih =>
    rw [← List.singleton_append, effectsIn_append, commitsIn_append, commitsIn_append, ih]
    cases event <;> rfl

theorem commitsIn_flatMap {α : Type} (events : α → List Event) (items : List α) :
    commitsIn (items.flatMap events) = items.flatMap fun item => commitsIn (events item) :=
  List.filterMap_flatMap

/-- The world in which a handler of the host was called with some arguments. -/
def World.called (world : World) (name : String) (arguments : Json) : World :=
  { world with
    store := (world.store.place (.ofJson arguments)).2
    served := world.served.put name ((world.served.get? name).getD 0 + 1)
    history := world.history ++ [.served name (.ofJson arguments)] }

namespace Handler
variable {name : String} {react : Nat → Item → Store → Reaction} {arguments : Json} {world : World}

/-- What a handler of the host answers when it is called in a world. -/
def reaction (react : Nat → Item → Store → Reaction) (name : String) (arguments : Json) (world : World) : Reaction :=
  let placed := world.store.place (.ofJson arguments)
  react ((world.served.get? name).getD 0) placed.1 placed.2

theorem serve_called : serve name react arguments world =
    (match reaction react name arguments world with
    | .act action => pure action
    | .hand item => Run.check ((Action.check (world.called name arguments).store item).mapError .malformed)
    | .fail cause => Run.fail (.misuse cause)) (world.called name arguments) := rfl

/-- What a handler of the host answers is an action, or a record that spells one out. -/
theorem serve_wants {resolved : World} {action : Action}
    (wanted : serve name react arguments world = (.ok action, resolved)) :
    reaction react name arguments world = .act action ∨ ∃ id, reaction react name arguments world = .hand (.record id) ∧
      Action.Spelled resolved.store (resolved.store.membersOf id) action := by
  rw [serve_called] at wanted
  cases reacted : reaction react name arguments world with
  | act action =>
    rw [reacted] at wanted
    cases wanted
    exact .inl rfl
  | hand item =>
    rw [reacted] at wanted
    dsimp only at wanted
    cases read : Action.check (world.called name arguments).store item with
    | error issues =>
      rw [read] at wanted
      cases wanted
    | ok action =>
      rw [read] at wanted
      cases wanted
      obtain ⟨id, rfl, spelled⟩ := Action.check_spelled read
      exact .inr ⟨id, rfl, spelled⟩
  | fail cause =>
    rw [reacted] at wanted
    cases wanted

end Handler

namespace Run

/-- What carrying out an action comes to on a store in which its commit, if it has one, can be written. An action that
nobody reviews writes its commit and then tells its content to the model. One that is reviewed is shown, if it can be
laid out, before the reviewer is asked: accepted, it tells so, writes its commit and runs the one hook; revised, it tells
the revision, writes nothing, and runs the other hook on the revision. -/
def Exact (call : ToolCall) (store : Store) (result : Except RunError Bool) (events : List Event) : Action → Prop
  | .loop content commit => ∃ after, Leaves store commit after ∧ result = .ok true ∧
      events = writing call commit ++ [.said (.ofResult call (after.view content))]
  | .close content commit => ∃ after, Leaves store commit after ∧ result = .ok false ∧
      events = writing call commit ++ [.said (.ofResult call (after.view content))]
  | .review content commit onAccept onReject =>
    (∃ fault, reviewText (store.view content) = .error fault ∧ result = .error (.layout fault) ∧ events = []) ∨
    ∃ text, reviewText (store.view content) = .ok text ∧
      ((result = .error .outOfAnswers ∧ events = [.displayed text, .asked reviewPrompt]) ∨
      (∃ answer ended, Accepts answer ∧ (∃ after, Leaves store commit after) ∧ HookEnds [] onAccept ended ∧
        result = ended.map (fun _ => false) ∧
        events = reviewing call text answer acceptedText ++ writing call commit ++
          (onAccept.map Event.accepted).toList) ∨
      ∃ revision ended, Text.isBlankText revision = false ∧ HookEnds [.text revision] onReject ended ∧
        result = ended.map (fun _ => true) ∧
        events = reviewing call text (some revision) revision ++ (onReject.map (Event.rejected · revision)).toList)

theorem account_exact {call : ToolCall} {store : Store} {action : Action} {result : Except RunError Bool}
    {events : List Event} (account : Account call store action result events)
    (writable : ∀ commit, action.commit = some commit → store.Holds commit.target) :
    Exact call store result events action := by
  have unrefused : ∀ {commit : Commit} {kind : String}, action.commit = some commit →
      commit.write store ≠ .error kind := by
    intro commit kind wants refused
    obtain ⟨after, written⟩ := Commit.write_ok (writable commit wants)
    rw [refused] at written
    cases written
  cases account with
  | settled settles leaves => cases settles <;> exact ⟨_, leaves, rfl, rfl⟩
  | refused settles refused => cases settles <;> exact absurd refused (unrefused rfl)
  | unshown laid => exact .inl ⟨_, laid, rfl, rfl⟩
  | unanswered laid => exact .inr ⟨_, laid, .inl ⟨rfl, rfl⟩⟩
  | unwritten laid accepts refused => exact absurd refused (unrefused rfl)
  | accepted laid accepts leaves ends =>
    exact .inr ⟨_, laid, .inr (.inl ⟨_, _, accepts, ⟨_, leaves⟩, ends, rfl, rfl⟩)⟩
  | revised laid visible ends => exact .inr ⟨_, laid, .inr (.inr ⟨_, _, visible, ends, rfl, rfl⟩)⟩

/-- What serving a call does, once its handler wants an action and leaves a world to carry it out in. -/
structure CarriesOut (context : Context Handler) (serving : Serving) (action : Action) (resolved : World) : Prop where
  wanted : ∀ name react, context.handlers.get? serving.call.name = some (.host name react) →
    let reaction := Handler.reaction react name serving.call.given serving.before
    reaction = .act action ∨ ∃ id, reaction = .hand (.record id) ∧
      Action.Spelled resolved.store (resolved.store.membersOf id) action
  events : ∃ own account,
    serving.events context = .dispatched serving.call :: (own ++ account) ∧
    (∀ event ∈ own, event.isOfHandler = true) ∧
    ((∀ commit, action.commit = some commit → resolved.store.Holds commit.target) →
      Exact serving.call resolved.store (serving.result context) account action)
  accounted : Accounted resolved (serving.after context)

theorem serving_carriesOut {context : Context Handler} {serving : Serving} {action : Action} {resolved : World}
    (resolves : serving.Resolves context action resolved) : CarriesOut context serving action resolved := by
  obtain ⟨own, account, events⟩ := resolved_account resolves
  refine ⟨fun name react found => ?_, ⟨_, _, events, own, account_exact account⟩, ?_⟩
  · obtain ⟨handler, foundToo, ran⟩ := resolves
    rw [found] at foundToo
    cases foundToo
    have wants := Handler.serve_wants ran
    exact wants
  · obtain ⟨handler, found, ran⟩ := resolves
    have carried := carryOut_carried serving.call action resolved
    have after : serving.after context = (carryOut serving.call action resolved).2 := by
      rw [Serving.after, dispatch_found found, bind_ok ran]
    rw [after]
    exact carried_spanned accounted_spans carried

/-- A call that comes to no action fails, and has no effects. -/
theorem unresolved_effects {context : Context Handler} {serving : Serving}
    (none : ∀ action resolved, ¬ serving.Resolves context action resolved) :
    (∃ error, serving.result context = .error error) ∧ effectsIn (serving.events context) = [] := by
  obtain ⟨failed, known⟩ := unresolved_events none
  refine ⟨failed, ?_⟩
  rw [serving_events]
  refine List.filter_eq_nil_iff.mpr fun event member => ?_
  rcases List.mem_cons.mp member with rfl | member
  · simp [Event.isEffect]
  · rcases known event member with ofHandler | rfl
    · cases event <;> simp_all [Event.isOfHandler, Event.isEffect]
    · simp [Event.isEffect]

/-! ## The whole conversation -/

section Course
variable {terms : Terms} {world after : World} {replies : List Reply} {log : List Round} {result : Except RunError Nat}

theorem round_effects {round : Round} {rest : List Reply}
    (heard : exchange terms round.reply rest round.before = (.ok round.calls, round.received)) :
    effectsIn (round.events terms.context) =
      (round.servings terms.context).flatMap fun serving => effectsIn (serving.events terms.context) := by
  obtain ⟨completion, message, _, _, events⟩ := heard_events heard
  rw [events, effectsIn_append, effectsIn_flatMap]
  rfl

theorem course_effects (course : Course terms world replies log result after) :
    effectsIn (world.since after) = (log.flatMap (Round.servings terms.context)).flatMap fun serving =>
      effectsIn (serving.events terms.context) := by
  obtain ⟨trailing, grown, ends⟩ := course_grown course
  have none : effectsIn trailing = [] := by
    refine List.filter_eq_nil_iff.mpr fun event member => ?_
    have known := ends.ofExchange event member
    cases event <;> simp_all [Event.isOfExchange, Event.isEffect]
  have heard := course_heard course
  rw [World.since_eq grown, effectsIn_append, none, List.append_nil, effectsIn_flatMap, List.flatMap_assoc]
  refine List.flatMap_congr fun round member => ?_
  obtain ⟨rest, received⟩ := heard round member
  exact round_effects received

/-- The commits of a conversation are those of its calls, in order. -/
theorem course_commits (course : Course terms world replies log result after) :
    commitsIn (world.since after) = (log.flatMap (Round.servings terms.context)).flatMap fun serving =>
      commitsIn (serving.events terms.context) := by
  rw [← commitsIn_effectsIn, course_effects course, commitsIn_flatMap]
  exact List.flatMap_congr fun serving _ => commitsIn_effectsIn _

theorem course_failsLast (course : Course terms world replies log result after) :
    FailsLast terms.context (log.flatMap (Round.servings terms.context)) result := by
  induction course with
  | refused clash world => exact ⟨by simp, by simp⟩
  | silent world => exact ⟨by simp, by simp⟩
  | unheard failed => exact ⟨by simp, by simp⟩
  | @failed world received after reply rest calls error heard served =>
    rw [List.flatMap_singleton]
    exact (served_failsLast (served_of served)).map fun _ => 0
  | @ended world received after reply rest calls heard served =>
    rw [List.flatMap_singleton]
    exact (served_failsLast (served_of served)).map fun _ => 1
  | @continued world received middle after reply rest calls later result heard served more ih =>
    rw [List.flatMap_cons]
    exact FailsLast.append (served_failsLast (served_of served)).all (ih.map (· + 1))

end Course

/-- The effects of a conversation, however it ends. They are those of its calls, in the order of the calls, and only the
last call can have failed. A call whose handler wants an action writes what the action comes to and nothing else; any
other call fails and has no effects. What a scope or a record contains in the end, or at any point between, is what it
contained before with the commits since then carried out in order, each on its own key of its own target. -/
theorem converse_effects (terms : Terms) (world : World) :
    effectsIn (world.since (converse terms world).2) =
        (servingsFrom terms world).flatMap (fun serving => effectsIn (serving.events terms.context)) ∧
      FailsLast terms.context (servingsFrom terms world) (converse terms world).1 ∧
      (∀ serving ∈ servingsFrom terms world, ∀ action resolved, serving.Resolves terms.context action resolved →
        CarriesOut terms.context serving action resolved) ∧
      (∀ serving ∈ servingsFrom terms world, (∀ action resolved, ¬ serving.Resolves terms.context action resolved) →
        (∃ error, serving.result terms.context = .error error) ∧ effectsIn (serving.events terms.context) = []) ∧
      Accounted world (converse terms world).2 ∧
      ∀ serving ∈ servingsFrom terms world, Accounted (serving.after terms.context) (converse terms world).2 := by
  have course := converse_course terms world
  obtain ⟨whole, each⟩ := course_spanned accounted_spansRounds course
  exact ⟨course_effects course, course_failsLast course, fun serving _ action resolved => serving_carriesOut,
    fun serving _ => unresolved_effects, whole, fun serving member => (each serving member).2⟩

end Run
end Colloquy
