import Colloquy.Proofs.Run.Course

/-! The history of a conversation, divided by its rounds and within each round by its calls. A round is opened by its
request, the reply and the answer in it; then every call that is taken up begins a part of its own. What comes after the
last round belongs to a request that no answer was obtained for. -/
namespace Colloquy

/-- The requests among some events. -/
def requestsIn (events : List Event) : List Request :=
  events.filterMap fun
    | .requested request => some request
    | _ => none

/-- The calls taken up among some events. -/
def callsIn (events : List Event) : List ToolCall :=
  events.filterMap fun
    | .dispatched call => some call
    | _ => none

/-- Whether an event belongs to an exchange with the model. -/
def Event.isOfExchange : Event → Bool
  | .requested _ | .replied _ => true
  | _ => false

/-- Whether an event is that a call is taken up. -/
def Event.isDispatch : Event → Bool
  | .dispatched _ => true
  | _ => false

theorem requestsIn_append (early late : List Event) : requestsIn (early ++ late) = requestsIn early ++ requestsIn late :=
  List.filterMap_append

theorem callsIn_append (early late : List Event) : callsIn (early ++ late) = callsIn early ++ callsIn late :=
  List.filterMap_append

theorem requestsIn_flatMap {α : Type} (events : α → List Event) (items : List α) :
    requestsIn (items.flatMap events) = items.flatMap fun item => requestsIn (events item) :=
  List.filterMap_flatMap

theorem callsIn_flatMap {α : Type} (events : α → List Event) (items : List α) :
    callsIn (items.flatMap events) = items.flatMap fun item => callsIn (events item) :=
  List.filterMap_flatMap

theorem requestsIn_inCall {events : List Event} (inCall : ∀ event ∈ events, event.isInCall = true) :
    requestsIn events = [] := by
  refine List.filterMap_eq_nil_iff.mpr fun event member => ?_
  have known := inCall event member
  cases event <;> first | rfl | cases known

theorem callsIn_inCall {events : List Event} (inCall : ∀ event ∈ events, event.isInCall = true) :
    callsIn events = [] := by
  refine List.filterMap_eq_nil_iff.mpr fun event member => ?_
  have known := inCall event member
  cases event <;> first | rfl | cases known

theorem callsIn_none {events : List Event} (none : ∀ event ∈ events, (!event.isDispatch) = true) : callsIn events = [] := by
  refine List.filterMap_eq_nil_iff.mpr fun event member => ?_
  have known := none event member
  cases event <;> first | rfl | cases known

theorem callsIn_exchange {events : List Event} (ofExchange : ∀ event ∈ events, event.isOfExchange = true) :
    callsIn events = [] := by
  refine List.filterMap_eq_nil_iff.mpr fun event member => ?_
  have known := ofExchange event member
  cases event <;> first | rfl | cases known

namespace Run

section Serving
variable (context : Context Handler) (serving : Serving)

theorem serving_requestsIn : requestsIn (serving.events context) = [] := by
  rw [serving_events]
  exact (requestsIn_append [.dispatched serving.call] _).trans
    (requestsIn_inCall (dispatch_spanned writes_spans context serving).since)

theorem serving_callsIn : callsIn (serving.events context) = [serving.call] := by
  rw [serving_events]
  exact congrArg _ (callsIn_inCall (dispatch_spanned writes_spans context serving).since)

theorem serving_grown :
    (serving.after context).history = serving.before.history ++ serving.events context := by
  have grown := (dispatch_spanned writes_spans context serving).grows
  exact World.since_spec ((List.prefix_append _ _).trans grown)

end Serving

theorem servings_requestsIn (context : Context Handler) (log : List Serving) :
    requestsIn (log.flatMap (Serving.events context)) = [] := by
  rw [requestsIn_flatMap]
  exact List.flatMap_eq_nil_iff.mpr fun serving _ => serving_requestsIn context serving

theorem servings_callsIn (context : Context Handler) (log : List Serving) :
    callsIn (log.flatMap (Serving.events context)) = log.map Serving.call := by
  rw [callsIn_flatMap, List.map_eq_flatMap]
  exact List.flatMap_congr fun serving _ => serving_callsIn context serving

/-- The calls of an answer are served one after another: what they write follows in their order. -/
theorem served_grown {context : Context Handler} {world after : World} {calls : List ToolCall} {log : List Serving}
    {result : Except RunError Bool} (served : Served context world calls log result after) :
    after.history = world.history ++ log.flatMap (Serving.events context) := by
  induction served with
  | done world => simp
  | @next world middle after call rest first later result served more ih =>
    have grown := serving_grown context ⟨call, world⟩
    simp only [Serving.after, served] at grown
    rw [ih, grown, List.flatMap_cons, List.append_assoc]
  | @failed world after call error rest failed =>
    have grown := serving_grown context ⟨call, world⟩
    simp only [Serving.after, failed] at grown
    rw [grown, List.flatMap_singleton]

namespace Round

/-- What opens a round: the request, the completion in reply to it, and the answer as it was added. -/
def opening (terms : Terms) (round : Round) (completion : Completion) (message : ReplyMessage) : List Event :=
  [.requested (requestIn terms round.before), .replied completion,
    .said (.assistant message.content (carried round.calls))]

/-- What is written into the history in a round. -/
def events (context : Context Handler) (round : Round) : List Event :=
  round.before.since round.received ++ (round.servings context).flatMap (Serving.events context)

end Round

section Heard
variable {terms : Terms} {round : Round} {rest : List Reply}

theorem heard_opening (heard : exchange terms round.reply rest round.before = (.ok round.calls, round.received)) :
    ∃ completion message, Offers round.reply completion message ∧ round.calls = message.calls.getD [] ∧
      round.received.history = round.before.history ++ round.opening terms completion message := by
  obtain ⟨completion, message, offers, same, received⟩ := exchange_ok terms heard
  refine ⟨completion, message, offers, same, ?_⟩
  rw [received]
  simp [awaiting, Round.opening]

/-- The events of a round: those that open it, and then those of its calls. -/
theorem heard_events (heard : exchange terms round.reply rest round.before = (.ok round.calls, round.received)) :
    ∃ completion message, Offers round.reply completion message ∧ round.calls = message.calls.getD [] ∧
      round.events terms.context = round.opening terms completion message ++
        (round.servings terms.context).flatMap (Serving.events terms.context) := by
  obtain ⟨completion, message, offers, same, grown⟩ := heard_opening heard
  exact ⟨completion, message, offers, same, by rw [Round.events, World.since_eq grown]⟩

theorem heard_requestsIn (heard : exchange terms round.reply rest round.before = (.ok round.calls, round.received)) :
    requestsIn (round.events terms.context) = [requestIn terms round.before] := by
  obtain ⟨completion, message, _, _, events⟩ := heard_events heard
  rw [events, requestsIn_append, servings_requestsIn]
  rfl

theorem heard_callsIn (heard : exchange terms round.reply rest round.before = (.ok round.calls, round.received)) :
    callsIn (round.events terms.context) = (round.servings terms.context).map Serving.call := by
  obtain ⟨completion, message, _, _, events⟩ := heard_events heard
  rw [events, callsIn_append, servings_callsIn]
  rfl

variable (round) in
/-- What a round leaves in the history, once its calls have been served as far as they were. -/
theorem round_grown {result : Except RunError Bool} {after : World}
    (heard : exchange terms round.reply rest round.before = (.ok round.calls, round.received))
    (served : dispatchAll terms.context round.calls round.received = (result, after)) :
    after.history = round.before.history ++ round.events terms.context := by
  obtain ⟨completion, message, _, _, opened⟩ := heard_opening heard
  rw [served_grown (served_of served), opened, Round.events, World.since_eq opened, List.append_assoc]
  rfl

end Heard

/-- The errors of an exchange. -/
def Unheard : RunError → Prop
  | .outOfReplies | .malformed _ | .noChoice | .misuse .wrongType => True
  | _ => False

theorem unheard_ofReply (cause : ReplyError) : Unheard (.ofReply cause) := by cases cause <;> trivial

theorem exchange_unheard {terms : Terms} {world after : World} {reply : Reply} {rest : List Reply} {error : RunError}
    (failed : exchange terms reply rest world = (.error error, after)) : Unheard error := by
  have exchanged := exchange_exchanged terms world reply rest
  rw [failed] at exchanged
  cases exchanged with
  | refused clash => trivial
  | unread _ => exact unheard_ofReply _
  | empty read none => trivial

/-- What comes after the last round: nothing, unless no answer could be obtained. -/
structure Trailing (result : Except RunError Nat) (events : List Event) : Prop where
  ofExchange : ∀ event ∈ events, event.isOfExchange = true
  unheard : events = [] ∨ ∃ error, result = .error error ∧ Unheard error

theorem unheard_trailing {terms : Terms} {world after : World} {reply : Reply} {rest : List Reply} {error : RunError}
    (failed : exchange terms reply rest world = (.error error, after)) :
    ∃ trailing, after.history = world.history ++ trailing ∧ Trailing (.error error) trailing := by
  have exchanged := exchange_exchanged terms world reply rest
  rw [failed] at exchanged
  dsimp only at exchanged
  cases exchanged with
  | refused clash => exact ⟨[], by simp, by simp, .inl rfl⟩
  | unread unreadable =>
    exact ⟨[.requested (requestIn terms world)], rfl, by simp [Event.isOfExchange],
      .inr ⟨_, rfl, unheard_ofReply _⟩⟩
  | @empty completion read none =>
    refine ⟨[.requested (requestIn terms world), .replied completion], ?_, by simp [Event.isOfExchange],
      .inr ⟨_, rfl, trivial⟩⟩
    simp [awaiting]

/-- The history of a conversation is that of its rounds, in order. -/
theorem course_grown {terms : Terms} {world after : World} {replies : List Reply} {log : List Round}
    {result : Except RunError Nat} (course : Course terms world replies log result after) :
    ∃ trailing, after.history = world.history ++ (log.flatMap (Round.events terms.context) ++ trailing) ∧
      Trailing result trailing := by
  induction course with
  | refused clash world => exact ⟨[], by simp, by simp, .inl rfl⟩
  | silent world =>
    exact ⟨[.requested (requestIn terms world)], rfl, by simp [Event.isOfExchange], .inr ⟨_, rfl, trivial⟩⟩
  | unheard failed => exact unheard_trailing failed
  | @failed world received after reply rest calls error heard served =>
    refine ⟨[], ?_, by simp, .inl rfl⟩
    simpa using round_grown ⟨world, reply, calls, received⟩ heard served
  | @ended world received after reply rest calls heard served =>
    refine ⟨[], ?_, by simp, .inl rfl⟩
    simpa using round_grown ⟨world, reply, calls, received⟩ heard served
  | @continued world received middle after reply rest calls later result heard served more ih =>
    obtain ⟨trailing, grown, ends⟩ := ih
    have first := round_grown ⟨world, reply, calls, received⟩ heard served
    refine ⟨trailing, ?_, ends.ofExchange, ?_⟩
    · rw [grown, first, List.flatMap_cons, List.append_assoc, List.append_assoc]
    · rcases ends.unheard with none | ⟨error, rfl, unheard⟩
      · exact .inl none
      · exact .inr ⟨error, rfl, unheard⟩

end Run
end Colloquy
