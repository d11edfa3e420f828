import Colloquy.Proofs.Conversation.Messages
import Colloquy.Proofs.Run.Account
import Colloquy.Proofs.Run.History

/-! How long a conversation goes on. It goes on after a round exactly if some call of the round asked for another one,
and it serves all calls of a round first, whatever the earlier ones asked for. Only a call that no handler serves, or
that fails, keeps the calls after it from being taken up. -/
namespace Colloquy

/-- Whether a message is an answer of the model. -/
def Message.isAnswer : Message → Bool
  | .assistant _ _ => true
  | _ => false

namespace Run

/-- Whether an action asks for another round, by what was written while it was carried out: a loop does, a close does
not, and a review does if the answer to it has something to read. -/
def AsksAgain (events : List Event) : Action → Prop
  | .loop _ _ => True
  | .close _ _ => False
  | .review _ _ _ _ => ∃ revision, .answered (some revision) ∈ events ∧ ∃ c ∈ revision.toList, Text.isBlank c = false

/-- A call asks for another round. -/
def Serving.Continues (context : Context Handler) (serving : Serving) : Prop :=
  ∃ action resolved, serving.Resolves context action resolved ∧
    AsksAgain (resolved.since (serving.after context)) action

/-- All calls of the round were taken up, each once and in their order. -/
def Round.Whole (context : Context Handler) (round : Round) : Prop :=
  (round.servings context).map Serving.call = round.calls

/-- Some call of the round asked for another one. -/
def Round.Continues (context : Context Handler) (round : Round) : Prop :=
  ∃ serving ∈ round.servings context, serving.Continues context

/-! ## One call -/

/-- A text is blank unless there is something in it to read. -/
theorem visible_iff (text : String) : Text.isBlankText text = false ↔ ∃ c ∈ text.toList, Text.isBlank c = false := by
  rw [Text.isBlankText, List.all_eq_false]
  simp

theorem accepts_visible {answer : Option String} (accepts : Accepts answer) {revision : String}
    (given : answer = some revision) : ¬ ∃ c ∈ revision.toList, Text.isBlank c = false := by
  rw [← visible_iff, accepts revision given]
  exact Bool.noConfusion

/-- An action that was carried out to its end asks for another round exactly if its account shows it. -/
theorem account_again {call : ToolCall} {store : Store} {action : Action} {again : Bool} {events : List Event}
    (account : Account call store action (.ok again) events) : again = true ↔ AsksAgain events action := by
  -- What a review ends with is computed from its hook, so that the result has to be set apart before the cases.
  generalize ended : (Except.ok again : Except RunError Bool) = result at account
  cases account with
  | settled settles leaves =>
    cases ended
    cases settles <;> simp [AsksAgain]
  | refused settles refused => cases ended
  | unshown laid => cases ended
  | unanswered laid => cases ended
  | unwritten laid accepts refused => cases ended
  | @accepted content commit onAccept onReject text answer after result laid accepts leaves ends =>
    cases result with
    | error cause => cases ended
    | ok done =>
      cases ended
      refine ⟨Bool.noConfusion, fun asks => ?_⟩
      obtain ⟨revision, member, visible⟩ := asks
      -- The only answer in the account is the one that was given, and it accepts.
      have given : answer = some revision := by
        have others : Event.answered (some revision) ∉ writing call commit ++ (onAccept.map Event.accepted).toList := by
          cases commit <;> cases onAccept <;> simp [writing]
        rw [List.append_assoc, List.mem_append, or_iff_left others] at member
        simpa [reviewing, eq_comm] using member
      exact absurd visible (accepts_visible accepts given)
  | @revised content commit onAccept onReject text revision result laid visible ends =>
    cases result with
    | error cause => cases ended
    | ok done =>
      cases ended
      refine ⟨fun _ => ⟨revision, ?_, (visible_iff revision).mp visible⟩, fun _ => rfl⟩
      exact List.mem_append_left _ (by simp [reviewing])

/-- An action that is carried out never ends for want of a handler. -/
theorem account_named {call : ToolCall} {store : Store} {action : Action} {name : String} {events : List Event}
    (account : Account call store action (.error (.unknownTool name)) events) : False := by
  generalize ended : (Except.error (.unknownTool name) : Except RunError Bool) = result at account
  cases account with
  | settled settles leaves => cases ended
  | refused settles refused => cases ended
  | unshown laid => cases ended
  | unanswered laid => cases ended
  | unwritten laid accepts refused => cases ended
  | accepted laid accepts leaves ends => cases ends <;> cases ended
  | revised laid visible ends => cases ends <;> cases ended

theorem dispatch_again {context : Context Handler} {serving : Serving} {again : Bool}
    (served : serving.result context = .ok again) : again = true ↔ serving.Continues context := by
  by_cases some : ∃ action resolved, serving.Resolves context action resolved
  · obtain ⟨action, resolved, resolves⟩ := some
    obtain ⟨_, account, _⟩ := resolved_account resolves
    rw [served] at account
    rw [account_again account]
    constructor
    · exact fun asks => ⟨action, resolved, resolves, asks⟩
    · rintro ⟨other, world, resolvesToo, asks⟩
      obtain ⟨rfl, rfl⟩ := resolves_unique resolves resolvesToo
      exact asks
  · obtain ⟨⟨error, failed⟩, _⟩ := unresolved_events fun action resolved resolves => some ⟨action, resolved, resolves⟩
    rw [served] at failed
    cases failed

/-- Only a call without a handler ends with the error that says so. -/
theorem dispatch_missing {context : Context Handler} {serving : Serving} {name : String}
    (failed : serving.result context = .error (.unknownTool name)) :
    serving.call.name = name ∧ context.handlers.get? name = none := by
  have dispatched := dispatch_dispatched context serving
  rw [failed] at dispatched
  generalize serving.after context = after at dispatched
  cases dispatched with
  | unknown missing => exact ⟨rfl, missing⟩
  | @unresolved handler error after found failed =>
    have impossible : Handler.Failure (.unknownTool name) :=
      handler.respond_failsOnly serving.call.given serving.taken _ (by rw [failed])
    exact False.elim impossible
  | resolved resolves carried => exact (account_named (carried_account carried)).elim

/-! ## The calls of an answer -/

theorem served_again {context : Context Handler} {world after : World} {calls : List ToolCall} {log : List Serving}
    {again : Bool} (served : Served context world calls log (.ok again) after) :
    log.map Serving.call = calls ∧ (again = true ↔ ∃ serving ∈ log, serving.Continues context) := by
  generalize ended : (Except.ok again : Except RunError Bool) = result at served
  induction served generalizing again with
  | done world =>
    cases ended
    exact ⟨rfl, by simp⟩
  | @next world middle after call rest first later result served more ih =>
    cases result with
    | error error => cases ended
    | ok others =>
      cases ended
      obtain ⟨all, decided⟩ := ih rfl
      have mine : first = true ↔ Serving.Continues context ⟨call, world⟩ :=
        dispatch_again (by rw [Serving.result, served])
      refine ⟨by rw [List.map_cons, all], ?_⟩
      rw [Bool.or_eq_true, mine, decided, List.exists_mem_cons_iff]
  | failed rest failed => cases ended

/-- What is known of the calls of an answer when one of them has no handler. -/
structure Missing (context : Context Handler) (name : String) (calls : List ToolCall) (log : List Serving) : Prop where
  located : ∃ earlier call later, calls = earlier ++ call :: later ∧ call.name = name ∧
    log.map Serving.call = earlier ++ [call]
  missing : context.handlers.get? name = none
  served : ∀ serving ∈ log.dropLast, ∃ again, serving.result context = .ok again

theorem served_missing {context : Context Handler} {world after : World} {calls : List ToolCall} {log : List Serving}
    {name : String} (served : Served context world calls log (.error (.unknownTool name)) after) :
    Missing context name calls log := by
  have wholly := (served_failsLast served).earlier
  suffices found : (∃ earlier call later, calls = earlier ++ call :: later ∧ call.name = name ∧
      log.map Serving.call = earlier ++ [call]) ∧ context.handlers.get? name = none from ⟨found.1, found.2, wholly⟩
  clear wholly
  generalize ended : (Except.error (.unknownTool name) : Except RunError Bool) = result at served
  induction served with
  | done world => cases ended
  | @next world middle after call rest first later result served more ih =>
    cases result with
    | ok others => cases ended
    | error error =>
      cases ended
      obtain ⟨⟨earlier, unknown, others, same, named, taken⟩, missing⟩ := ih rfl
      exact ⟨⟨call :: earlier, unknown, others, by rw [same]; rfl, named, by rw [List.map_cons, taken]; rfl⟩, missing⟩
  | @failed world after call error rest failed =>
    cases ended
    have ended : Serving.result context ⟨call, world⟩ = .error (.unknownTool name) := by rw [Serving.result, failed]
    obtain ⟨named, missing⟩ := dispatch_missing ended
    exact ⟨⟨[], call, rest, rfl, named, rfl⟩, missing⟩

/-! ## The rounds of a conversation -/

section Course
variable {terms : Terms} {world after : World} {replies : List Reply} {log : List Round}

/-- Each round but the last was served as a whole, and some call of it asked for another one. -/
theorem course_earlier {result : Except RunError Nat} (course : Course terms world replies log result after) :
    ∀ round ∈ log.dropLast, round.Whole terms.context ∧ round.Continues terms.context := by
  induction course with
  | refused clash world => simp
  | silent world => simp
  | unheard failed => simp
  | failed heard served => simp
  | ended heard served => simp
  | @continued world received middle after reply rest calls later result heard served more ih =>
    obtain ⟨all, decided⟩ := served_again (served_of served)
    intro round member
    cases later with
    | nil => cases member
    | cons second others =>
      rcases List.mem_cons.mp member with rfl | member
      · exact ⟨all, decided.mp rfl⟩
      · exact ih round member

/-- A conversation that comes to its end does so after a round that was served as a whole and in which no call asked
for another one. -/
theorem course_ended {n : Nat} (course : Course terms world replies log (.ok n) after) :
    log.length = n ∧ ∃ last, log.getLast? = some last ∧ last.Whole terms.context ∧ ¬ last.Continues terms.context := by
  generalize counted : (Except.ok n : Except RunError Nat) = result at course
  induction course generalizing n with
  | refused clash world => cases counted
  | silent world => cases counted
  | unheard failed => cases counted
  | failed heard served => cases counted
  | @ended world received after reply rest calls heard served =>
    cases counted
    obtain ⟨all, decided⟩ := served_again (served_of served)
    refine ⟨rfl, _, rfl, all, fun continues => ?_⟩
    exact Bool.noConfusion (decided.mpr continues)
  | @continued world received middle after reply rest calls later result heard served more ih =>
    cases result with
    | error error => cases counted
    | ok m =>
      cases counted
      obtain ⟨number, last, isLast, whole⟩ := ih rfl
      exact ⟨congrArg (· + 1) number, last, by rw [List.getLast?_cons, isLast]; rfl, whole⟩

theorem course_missing {name : String} (course : Course terms world replies log (.error (.unknownTool name)) after) :
    ∃ last, log.getLast? = some last ∧ Missing terms.context name last.calls (last.servings terms.context) := by
  generalize failing : (Except.error (.unknownTool name) : Except RunError Nat) = result at course
  induction course with
  | refused clash world => cases failing
  | silent world => cases failing
  | unheard failed =>
    cases failing
    exact (exchange_unheard failed).elim
  | @failed world received after reply rest calls error heard served =>
    cases failing
    exact ⟨_, rfl, served_missing (served_of served)⟩
  | ended heard served => cases failing
  | @continued world received middle after reply rest calls later result heard served more ih =>
    cases result with
    | ok m => cases failing
    | error error =>
      cases failing
      obtain ⟨last, isLast, missing⟩ := ih rfl
      exact ⟨last, by rw [List.getLast?_cons, isLast]; rfl, missing⟩

/-- The calls that a conversation took up are those of its rounds, in order. -/
theorem course_calls {result : Except RunError Nat} (course : Course terms world replies log result after) :
    callsIn (world.since after) = log.flatMap fun round => (round.servings terms.context).map Serving.call := by
  obtain ⟨trailing, grown, ends⟩ := course_grown course
  rw [World.since_eq grown, callsIn_append, callsIn_exchange ends.ofExchange, List.append_nil, callsIn_flatMap]
  refine List.flatMap_congr fun round member => ?_
  obtain ⟨rest, received⟩ := course_heard course round member
  exact heard_callsIn received

theorem converse_callsIn (terms : Terms) (world : World) :
    callsIn (world.since (converse terms world).2) = (servingsFrom terms world).map Serving.call := by
  rw [course_calls (converse_course terms world), ← List.map_flatMap]
  rfl

/-- A conversation that was cut off by nothing but its calls sent one request in each round. -/
theorem course_requests {result : Except RunError Nat} (course : Course terms world replies log result after)
    (answered : ∀ error, result = .error error → ¬ Unheard error) :
    world.since after = log.flatMap (Round.events terms.context) ∧
      requestsIn (world.since after) = log.map fun round => requestIn terms round.before := by
  obtain ⟨trailing, grown, ends⟩ := course_grown course
  have none : trailing = [] := by
    rcases ends.unheard with none | ⟨error, failed, unheard⟩
    · exact none
    · exact absurd unheard (answered error failed)
  rw [none, List.append_nil] at grown
  rw [World.since_eq grown]
  refine ⟨rfl, ?_⟩
  rw [requestsIn_flatMap, List.map_eq_flatMap]
  refine List.flatMap_congr fun round member => ?_
  obtain ⟨rest, received⟩ := course_heard course round member
  exact heard_requestsIn received

end Course

/-- A turn has one answer of the model. -/
theorem turn_answers (turn : Turn) : turn.messages.countP Message.isAnswer = 1 := by
  have none : (List.zipWith resultOf turn.calls turn.texts).countP Message.isAnswer = 0 := by
    rw [List.countP_eq_zero]
    intro message member
    obtain ⟨index, bound, rfl⟩ := List.mem_iff_getElem.mp member
    simp [resultOf, Message.isAnswer]
  rw [Turn.messages, List.countP_cons, none]
  rfl

theorem turns_answers (turns : List Turn) : (turns.flatMap Turn.messages).countP Message.isAnswer = turns.length := by
  induction turns with
  | nil => rfl
  | cons turn later ih => rw [List.flatMap_cons, List.countP_append, turn_answers, ih, List.length_cons, Nat.add_comm]

/-- A conversation that came to its end, and the rounds that it had. -/
structure Concluded (terms : Terms) (world : World) (log : List Round) (n : Nat) (after : World) : Prop where
  rounds : log.length = n
  history : world.since after = log.flatMap (Round.events terms.context)
  requests : requestsIn (world.since after) = log.map fun round => requestIn terms round.before
  answers : ∃ added, after.messages = world.messages ++ added ∧ added.countP Message.isAnswer = n
  whole : ∀ round ∈ log, round.Whole terms.context ∧ callsIn (round.events terms.context) = round.calls
  goesOn : ∀ round ∈ log.dropLast, round.Continues terms.context
  stops : ∃ last, log.getLast? = some last ∧ ¬ last.Continues terms.context

/-- A conversation that a call without a handler put an end to, and the rounds that it had. -/
structure Halted (terms : Terms) (world : World) (log : List Round) (name : String) (after : World) : Prop where
  missing : terms.context.handlers.get? name = none
  history : world.since after = log.flatMap (Round.events terms.context)
  requests : requestsIn (world.since after) = log.map fun round => requestIn terms round.before
  earlier : ∀ round ∈ log.dropLast, round.Whole terms.context ∧ round.Continues terms.context
  last : ∃ last before call later, log.getLast? = some last ∧ last.calls = before ++ call :: later ∧ call.name = name ∧
    (last.servings terms.context).map Serving.call = before ++ [call] ∧
    (∀ serving ∈ (last.servings terms.context).dropLast, ∃ again, serving.result terms.context = .ok again) ∧
    callsIn (last.events terms.context) = before ++ [call] ∧
    callsIn (world.since after) = (log.dropLast.flatMap Round.calls) ++ before ++ [call]

theorem course_concluded {terms : Terms} {world after : World} {replies : List Reply} {log : List Round} {n : Nat}
    (course : Course terms world replies log (.ok n) after) : Concluded terms world log n after := by
  obtain ⟨number, last, isLast, all, stops⟩ := course_ended course
  obtain ⟨history, requests⟩ := course_requests course nofun
  obtain ⟨turns, found⟩ := course_turns course
  have earlier := course_earlier course
  have heard := course_heard course
  have whole : ∀ round ∈ log, round.Whole terms.context := by
    intro round member
    rw [← List.dropLast_append_getLast? last isLast] at member
    rcases List.mem_append.mp member with member | member
    · exact (earlier round member).1
    · rw [List.mem_singleton.mp member]
      exact all
  refine ⟨number, history, requests, ⟨_, found.messages, ?_⟩, fun round member => ⟨whole round member, ?_⟩,
    fun round member => (earlier round member).2, last, isLast, stops⟩
  · rw [turns_answers]
    exact (found.ended n rfl).1
  · obtain ⟨rest, received⟩ := heard round member
    rw [heard_callsIn received]
    exact whole round member

theorem course_halted {terms : Terms} {world after : World} {replies : List Reply} {log : List Round} {name : String}
    (course : Course terms world replies log (.error (.unknownTool name)) after) :
    Halted terms world log name after := by
  obtain ⟨last, isLast, ⟨before, call, later, same, named, taken⟩, missing, served⟩ := course_missing course
  obtain ⟨history, requests⟩ := course_requests course (by
    intro error failed unheard
    cases failed
    exact unheard)
  have earlier := course_earlier course
  obtain ⟨rest, received⟩ := course_heard course last (List.mem_of_getLast? isLast)
  refine ⟨missing, history, requests, earlier, last, before, call, later, isLast, same, named, taken, served, ?_, ?_⟩
  · rw [heard_callsIn received, taken]
  · have split := List.dropLast_append_getLast? last isLast
    rw [course_calls course, ← split, List.flatMap_append, List.flatMap_singleton, taken, split, List.append_assoc,
      List.flatMap_congr fun round member => (earlier round member).1]

/-- How long a conversation goes on. One that comes to its end after some number of rounds sent as many requests and
added as many answers; it took up every call of every answer, once and in order; in each round but the last some call
asked for another round, and in the last none did. One that ends for want of a handler took up the calls before that one
and none after it, and sent no further request. -/
theorem converse_rounds (terms : Terms) (world : World) :
    (roundsFrom terms world world.replies).map Round.reply <+: world.replies ∧
      (∀ round ∈ roundsFrom terms world world.replies, ∃ completion message,
        Offers round.reply completion message ∧ round.calls = message.calls.getD []) ∧
      (∀ n, (converse terms world).1 = .ok n →
        Concluded terms world (roundsFrom terms world world.replies) n (converse terms world).2) ∧
      ∀ name, (converse terms world).1 = .error (.unknownTool name) →
        Halted terms world (roundsFrom terms world world.replies) name (converse terms world).2 := by
  have course := converse_course terms world
  refine ⟨course_replies course, fun round member => ?_, fun n ended => ?_, fun name failed => ?_⟩
  · obtain ⟨rest, received⟩ := course_heard course round member
    obtain ⟨completion, message, offers, same, _⟩ := exchange_ok terms received
    exact ⟨completion, message, offers, same⟩
  · rw [ended] at course
    exact course_concluded course
  · rw [failed] at course
    exact course_halted course

end Run
end Colloquy
