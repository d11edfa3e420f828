import Colloquy.Proofs.Conversation.Messages
import Colloquy.Proofs.Run.History

/-! The requests of a conversation. Each carries the messages that the conversation started with and all turns up to
then, which are complete; and what it carries is what was said in the history before it, so that a later request
carries all that an earlier one did. -/
namespace Colloquy

/-- The messages that were said among some events. -/
def saidIn (events : List Event) : List Message :=
  events.filterMap fun
    | .said message => some message
    | _ => none

/-- Whether a message is the result of a call. -/
def Message.isResult : Message → Bool
  | .result _ _ _ => true
  | _ => false

/-- Whether an event neither says anything nor sends it. -/
def Event.isQuiet : Event → Bool
  | .said _ | .requested _ => false
  | _ => true

@[simp] theorem saidIn_nil : saidIn [] = [] := rfl

theorem saidIn_append (early late : List Event) : saidIn (early ++ late) = saidIn early ++ saidIn late :=
  List.filterMap_append

theorem saidIn_flatMap {α : Type} (events : α → List Event) (items : List α) :
    saidIn (items.flatMap events) = items.flatMap fun item => saidIn (events item) :=
  List.filterMap_flatMap

theorem saidIn_quiet {events : List Event} (quiet : ∀ event ∈ events, event.isQuiet = true) : saidIn events = [] := by
  refine List.filterMap_eq_nil_iff.mpr fun event member => ?_
  have known := quiet event member
  cases event <;> first | rfl | cases known

theorem requestsIn_quiet {events : List Event} (quiet : ∀ event ∈ events, event.isQuiet = true) :
    requestsIn events = [] := by
  refine List.filterMap_eq_nil_iff.mpr fun event member => ?_
  have known := quiet event member
  cases event <;> first | rfl | cases known

/-- A request among some events has events before it and after it. -/
theorem mem_requestsIn {events : List Event} {request : Request} (member : request ∈ requestsIn events) :
    ∃ early late, events = early ++ .requested request :: late := by
  obtain ⟨event, inside, same⟩ := List.mem_filterMap.mp member
  cases event with
  | requested other =>
    cases same
    exact List.append_of_mem inside
  | _ => cases same

/-! ## Requests and what was said before them -/

/-- Every request among some events carries given messages and then what was said before it. -/
def CarriesSaid (start : List Message) (events : List Event) : Prop :=
  ∀ early request late, events = early ++ .requested request :: late → request.messages = start ++ saidIn early

theorem CarriesSaid.append {start : List Message} {early late : List Event} (first : CarriesSaid start early)
    (second : CarriesSaid (start ++ saidIn early) late) : CarriesSaid start (early ++ late) := by
  intro before request rest split
  rcases List.append_eq_append_iff.mp split with ⟨between, rfl, same⟩ | ⟨between, same, rest_eq⟩
  · rw [saidIn_append, second between request rest same, List.append_assoc]
  · cases between with
    | nil =>
      rw [List.append_nil] at same
      subst same
      have carried := second [] request rest rest_eq.symm
      rwa [saidIn_nil, List.append_nil] at carried
    | cons event others =>
      obtain ⟨rfl, _⟩ := List.cons.inj rest_eq
      exact first before request others same

theorem carriesSaid_quiet (start : List Message) {events : List Event} (silent : requestsIn events = []) :
    CarriesSaid start events := by
  intro early request late split
  rw [split, requestsIn_append] at silent
  simp [requestsIn] at silent

/-- What is carried only grows: of two requests the later one carries all that the earlier one did. -/
theorem CarriesSaid.pairwise {start : List Message} {events : List Event} (carries : CarriesSaid start events) :
    (requestsIn events).Pairwise fun earlier later => earlier.messages <+: later.messages := by
  induction events generalizing start with
  | nil => exact .nil
  | cons event rest ih =>
    have onward : CarriesSaid (start ++ saidIn [event]) rest := by
      intro early request late split
      have carried := carries (event :: early) request late (by rw [split, List.cons_append])
      rw [carried, ← List.singleton_append, saidIn_append, List.append_assoc]
    have later := ih onward
    cases event with
    | requested request =>
      have first : request.messages = start ++ saidIn [] := carries [] request rest rfl
      refine List.pairwise_cons.mpr ⟨fun other member => ?_, later⟩
      obtain ⟨early, late, split⟩ := mem_requestsIn member
      rw [first, onward early other late split]
      exact List.prefix_append (start ++ saidIn []) (saidIn early)
    | _ => exact later

/-- Between two worlds the messages grew by what was said, and every request carried what had been said by then. -/
structure Tells (before after : World) : Prop where
  history : before.history <+: after.history
  messages : after.messages = before.messages ++ saidIn (before.since after)
  carries : CarriesSaid before.messages (before.since after)

namespace Tells
variable {before middle after : World}

theorem of_quiet {events : List Event} (grown : after.history = before.history ++ events)
    (same : after.messages = before.messages) (quiet : ∀ event ∈ events, event.isQuiet = true) : Tells before after := by
  refine ⟨⟨events, grown.symm⟩, ?_, ?_⟩
  · rw [World.since_eq grown, saidIn_quiet quiet, same, List.append_nil]
  · rw [World.since_eq grown]
    exact carriesSaid_quiet _ (requestsIn_quiet quiet)

theorem refl (world : World) : Tells world world := of_quiet (List.append_nil _).symm rfl (by simp)

theorem trans (first : Tells before middle) (second : Tells middle after) : Tells before after := by
  have since := World.since_trans first.history second.history
  refine ⟨first.history.trans second.history, ?_, ?_⟩
  · rw [since, saidIn_append, second.messages, first.messages, List.append_assoc]
  · rw [since]
    refine first.carries.append ?_
    rw [← first.messages]
    exact second.carries

theorem of_record {event : Event} (quiet : event.isQuiet = true) (world : World) : Tells world (world.record event) :=
  of_quiet (World.record_history world event) rfl (by simpa using quiet)

theorem of_said (world : World) (message : Message) : Tells world (world.said message) := by
  refine ⟨⟨_, rfl⟩, ?_, ?_⟩
  · rw [World.since_eq (World.said_history world message)]
    rfl
  · rw [World.since_eq (World.said_history world message)]
    exact carriesSaid_quiet _ rfl

end Tells

namespace Run

theorem tells_spansRounds : SpansRounds Tells where
  refl := Tells.refl
  trans := Tells.trans
  prepared prepares := by
    obtain ⟨events, grown, ofHandler⟩ := prepares.history
    refine Tells.of_quiet grown prepares.messages fun event member => ?_
    have known := ofHandler event member
    cases event <;> first | rfl | cases known
  said := Tells.of_said
  wrote _ := Tells.of_quiet (World.wrote_history _ _ _ _) rfl (by simp [Event.isQuiet])
  shown world text := Tells.of_quiet (World.shown_history world text) rfl (by simp [Event.isQuiet])
  heard world answer rest := Tells.of_quiet (World.heard_history world answer rest) rfl (by simp [Event.isQuiet])
  accepted world _ := Tells.of_record rfl world
  rejected world _ _ := Tells.of_record rfl world
  dispatched world _ := Tells.of_record rfl world
  requested world terms rest := by
    have grown : (awaiting terms world rest).history = world.history ++ [.requested (requestIn terms world)] := rfl
    refine ⟨⟨_, grown.symm⟩, ?_, ?_⟩
    · rw [World.since_eq grown]
      exact (List.append_nil _).symm
    · rw [World.since_eq grown]
      intro early request late split
      cases early with
      | nil =>
        cases split
        exact (List.append_nil _).symm
      | cons event others => simp at split
  replied world _ := Tells.of_record rfl world

theorem converse_tells (terms : Terms) (world : World) : Tells world (converse terms world).2 :=
  (course_spanned tells_spansRounds (converse_course terms world)).1

/-! ## Requests and the turns before them -/

/-- The request that carries some messages. -/
def Terms.request (terms : Terms) (messages : List Message) : Request :=
  terms.context.request messages terms.tools terms.choice terms.model

theorem requestIn_request (terms : Terms) (world : World) : requestIn terms world = terms.request world.messages := rfl

/-- The turn has calls, and all of them their results: after it the conversation can go on. -/
def Turn.Goes (turn : Turn) : Prop := turn.calls ≠ [] ∧ turn.Complete

/-- A conversation that was held in turns: what it added to the messages, whose replies the turns take up, and what each
of its requests carried. -/
structure InTurns (terms : Terms) (world : World) (replies : List Reply) (result : Except RunError Nat) (after : World)
    (turns : List Turn) : Prop where
  messages : after.messages = world.messages ++ turns.flatMap Turn.messages
  takes : List.Forall₂ Turn.Takes turns (replies.take turns.length)
  complete : ∀ n, result = .ok n → ∀ turn ∈ turns, turn.Complete
  requests : ∀ (k : Nat) request, (requestsIn (world.since after))[k]? = some request →
    request = terms.request (world.messages ++ (turns.take k).flatMap Turn.messages) ∧
      ∀ turn ∈ turns.take k, turn.Goes

section InTurns
variable {terms : Terms} {world middle after : World} {reply : Reply} {rest : List Reply}

/-- One request was sent at most, and it carried what there was to start with. -/
theorem single_request {turns : List Turn} (one : requestsIn (world.since after) <+: [requestIn terms world]) :
    ∀ (k : Nat) request, (requestsIn (world.since after))[k]? = some request →
      request = terms.request (world.messages ++ (turns.take k).flatMap Turn.messages) ∧
        ∀ turn ∈ turns.take k, turn.Goes := by
  intro k request found
  obtain ⟨there, same⟩ := List.getElem?_eq_some_iff.mp found
  have among := List.prefix_iff_getElem?.mp one k there
  rw [same] at among
  cases k with
  | zero =>
    cases among
    exact ⟨by simp [requestIn_request], by simp⟩
  | succ k => simp at among

theorem unheard_requestsIn {error : RunError} (failed : exchange terms reply rest world = (.error error, after)) :
    requestsIn (world.since after) <+: [requestIn terms world] := by
  have exchanged := exchange_exchanged terms world reply rest
  rw [failed] at exchanged
  dsimp only at exchanged
  cases exchanged with
  | refused clash =>
    rw [World.since_self]
    exact List.nil_prefix
  | unread unreadable =>
    have grown : (awaiting terms world rest).history = world.history ++ [.requested (requestIn terms world)] := rfl
    rw [World.since_eq grown]
    exact List.prefix_refl _
  | @empty completion read none =>
    have grown : ((awaiting terms world rest).record (.replied completion)).history =
        world.history ++ [.requested (requestIn terms world), .replied completion] := by simp [awaiting]
    rw [World.since_eq grown]
    exact List.prefix_refl _

/-- A round whose calls are served as far as they are sends one request, and is a turn. -/
theorem round_inTurn {calls : List ToolCall} {received : World} {served : Except RunError Bool}
    (heard : exchange terms reply rest world = (.ok calls, received))
    (ran : dispatchAll terms.context calls received = (served, after)) :
    ∃ turn : Turn, turn.Takes reply ∧ turn.calls = calls ∧ after.messages = world.messages ++ turn.messages ∧
      (∀ again, served = .ok again → turn.Complete) ∧ requestsIn (world.since after) = [requestIn terms world] := by
  obtain ⟨content, takes, grown, none⟩ := heard_messages heard
  obtain ⟨texts, results⟩ := served_results (served_of ran)
  refine ⟨⟨content, calls, texts⟩, takes texts, rfl, ?_, fun again ended => results.served again ended, ?_⟩
  · rw [results.messages, grown, List.append_assoc]
    rfl
  · have events := round_grown ⟨world, reply, calls, received⟩ heard ran
    have one : requestsIn (Round.events terms.context ⟨world, reply, calls, received⟩) = [requestIn terms world] :=
      heard_requestsIn heard
    rw [World.since_eq events, one]

theorem course_inTurns {replies : List Reply} {log : List Round} {result : Except RunError Nat}
    (course : Course terms world replies log result after) : ∃ turns, InTurns terms world replies result after turns := by
  induction course with
  | refused clash world =>
    have none : requestsIn (world.since world) <+: [requestIn terms world] := by
      rw [World.since_self]
      exact List.nil_prefix
    exact ⟨[], by simp, by simp, nofun, single_request none⟩
  | silent world =>
    have one : requestsIn (world.since (world.record (.requested (requestIn terms world)))) <+:
        [requestIn terms world] := by
      rw [World.since_eq (World.record_history world _)]
      exact List.prefix_refl _
    exact ⟨[], by simp, by simp, nofun, single_request one⟩
  | unheard failed =>
    obtain ⟨same, _⟩ := unheard_messages failed
    exact ⟨[], by simp [same], by simp, nofun, single_request (unheard_requestsIn failed)⟩
  | failed heard served =>
    obtain ⟨turn, takes, _, grown, _, one⟩ := round_inTurn heard served
    exact ⟨[turn], by simp [grown], .cons takes .nil, nofun, single_request (one ▸ List.prefix_refl _)⟩
  | ended heard served =>
    obtain ⟨turn, takes, _, grown, complete, one⟩ := round_inTurn heard served
    refine ⟨[turn], by simp [grown], .cons takes .nil, fun _ _ => ?_, single_request (one ▸ List.prefix_refl _)⟩
    exact List.forall_mem_singleton.mpr (complete false rfl)
  | @continued world received middle after reply rest calls later result heard served more ih =>
    obtain ⟨turn, takes, same, grown, complete, one⟩ := round_inTurn heard served
    obtain ⟨turns, inTurns⟩ := ih
    have some : turn.calls ≠ [] := by
      rw [same]
      rintro rfl
      cases served
    have goes : turn.Goes := ⟨some, complete true rfl⟩
    obtain ⟨trailing, onward, _⟩ := course_grown more
    have since : world.since after = world.since middle ++ middle.since after :=
      World.since_trans ⟨_, (round_grown ⟨world, reply, calls, received⟩ heard served).symm⟩ ⟨_, onward.symm⟩
    refine ⟨turn :: turns, ?_, .cons takes inTurns.takes, fun n ended => ?_, fun k request found => ?_⟩
    · rw [inTurns.messages, grown, List.flatMap_cons, List.append_assoc]
    · cases result with
      | error error => cases ended
      | ok m => exact List.forall_mem_cons.mpr ⟨goes.2, inTurns.complete m rfl⟩
    · rw [since, requestsIn_append, one] at found
      cases k with
      | zero =>
        cases found
        exact ⟨by simp [requestIn_request], by simp⟩
      | succ k =>
        obtain ⟨same, earlier⟩ := inTurns.requests k request (by simpa using found)
        rw [grown] at same
        exact ⟨by simp [same], List.forall_mem_cons.mpr ⟨goes, earlier⟩⟩

theorem converse_inTurns (terms : Terms) (world : World) :
    ∃ turns, InTurns terms world world.replies (converse terms world).1 (converse terms world).2 turns :=
  course_inTurns (converse_course terms world)

end InTurns

/-! ## Calls and their results among the messages -/

/-- Messages that are woven of plain ones and of complete turns. -/
inductive Woven : List Message → Prop
  | nil : Woven []
  | plain (role : Role) (content : String) {rest : List Message} (more : Woven rest) : Woven (.plain role content :: rest)
  | turn {turn : Turn} {rest : List Message} (complete : turn.Complete) (more : Woven rest) :
      Woven (turn.messages ++ rest)

/-- Every answer with calls is directly followed by one result for each of its calls, in their order, and by no other. -/
def Settled (messages : List Message) : Prop :=
  ∀ early content calls late, messages = early ++ .assistant content (some calls) :: late →
    ∃ texts rest, texts.length = calls.length ∧ late = List.zipWith resultOf calls texts ++ rest ∧
      ∀ message ∈ rest.head?, message.isResult = false

namespace Woven
variable {early late messages : List Message}

theorem append (first : Woven early) (second : Woven late) : Woven (early ++ late) := by
  induction first with
  | nil => exact second
  | plain role content more ih => exact .plain role content ih
  | turn complete more ih =>
    rw [List.append_assoc]
    exact .turn complete ih

theorem of_turns {turns : List Turn} (complete : ∀ turn ∈ turns, turn.Complete) :
    Woven (turns.flatMap Turn.messages) := by
  induction turns with
  | nil => exact .nil
  | cons turn rest ih =>
    have more := ih fun other member => complete other (List.mem_cons_of_mem _ member)
    exact .turn (complete turn List.mem_cons_self) more

theorem flatMap {α : Type} {items : List α} {messages : α → List Message} (each : ∀ item ∈ items, Woven (messages item)) :
    Woven (items.flatMap messages) := by
  induction items with
  | nil => exact .nil
  | cons item rest ih =>
    have more := ih fun other member => each other (List.mem_cons_of_mem _ member)
    exact (each item List.mem_cons_self).append more

/-- What is woven does not begin with a result. -/
theorem head_notResult (woven : Woven messages) : ∀ message ∈ messages.head?, message.isResult = false := by
  cases woven with
  | nil => simp
  | plain role content more => simp [Message.isResult]
  | turn complete more => simp [Turn.messages, Message.isResult]

end Woven

/-- The results of some calls are results, and no answers. -/
theorem results_isResult {calls : List ToolCall} {texts : List String} :
    ∀ message ∈ List.zipWith resultOf calls texts, message.isResult = true := by
  intro message member
  rw [← List.map_uncurry_zip_eq_zipWith] at member
  obtain ⟨pair, _, rfl⟩ := List.mem_map.mp member
  rfl

theorem carried_eq_some {calls given : List ToolCall} (same : carried calls = some given) : given = calls := by
  unfold carried at same
  split at same
  · cases same
  · cases same
    rfl

theorem Woven.settled {messages : List Message} (woven : Woven messages) : Settled messages := by
  induction woven with
  | nil =>
    intro early content calls late split
    simp at split
  | plain role text more ih =>
    intro early content calls late split
    cases early with
    | nil => simp at split
    | cons first others => exact ih others content calls late (List.cons.inj split).2
  | @turn turn rest complete more ih =>
    intro early content calls late split
    cases early with
    | nil =>
      obtain ⟨answer, results⟩ := List.cons.inj split
      obtain ⟨_, given⟩ := Message.assistant.inj answer
      obtain rfl := carried_eq_some given
      exact ⟨turn.texts, rest, complete, results.symm, more.head_notResult⟩
    | cons first others =>
      -- The answer is none of the results of the turn, so it lies in what follows them.
      obtain ⟨_, onward⟩ := List.cons.inj split
      rcases List.append_eq_append_iff.mp onward with ⟨between, rfl, same⟩ | ⟨between, results, same⟩
      · exact ih between content calls late same
      · cases between with
        | nil => exact ih [] content calls late same.symm
        | cons message more =>
          obtain ⟨rfl, _⟩ := List.cons.inj same
          have member : Message.assistant content (some calls) ∈ List.zipWith resultOf turn.calls turn.texts := by
            rw [results]
            exact List.mem_append_right _ List.mem_cons_self
          cases results_isResult _ member

end Run
end Colloquy
