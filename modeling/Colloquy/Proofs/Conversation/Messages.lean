import Mathlib.Data.List.Forall2
import Colloquy.Proofs.Run.Course

/-! The messages of a conversation. However a conversation ends, what it leaves is the messages it started with and then
whole turns: an answer of the model, followed by one result for each of its calls, in their order. Only the last turn
can lack results, and only those of the call that failed and of the calls after it. -/
namespace Colloquy.Run

/-- A turn as it stands among the messages: an answer of the model, and the texts of the results that follow it. -/
structure Turn where
  content : Option String
  calls : List ToolCall
  texts : List String

namespace Turn

/-- The messages of a turn. Each result names the call that it answers. -/
def messages (turn : Turn) : List Message :=
  .assistant turn.content (carried turn.calls) :: List.zipWith resultOf turn.calls turn.texts

/-- Every call of the turn has its result. -/
def Complete (turn : Turn) : Prop := turn.texts.length = turn.calls.length

/-- The answer of the turn is the first that a reply offers. -/
def Takes (turn : Turn) (reply : Reply) : Prop :=
  ∃ completion message, Offers reply completion message ∧ turn.content = message.content ∧
    turn.calls = message.calls.getD []

/-- Serving the calls of the turn ended with an error, when some of them had been taken up: all but the last one of
these have their results, and so has the last one if no handler serves it. -/
structure BrokenOff (turn : Turn) (taken : List ToolCall) (error : RunError) : Prop where
  started : taken ≠ []
  inOrder : taken <+: turn.calls
  atMost : turn.texts.length ≤ taken.length
  atLeast : taken.length ≤ turn.texts.length + 1
  unknown : ∀ name, error = .unknownTool name → turn.texts.length = taken.length

end Turn

/-- What the client has to offer gives no answer: there is no reply, it cannot be read, or it leaves no choice. -/
def NoAnswer (reply : Option Reply) : Prop :=
  ∀ found completion, reply = some found → found.convert = .ok completion → completion.choices = []

theorem noAnswer_none : NoAnswer none := fun _ _ same => by cases same

/-- The calls taken up since the last request. -/
def takenUp (history : List Event) : List ToolCall :=
  history.foldl (fun calls event =>
    match event with
    | .requested _ => []
    | .dispatched call => calls ++ [call]
    | _ => calls) []

theorem takenUp_requested (history : List Event) (request : Request) :
    takenUp (history ++ [.requested request]) = [] := by
  simp [takenUp]

theorem takenUp_dispatched (history : List Event) (call : ToolCall) :
    takenUp (history ++ [.dispatched call]) = takenUp history ++ [call] := by
  simp [takenUp]

theorem takenUp_replied (history : List Event) (completion : Completion) :
    takenUp (history ++ [.replied completion]) = takenUp history := by
  simp [takenUp]

theorem takenUp_inCall (history : List Event) {events : List Event}
    (inCall : ∀ event ∈ events, event.isInCall = true) : takenUp (history ++ events) = takenUp history := by
  induction events generalizing history with
  | nil => rw [List.append_nil]
  | cons event rest ih =>
    have head : event.isInCall = true := inCall event List.mem_cons_self
    have one : takenUp (history ++ [event]) = takenUp history := by
      clear ih inCall
      cases event <;> simp_all [takenUp, Event.isInCall]
    rw [← List.singleton_append, ← List.append_assoc,
      ih _ fun other member => inCall other (List.mem_cons_of_mem _ member), one]

theorem takenUp_serving (context : Context Handler) (serving : Serving) :
    takenUp (serving.after context).history = takenUp serving.before.history ++ [serving.call] := by
  have writes := dispatch_spanned writes_spans context serving
  rw [World.since_spec writes.grows, takenUp_inCall _ writes.since]
  exact takenUp_dispatched _ _

/-- What serving the calls of an answer adds to the messages, and how far it gets. -/
structure Results (world : World) (calls : List ToolCall) (log : List Serving) (result : Except RunError Bool)
    (after : World) (texts : List String) : Prop where
  messages : after.messages = world.messages ++ List.zipWith resultOf calls texts
  taken : takenUp after.history = takenUp world.history ++ log.map Serving.call
  inOrder : log.map Serving.call <+: calls
  atMost : texts.length ≤ log.length
  atLeast : log.length ≤ texts.length + 1
  served : ∀ again, result = .ok again → texts.length = calls.length
  failed : ∀ error, result = .error error → log ≠ []
  unknown : ∀ name, result = .error (.unknownTool name) → texts.length = log.length

/-- The results of a call that is followed by others. -/
theorem single_results {call : ToolCall} (rest : List ToolCall) {texts : List String} (atMostOne : texts.length ≤ 1) :
    List.zipWith resultOf (call :: rest) texts = texts.map (resultOf call) := by
  cases texts with
  | nil => rfl
  | cons text more =>
    have none : more = [] := by simpa using atMostOne
    rw [none, List.zipWith_cons_cons, List.zipWith_nil_right]
    rfl

theorem served_results {context : Context Handler} {world after : World} {calls : List ToolCall} {log : List Serving}
    {result : Except RunError Bool} (served : Served context world calls log result after) :
    ∃ texts, Results world calls log result after texts := by
  induction served with
  | done world =>
    exact ⟨[], by simp, by simp, List.prefix_refl _, Nat.le_refl _, by simp, fun _ _ => rfl, nofun, nofun⟩
  | @next world middle after call rest first later result served more ih =>
    obtain ⟨texts, results⟩ := ih
    obtain ⟨mine, answered⟩ := dispatch_answers context ⟨call, world⟩
    have taken := takenUp_serving context ⟨call, world⟩
    simp only [Serving.result, Serving.after, served] at answered taken
    obtain ⟨text, rfl⟩ := List.length_eq_one_iff.mp (answered.served first rfl)
    refine ⟨text :: texts, ?_, ?_, ?_, ?_, ?_, ?_, fun _ _ => List.cons_ne_nil _ _, ?_⟩
    · rw [results.messages, answered.messages]
      simp
    · rw [results.taken, taken]
      simp
    · simpa using results.inOrder
    · simpa using results.atMost
    · simpa using results.atLeast
    · intro again ended
      cases result with
      | error error => cases ended
      | ok others => simpa using results.served others rfl
    · intro name ended
      cases result with
      | error error =>
        cases ended
        simpa using results.unknown name rfl
      | ok others => cases ended
  | @failed world after call error rest failed =>
    obtain ⟨texts, answered⟩ := dispatch_answers context ⟨call, world⟩
    have taken := takenUp_serving context ⟨call, world⟩
    simp only [Serving.result, Serving.after, failed] at answered taken
    refine ⟨texts, ?_, taken, ?_, answered.atMostOne, ?_, ?_, fun _ _ => List.cons_ne_nil _ _, ?_⟩
    · rw [answered.messages, single_results rest answered.atMostOne]
    · exact List.prefix_append [call] rest
    · simp
    · intro again ended
      cases ended
    · intro name ended
      cases ended
      exact answered.unknown name rfl

section Exchange
variable {terms : Terms} {world after : World} {reply : Reply} {rest : List Reply}

/-- An answer that is not received adds nothing to the messages; if it could not even be asked for, nothing happens. -/
theorem unheard_messages {error : RunError} (failed : exchange terms reply rest world = (.error error, after)) :
    after.messages = world.messages ∧ ((Context.clash terms.context.params = true ∧ after = world) ∨
      (takenUp after.history = [] ∧ NoAnswer (some reply))) := by
  have exchanged := exchange_exchanged terms world reply rest
  rw [failed] at exchanged
  cases exchanged with
  | refused clash => exact ⟨rfl, .inl ⟨clash, rfl⟩⟩
  | unread unreadable =>
    refine ⟨rfl, .inr ⟨takenUp_requested _ _, fun found completion same read => ?_⟩⟩
    cases same
    rw [unreadable] at read
    cases read
  | empty readable none =>
    refine ⟨rfl, .inr ⟨(takenUp_replied _ _).trans (takenUp_requested _ _), fun found completion same read => ?_⟩⟩
    cases same
    rw [readable] at read
    cases read
    exact none

/-- An answer that is received adds one message, with the calls of the reply. -/
theorem heard_messages {calls : List ToolCall} (heard : exchange terms reply rest world = (.ok calls, after)) :
    ∃ content, (∀ texts, Turn.Takes ⟨content, calls, texts⟩ reply) ∧
      after.messages = world.messages ++ [.assistant content (carried calls)] ∧ takenUp after.history = [] := by
  obtain ⟨completion, message, offers, same, rfl⟩ := exchange_ok terms heard
  refine ⟨message.content, fun texts => ⟨completion, message, offers, rfl, same⟩, rfl, ?_⟩
  rw [World.said_history, takenUp_inCall _ (by simp [Event.isInCall]), World.record_history, takenUp_replied]
  exact takenUp_requested _ _

end Exchange

/-- What a conversation adds to the messages, turn by turn. -/
structure Turns (terms : Terms) (world : World) (replies : List Reply) (result : Except RunError Nat) (after : World)
    (turns : List Turn) : Prop where
  messages : after.messages = world.messages ++ turns.flatMap Turn.messages
  takes : List.Forall₂ Turn.Takes turns (replies.take turns.length)
  atMost : ∀ turn ∈ turns, turn.texts.length ≤ turn.calls.length
  earlier : ∀ turn ∈ turns.dropLast, turn.calls ≠ [] ∧ turn.Complete
  ended : ∀ n, result = .ok n → turns.length = n ∧ ∃ last, turns.getLast? = some last ∧ last.Complete
  failed : ∀ error, result = .error error →
    (Context.clash terms.context.params = true ∧ turns = [] ∧ after = world) ∨
    (NoAnswer replies[turns.length]? ∧ takenUp after.history = [] ∧ ∀ turn ∈ turns, turn.calls ≠ [] ∧ turn.Complete) ∨
      ∃ last, turns.getLast? = some last ∧ last.BrokenOff (takenUp after.history) error

theorem no_turns {terms : Terms} {world after : World} {replies : List Reply} {error : RunError}
    (same : after.messages = world.messages)
    (ended : (Context.clash terms.context.params = true ∧ after = world) ∨
      (takenUp after.history = [] ∧ NoAnswer replies.head?)) :
    Turns terms world replies (.error error) after [] := by
  refine ⟨by simp [same], by simp, by simp, by simp, nofun, fun _ _ => ?_⟩
  rcases ended with ⟨clash, unchanged⟩ | ⟨none, noAnswer⟩
  · exact .inl ⟨clash, rfl, unchanged⟩
  · refine .inr (.inl ⟨?_, none, by simp⟩)
    rw [List.length_nil, ← List.head?_eq_getElem?]
    exact noAnswer

/-- A first turn with calls, all of them answered, before the turns of the rest. -/
theorem Turns.cons {terms : Terms} {world middle after : World} {reply : Reply} {rest : List Reply}
    {result : Except RunError Nat} {turn : Turn} {turns : List Turn} (clear : Context.clash terms.context.params = false)
    (takes : turn.Takes reply) (calls : turn.calls ≠ []) (complete : turn.Complete)
    (grown : middle.messages = world.messages ++ turn.messages) (later : Turns terms middle rest result after turns) :
    Turns terms world (reply :: rest) (result.map (· + 1)) after (turn :: turns) := by
  refine ⟨?_, ?_, ?_, ?_, ?_, ?_⟩
  · rw [later.messages, grown]
    simp
  · exact .cons takes later.takes
  · intro other member
    rcases List.mem_cons.mp member with rfl | member
    · exact Nat.le_of_eq complete
    · exact later.atMost other member
  · intro other member
    cases turns with
    | nil => cases member
    | cons second others =>
      rcases List.mem_cons.mp member with rfl | member
      · exact ⟨calls, complete⟩
      · exact later.earlier other member
  · intro n counted
    cases result with
    | error error => cases counted
    | ok m =>
      cases counted
      obtain ⟨number, last, isLast, whole⟩ := later.ended m rfl
      exact ⟨congrArg (· + 1) number, last, by rw [List.getLast?_cons, isLast]; rfl, whole⟩
  · intro error failed
    cases result with
    | ok m => cases failed
    | error cause =>
      cases failed
      rcases later.failed error rfl with ⟨clash, -⟩ | ⟨noAnswer, none, whole⟩ | ⟨last, isLast, broken⟩
      · rw [clear] at clash
        cases clash
      · refine .inr (.inl ⟨by simpa using noAnswer, none, fun other member => ?_⟩)
        rcases List.mem_cons.mp member with rfl | member
        · exact ⟨calls, complete⟩
        · exact whole other member
      · exact .inr (.inr ⟨last, by rw [List.getLast?_cons, isLast]; rfl, broken⟩)

theorem course_turns {terms : Terms} {world after : World} {replies : List Reply} {log : List Round}
    {result : Except RunError Nat} (course : Course terms world replies log result after) :
    ∃ turns, Turns terms world replies result after turns := by
  induction course with
  | refused clash world => exact ⟨[], no_turns rfl (.inl ⟨clash, rfl⟩)⟩
  | silent world => exact ⟨[], no_turns rfl (.inr ⟨takenUp_requested _ _, noAnswer_none⟩)⟩
  | unheard failed =>
    obtain ⟨same, ended⟩ := unheard_messages failed
    exact ⟨[], no_turns same ended⟩
  | @failed world received after reply rest calls error heard served =>
    obtain ⟨content, takes, grown, none⟩ := heard_messages heard
    obtain ⟨texts, results⟩ := served_results (served_of served)
    -- The turn in which a call fails is the last one; its results are those of the calls before it.
    refine ⟨[⟨content, calls, texts⟩], ?_, .cons (takes texts) .nil, ?_, by simp, nofun, fun other failed => ?_⟩
    · rw [results.messages, grown]
      simp [Turn.messages]
    · have room := results.inOrder.length_le
      simp only [List.length_map] at room
      simpa using Nat.le_trans results.atMost room
    · cases failed
      rw [results.taken, none, List.nil_append]
      refine .inr (.inr ⟨_, rfl, ?_, results.inOrder, ?_, ?_, fun name unknown => ?_⟩)
      · simpa using results.failed error rfl
      · simpa using results.atMost
      · simpa using results.atLeast
      · simpa using results.unknown name (by rw [unknown])
  | @ended world received after reply rest calls heard served =>
    obtain ⟨content, takes, grown, none⟩ := heard_messages heard
    obtain ⟨texts, results⟩ := served_results (served_of served)
    have whole := results.served false rfl
    refine ⟨[⟨content, calls, texts⟩], ?_, .cons (takes texts) .nil, by simp [whole], by simp, ?_, nofun⟩
    · rw [results.messages, grown]
      simp [Turn.messages]
    · intro n counted
      cases counted
      exact ⟨rfl, _, rfl, whole⟩
  | @continued world received middle after reply rest calls later result heard served more ih =>
    obtain ⟨content, takes, grown, none⟩ := heard_messages heard
    obtain ⟨texts, results⟩ := served_results (served_of served)
    obtain ⟨turns, whole⟩ := ih
    have some : calls ≠ [] := by
      rintro rfl
      cases served
    refine ⟨⟨content, calls, texts⟩ :: turns,
      Turns.cons (exchange_clear heard) (takes texts) some (results.served true rfl) ?_ whole⟩
    rw [results.messages, grown]
    simp [Turn.messages]

/-- However a conversation ends, its messages are those it started with and then whole turns, one for each reply that
was received. If it ends well, the last turn is complete too; if no answer could be obtained, all turns are; if a parameter
clashes there are none, and nothing happens at all; and if serving a call failed, the last turn has the results of the
calls before that one, and at most its own. -/
theorem converse_messages (terms : Terms) (world : World) :
    ∃ turns : List Turn,
      (converse terms world).2.messages = world.messages ++ turns.flatMap Turn.messages ∧
      List.Forall₂ Turn.Takes turns (world.replies.take turns.length) ∧
      (∀ turn ∈ turns, turn.texts.length ≤ turn.calls.length) ∧
      (∀ turn ∈ turns.dropLast, turn.calls ≠ [] ∧ turn.Complete) ∧
      match (converse terms world).1 with
      | .ok n => turns.length = n ∧ ∃ last, turns.getLast? = some last ∧ last.Complete
      | .error error =>
        (Context.clash terms.context.params = true ∧ turns = [] ∧ (converse terms world).2 = world) ∨
        (NoAnswer world.replies[turns.length]? ∧ takenUp (converse terms world).2.history = [] ∧
          ∀ turn ∈ turns, turn.calls ≠ [] ∧ turn.Complete) ∨
          ∃ last, turns.getLast? = some last ∧ last.BrokenOff (takenUp (converse terms world).2.history) error := by
  obtain ⟨turns, found⟩ := course_turns (converse_course terms world)
  refine ⟨turns, found.messages, found.takes, found.atMost, found.earlier, ?_⟩
  cases result : (converse terms world).1 with
  | ok n => exact found.ended n result
  | error error => exact found.failed error result

end Colloquy.Run
