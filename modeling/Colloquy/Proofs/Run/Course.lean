import Mathlib.Data.List.Infix
import Colloquy.Proofs.Context.Settings
import Colloquy.Proofs.Run.Dispatch

/-! The course of a conversation: its rounds, and within each round the calls that are taken up, every one with the world
it starts from. What can come of the calls of an answer, of obtaining an answer, and of a whole conversation is said
once; what is known of every conversation is drawn from these by induction. -/
namespace Colloquy.Run
variable (context : Context Handler) (terms : Terms)

/-- The calls of an answer that are taken up, in order: all of them, unless serving one fails. -/
def servings (world : World) : List ToolCall → List Serving
  | [] => []
  | call :: rest =>
    match dispatch context call world with
    | (.ok _, next) => ⟨call, world⟩ :: servings next rest
    | (.error _, _) => [⟨call, world⟩]

/-- What can come of the calls of an answer. -/
inductive Served : World → List ToolCall → List Serving → Except RunError Bool → World → Prop
  | done (world : World) : Served world [] [] (.ok false) world
  | next {world middle after : World} {call : ToolCall} {rest : List ToolCall} {first : Bool} {later : List Serving}
      {result : Except RunError Bool} (served : dispatch context call world = (.ok first, middle))
      (more : Served middle rest later result after) :
      Served world (call :: rest) (⟨call, world⟩ :: later) (result.map (first || ·)) after
  | failed {world after : World} {call : ToolCall} {error : RunError} (rest : List ToolCall)
      (failed : dispatch context call world = (.error error, after)) :
      Served world (call :: rest) [⟨call, world⟩] (.error error) after

theorem dispatchAll_served (calls : List ToolCall) (world : World) :
    Served context world calls (servings context world calls) (dispatchAll context calls world).1
      (dispatchAll context calls world).2 := by
  induction calls generalizing world with
  | nil => exact .done world
  | cons call rest ih =>
    simp only [dispatchAll, servings]
    cases ran : dispatch context call world with
    | mk result middle =>
      cases result with
      | error error =>
        rw [bind_error ran]
        exact .failed rest ran
      | ok first =>
        rw [bind_ok ran]
        have more := ih middle
        cases later : dispatchAll context rest middle with
        | mk result after =>
          rw [later] at more
          cases result with
          | error error =>
            rw [bind_error later]
            exact .next ran more
          | ok again =>
            rw [bind_ok later]
            exact .next ran more

theorem served_of {context : Context Handler} {calls : List ToolCall} {world after : World}
    {result : Except RunError Bool} (served : dispatchAll context calls world = (result, after)) :
    Served context world calls (servings context world calls) result after := by
  have course := dispatchAll_served context calls world
  rwa [served] at course

/-- Of some calls only the last one can have failed, and with it whatever they are a part of. -/
structure FailsLast {α : Type} (log : List Serving) (result : Except RunError α) : Prop where
  earlier : ∀ serving ∈ log.dropLast, ∃ again, serving.result context = .ok again
  last : ∀ serving error, log.getLast? = some serving → serving.result context = .error error → result = .error error

/-- A call that fails is the last one, and fails whatever it is a part of. -/
theorem FailsLast.ends {α : Type} {context : Context Handler} {log : List Serving} {result : Except RunError α}
    (failsLast : FailsLast context log result) {serving : Serving} (member : serving ∈ log) {error : RunError}
    (failed : serving.result context = .error error) : log.getLast? = some serving ∧ result = .error error := by
  have isLast : log.getLast? = some serving := by
    cases last : log.getLast? with
    | none =>
      rw [List.getLast?_eq_none_iff.mp last] at member
      cases member
    | some other =>
      rw [← List.dropLast_append_getLast? other last] at member
      rcases List.mem_append.mp member with member | member
      · obtain ⟨again, ended⟩ := failsLast.earlier serving member
        rw [failed] at ended
        cases ended
      · rw [List.mem_singleton.mp member]
  exact ⟨isLast, failsLast.last serving error isLast failed⟩

theorem FailsLast.all {α : Type} {context : Context Handler} {log : List Serving} {result : α}
    (failsLast : FailsLast context log (.ok result : Except RunError α)) :
    ∀ serving ∈ log, ∃ again, serving.result context = .ok again := by
  intro serving member
  cases ended : serving.result context with
  | ok again => exact ⟨again, rfl⟩
  | error error => cases (failsLast.ends member ended).2

theorem FailsLast.map {α β : Type} {context : Context Handler} {log : List Serving} {result : Except RunError α}
    (failsLast : FailsLast context log result) (f : α → β) : FailsLast context log (result.map f) := by
  refine ⟨failsLast.earlier, fun serving error isLast failed => ?_⟩
  rw [failsLast.last serving error isLast failed]
  rfl

/-- Calls that all succeed can be put before others. -/
theorem FailsLast.append {α : Type} {context : Context Handler} {early late : List Serving} {result : Except RunError α}
    (first : ∀ serving ∈ early, ∃ again, serving.result context = .ok again)
    (failsLast : FailsLast context late result) : FailsLast context (early ++ late) result := by
  cases late with
  | nil =>
    rw [List.append_nil]
    refine ⟨fun serving member => first serving (List.mem_of_mem_dropLast member), fun serving error isLast failed => ?_⟩
    obtain ⟨again, ended⟩ := first serving (List.mem_of_getLast? isLast)
    rw [ended] at failed
    cases failed
  | cons next others =>
    refine ⟨fun serving member => ?_, fun serving error isLast failed => ?_⟩
    · rw [List.dropLast_append_of_ne_nil (List.cons_ne_nil next others)] at member
      rcases List.mem_append.mp member with member | member
      · exact first serving member
      · exact failsLast.earlier serving member
    · rw [List.getLast?_append_of_ne_nil _ (List.cons_ne_nil next others)] at isLast
      exact failsLast.last serving error isLast failed

theorem served_failsLast {context : Context Handler} {world after : World} {calls : List ToolCall} {log : List Serving}
    {result : Except RunError Bool} (served : Served context world calls log result after) :
    FailsLast context log result := by
  induction served with
  | done world => exact ⟨by simp, by simp⟩
  | @next world middle after call rest first later result served more ih =>
    have mine : ∀ serving ∈ [Serving.mk call world], ∃ again, serving.result context = .ok again := by
      simp [Serving.result, served]
    exact FailsLast.append mine (ih.map _)
  | @failed world after call error rest failed =>
    refine ⟨by simp, fun serving other isLast ended => ?_⟩
    obtain rfl : ⟨call, world⟩ = serving := by simpa using isLast
    rw [Serving.result, failed] at ended
    exact ended

/-- Sends all messages and takes the next reply. -/
def exchange (reply : Reply) (rest : List Reply) : Run (List ToolCall) := do
  send terms
  change fun world => { world with replies := rest }
  receive reply

/-- The request that is sent in a world. -/
def requestIn (world : World) : Request :=
  terms.context.request world.messages terms.tools terms.choice terms.model

/-- The world in which a request was sent and a reply taken. -/
def awaiting (world : World) (rest : List Reply) : World :=
  { world.record (.requested (requestIn terms world)) with replies := rest }

/-- The calls that a message has, if any. -/
def carried (calls : List ToolCall) : Option (List ToolCall) := if calls.isEmpty then none else some calls

theorem send_refused {terms : Terms} (clash : Context.clash terms.context.params = true) (world : World) :
    send terms world = (.error (.misuse .wrongType), world) := by
  unfold send
  rw [read_bind, Context.call_eq, clash]
  rfl

theorem send_sent {terms : Terms} (clear : Context.clash terms.context.params = false) (world : World) :
    send terms world = (.ok (), world.record (.requested (requestIn terms world))) := by
  unfold send
  rw [read_bind, Context.call_eq, clear]
  rfl

/-- What can come of an exchange. -/
inductive Exchanged (world : World) (reply : Reply) (rest : List Reply) : Except RunError (List ToolCall) → World → Prop
  | refused (clash : Context.clash terms.context.params = true) :
      Exchanged world reply rest (.error (.misuse .wrongType)) world
  | unread {cause : ReplyError} (unreadable : reply.convert = .error cause) :
      Exchanged world reply rest (.error (.ofReply cause)) (awaiting terms world rest)
  | empty {completion : Completion} (read : reply.convert = .ok completion) (none : completion.choices = []) :
      Exchanged world reply rest (.error .noChoice) ((awaiting terms world rest).record (.replied completion))
  | received {completion : Completion} {choice : Choice} {others : List Choice}
      (read : reply.convert = .ok completion) (chosen : completion.choices = choice :: others) :
      Exchanged world reply rest (.ok (choice.message.calls.getD []))
        (((awaiting terms world rest).record (.replied completion)).said
          (.assistant choice.message.content (carried (choice.message.calls.getD []))))

theorem exchange_exchanged (world : World) (reply : Reply) (rest : List Reply) :
    Exchanged terms world reply rest (exchange terms reply rest world).1 (exchange terms reply rest world).2 := by
  cases clash : Context.clash terms.context.params with
  | true =>
    unfold exchange
    rw [bind_error (send_refused clash world)]
    exact .refused clash
  | false =>
    have sent : exchange terms reply rest world = receive reply (awaiting terms world rest) := by
      unfold exchange
      rw [bind_ok (send_sent clash world)]
      rfl
    rw [sent]
    unfold receive
    cases read : reply.convert with
    | error cause => exact .unread read
    | ok completion =>
      simp only [Except.mapError]
      rw [check_ok_bind, record_bind]
      cases chosen : completion.choices with
      | nil => exact .empty read chosen
      | cons choice others => exact .received read chosen

/-- What is taken from a reply: the completion that it is converted to, and the message of its first choice. -/
structure Offers (reply : Reply) (completion : Completion) (message : ReplyMessage) : Prop where
  read : reply.convert = .ok completion
  first : completion.choices.head?.map Choice.message = some message

theorem exchange_ok {world received : World} {reply : Reply} {rest : List Reply} {calls : List ToolCall}
    (heard : exchange terms reply rest world = (.ok calls, received)) :
    ∃ completion message, Offers reply completion message ∧ calls = message.calls.getD [] ∧
      received = ((awaiting terms world rest).record (.replied completion)).said
        (.assistant message.content (carried calls)) := by
  have exchanged := exchange_exchanged terms world reply rest
  rw [heard] at exchanged
  dsimp only at exchanged
  cases exchanged with
  | @received completion choice others read chosen =>
    exact ⟨completion, choice.message, ⟨read, by rw [chosen]; rfl⟩, rfl, rfl⟩

/-- An answer is received only where no parameter clashes. -/
theorem exchange_clear {terms : Terms} {world received : World} {reply : Reply} {rest : List Reply}
    {calls : List ToolCall} (heard : exchange terms reply rest world = (.ok calls, received)) :
    Context.clash terms.context.params = false := by
  refine Bool.eq_false_iff.mpr fun clash => ?_
  unfold exchange at heard
  rw [bind_error (send_refused clash world)] at heard
  cases heard

/-- A round whose answer was received: the world in which the messages are sent, the reply, the calls in it, and the
world in which they are taken up. -/
structure Round where
  before : World
  reply : Reply
  calls : List ToolCall
  received : World

/-- The calls of a round that are taken up. -/
def Round.servings (round : Round) : List Serving := Run.servings context round.received round.calls

/-- The rounds of a conversation whose answers are received, in order. -/
def roundsFrom (world : World) : List Reply → List Round
  | [] => []
  | reply :: rest =>
    match exchange terms reply rest world with
    | (.error _, _) => []
    | (.ok calls, received) =>
      ⟨world, reply, calls, received⟩ ::
        match dispatchAll terms.context calls received with
        | (.ok true, next) => roundsFrom next rest
        | _ => []

/-- The calls that a conversation takes up, in order. -/
def servingsFrom (world : World) : List Serving :=
  (roundsFrom terms world world.replies).flatMap (Round.servings terms.context)

/-- What can come of a conversation, with the number of its rounds if it ends well. -/
inductive Course : World → List Reply → List Round → Except RunError Nat → World → Prop
  | refused (clash : Context.clash terms.context.params = true) (world : World) :
      Course world [] [] (.error (.misuse .wrongType)) world
  | silent (world : World) :
      Course world [] [] (.error .outOfReplies) (world.record (.requested (requestIn terms world)))
  | unheard {world after : World} {reply : Reply} {rest : List Reply} {error : RunError}
      (failed : exchange terms reply rest world = (.error error, after)) :
      Course world (reply :: rest) [] (.error error) after
  | failed {world received after : World} {reply : Reply} {rest : List Reply} {calls : List ToolCall} {error : RunError}
      (heard : exchange terms reply rest world = (.ok calls, received))
      (served : dispatchAll terms.context calls received = (.error error, after)) :
      Course world (reply :: rest) [⟨world, reply, calls, received⟩] (.error error) after
  | ended {world received after : World} {reply : Reply} {rest : List Reply} {calls : List ToolCall}
      (heard : exchange terms reply rest world = (.ok calls, received))
      (served : dispatchAll terms.context calls received = (.ok false, after)) :
      Course world (reply :: rest) [⟨world, reply, calls, received⟩] (.ok 1) after
  | continued {world received middle after : World} {reply : Reply} {rest : List Reply} {calls : List ToolCall}
      {later : List Round} {result : Except RunError Nat}
      (heard : exchange terms reply rest world = (.ok calls, received))
      (served : dispatchAll terms.context calls received = (.ok true, middle))
      (more : Course middle rest later result after) :
      Course world (reply :: rest) (⟨world, reply, calls, received⟩ :: later) (result.map (· + 1)) after

/-- A conversation that goes on after some rounds counts on from their number. -/
theorem rounds_course (replies : List Reply) (done : Nat) (world : World) :
    ∃ result, (rounds terms done replies world).1 = result.map (done + ·) ∧
      Course terms world replies (roundsFrom terms world replies) result (rounds terms done replies world).2 := by
  induction replies generalizing done world with
  | nil =>
    unfold rounds
    cases clash : Context.clash terms.context.params with
    | true =>
      rw [bind_error (send_refused clash world)]
      exact ⟨_, rfl, .refused clash world⟩
    | false =>
      rw [bind_ok (send_sent clash world)]
      exact ⟨.error .outOfReplies, rfl, .silent world⟩
  | cons reply rest ih =>
    -- One round as an exchange and the service of its calls, which is how the course tells it.
    have body : rounds terms done (reply :: rest) world =
        (exchange terms reply rest >>= fun calls => dispatchAll terms.context calls >>= fun again =>
          if again then rounds terms (done + 1) rest else return done + 1) world := by
      unfold exchange
      rw [bind_assoc]
      rfl
    rw [body]
    cases heard : exchange terms reply rest world with
    | mk result received =>
      cases result with
      | error error =>
        rw [bind_error heard]
        simp only [roundsFrom, heard]
        exact ⟨.error error, rfl, .unheard heard⟩
      | ok calls =>
        rw [bind_ok heard]
        cases served : dispatchAll terms.context calls received with
        | mk result middle =>
          cases result with
          | error error =>
            rw [bind_error served]
            simp only [roundsFrom, heard, served]
            exact ⟨.error error, rfl, .failed heard served⟩
          | ok again =>
            rw [bind_ok served]
            cases again with
            | false =>
              simp only [roundsFrom, heard, served]
              exact ⟨.ok 1, rfl, .ended heard served⟩
            | true =>
              simp only [roundsFrom, heard, served, if_true]
              obtain ⟨result, counted, more⟩ := ih (done + 1) middle
              refine ⟨result.map (· + 1), ?_, .continued heard served more⟩
              rw [counted]
              cases result with
              | error error => rfl
              | ok n => exact congrArg Except.ok (Nat.add_right_comm done 1 n)

/-- Every conversation takes the course of its rounds. -/
theorem converse_course (world : World) :
    Course terms world world.replies (roundsFrom terms world world.replies) (converse terms world).1
      (converse terms world).2 := by
  obtain ⟨result, counted, course⟩ := rounds_course terms world.replies 0 world
  have same : (converse terms world).1 = result := by
    change (rounds terms 0 world.replies world).1 = result
    rw [counted]
    cases result with
    | error error => rfl
    | ok n => exact congrArg Except.ok (Nat.zero_add n)
  rw [same]
  exact course

/-- Every round of a conversation was heard, and its calls were served as far as they were. -/
theorem course_heard {terms : Terms} {world after : World} {replies : List Reply} {log : List Round}
    {result : Except RunError Nat} (course : Course terms world replies log result after) :
    ∀ round ∈ log, ∃ rest, exchange terms round.reply rest round.before = (.ok round.calls, round.received) := by
  induction course with
  | refused clash world => simp
  | silent world => simp
  | unheard failed => simp
  | failed heard served => simpa using ⟨_, heard⟩
  | ended heard served => simpa using ⟨_, heard⟩
  | continued heard served more ih => simpa using ⟨⟨_, heard⟩, ih⟩

/-- The rounds take the replies in order. -/
theorem course_replies {terms : Terms} {world after : World} {replies : List Reply} {log : List Round}
    {result : Except RunError Nat} (course : Course terms world replies log result after) :
    log.map Round.reply <+: replies := by
  induction course with
  | refused clash world => exact List.nil_prefix
  | silent world => exact List.nil_prefix
  | unheard failed => exact List.nil_prefix
  | failed heard served => exact List.prefix_append _ _
  | ended heard served => exact List.prefix_append _ _
  | continued heard served more ih => simpa using ih

/-! ## What every step of a conversation spans -/

/-- A relation between worlds that also spans what is done between two calls. -/
structure SpansRounds (relation : World → World → Prop) : Prop extends Spans relation where
  dispatched : ∀ world call, relation world (world.record (.dispatched call))
  requested : ∀ world terms rest, relation world (awaiting terms world rest)
  replied : ∀ world completion, relation world (world.record (.replied completion))

section Spanned
variable {relation : World → World → Prop} (spans : SpansRounds relation)
include spans

theorem serving_spanned (context : Context Handler) (serving : Serving) :
    relation serving.before (serving.after context) :=
  spans.trans (spans.dispatched _ _) (dispatch_spanned spans.toSpans context serving)

/-- The calls of an answer are spanned as a whole, and from either end up to each of them. -/
theorem served_spanned {context : Context Handler} {world after : World} {calls : List ToolCall} {log : List Serving}
    {result : Except RunError Bool} (served : Served context world calls log result after) :
    relation world after ∧
      ∀ serving ∈ log, relation world serving.before ∧ relation (serving.after context) after := by
  induction served with
  | done world => exact ⟨spans.refl world, by simp⟩
  | @next world middle after call rest first later result served more ih =>
    have step := serving_spanned spans context ⟨call, world⟩
    simp only [Serving.after, served] at step
    obtain ⟨whole, each⟩ := ih
    refine ⟨spans.trans step whole, fun serving member => ?_⟩
    rcases List.mem_cons.mp member with rfl | member
    · refine ⟨spans.refl world, ?_⟩
      rw [Serving.after, served]
      exact whole
    · obtain ⟨early, late⟩ := each serving member
      exact ⟨spans.trans step early, late⟩
  | @failed world after call error rest failed =>
    have step := serving_spanned spans context ⟨call, world⟩
    simp only [Serving.after, failed] at step
    refine ⟨step, fun serving member => ?_⟩
    obtain rfl := List.mem_singleton.mp member
    refine ⟨spans.refl world, ?_⟩
    rw [Serving.after, failed]
    exact spans.refl after

theorem exchange_spanned {terms : Terms} {world after : World} {reply : Reply} {rest : List Reply}
    {result : Except RunError (List ToolCall)} (exchanged : exchange terms reply rest world = (result, after)) :
    relation world after := by
  have sent : relation world (awaiting terms world rest) := spans.requested world terms rest
  have outcome := exchange_exchanged terms world reply rest
  rw [exchanged] at outcome
  dsimp only at outcome
  cases outcome with
  | refused clash => exact spans.refl world
  | unread _ => exact sent
  | empty read none => exact spans.trans sent (spans.replied _ _)
  | received read chosen => exact spans.trans (spans.trans sent (spans.replied _ _)) (spans.said _ _)

/-- A conversation is spanned as a whole, and from either end up to each of its calls. -/
theorem course_spanned {terms : Terms} {world after : World} {replies : List Reply} {log : List Round}
    {result : Except RunError Nat} (course : Course terms world replies log result after) :
    relation world after ∧ ∀ serving ∈ log.flatMap (Round.servings terms.context),
      relation world serving.before ∧ relation (serving.after terms.context) after := by
  induction course with
  | refused clash world => exact ⟨spans.refl world, by simp⟩
  | silent world => exact ⟨spans.requested world terms world.replies, by simp⟩
  | unheard failed => exact ⟨exchange_spanned spans failed, by simp⟩
  | @failed world received after reply rest calls error heard served =>
    have opened := exchange_spanned spans heard
    obtain ⟨whole, each⟩ := served_spanned spans (served_of served)
    rw [List.flatMap_singleton]
    exact ⟨spans.trans opened whole, fun serving member =>
      ⟨spans.trans opened (each serving member).1, (each serving member).2⟩⟩
  | @ended world received after reply rest calls heard served =>
    have opened := exchange_spanned spans heard
    obtain ⟨whole, each⟩ := served_spanned spans (served_of served)
    rw [List.flatMap_singleton]
    exact ⟨spans.trans opened whole, fun serving member =>
      ⟨spans.trans opened (each serving member).1, (each serving member).2⟩⟩
  | @continued world received middle after reply rest calls later result heard served more ih =>
    have opened := exchange_spanned spans heard
    obtain ⟨whole, each⟩ := served_spanned spans (served_of served)
    obtain ⟨beyond, others⟩ := ih
    refine ⟨spans.trans (spans.trans opened whole) beyond, fun serving member => ?_⟩
    rw [List.flatMap_cons] at member
    rcases List.mem_append.mp member with member | member
    · obtain ⟨early, late⟩ := each serving member
      exact ⟨spans.trans opened early, spans.trans late beyond⟩
    · obtain ⟨early, late⟩ := others serving member
      exact ⟨spans.trans (spans.trans opened whole) early, late⟩

end Spanned

theorem accounted_spansRounds : SpansRounds Accounted where
  toSpans := accounted_spans
  dispatched world _ := .of_record rfl world
  requested world _ _ := .of_extends (Store.extends_refl _) (.of_record rfl world)
  replied world _ := .of_record rfl world

end Colloquy.Run
