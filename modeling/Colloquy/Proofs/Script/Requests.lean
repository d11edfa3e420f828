import Colloquy.Proofs.Conversation.Requests
import Colloquy.Proofs.Script.Frame

/-! The requests of a script. Those of a chat carry what was said in that chat so far: its messages, each rendered when
it was reached, and between them the turns of its earlier responses. Those of a generation carry its own messages and
its own turns. What one of them says never gets into a request of another. -/
namespace Colloquy

/-- Of the requests among some events a later one carries all that an earlier one did, and in each of them the answers
with calls are followed by their results. -/
def Orderly (events : List Event) : Prop :=
  (requestsIn events).Pairwise (fun earlier later => earlier.messages <+: later.messages) ∧
    ∀ request ∈ requestsIn events, Run.Settled request.messages

theorem orderly_silent {events : List Event} (silent : requestsIn events = []) : Orderly events := by
  rw [Orderly, silent]
  exact ⟨.nil, by simp⟩

namespace Run

/-! ## Rendering -/

section Rendering
variable {scope : Nat} {world : World}

theorem evaluate_ok {α : Type} (part : Bindings → Except EvalError α) {a : α}
    (rendered : part (world.store.valueOf scope) = .ok a) : evaluate scope part world = (.ok a, world) := by
  change (check ((part (world.store.valueOf scope)).mapError .evaluation)) world = _
  rw [rendered]
  rfl

theorem evaluate_error {α : Type} (part : Bindings → Except EvalError α) {error : EvalError}
    (failed : part (world.store.valueOf scope) = .error error) :
    evaluate scope part world = (.error (.evaluation error), world) := by
  change (check ((part (world.store.valueOf scope)).mapError .evaluation)) world = _
  rw [failed]
  rfl

/-- What templates render to under some bindings. -/
def Rendered (bindings : Bindings) (templates : List Template) (messages : List Message) : Prop :=
  List.Forall₂ (fun template message => template.render bindings = .ok message) templates messages

theorem renderTemplates_rendered {templates : List Template} {messages : List Message}
    (rendered : Rendered (world.store.valueOf scope) templates messages) :
    renderTemplates scope templates world = (.ok messages, world) := by
  induction rendered with
  | nil => rfl
  | cons first rest ih =>
    simp only [renderTemplates]
    rw [bind_ok (evaluate_ok _ first), bind_ok ih]
    rfl

theorem renderTemplates_unrendered {templates : List Template}
    (none : ∀ messages, ¬ Rendered (world.store.valueOf scope) templates messages) :
    ∃ error, renderTemplates scope templates world = (.error error, world) := by
  induction templates with
  | nil => exact absurd .nil (none [])
  | cons template rest ih =>
    simp only [renderTemplates]
    cases first : template.render (world.store.valueOf scope) with
    | error error =>
      have failed := evaluate_error (fun bindings => template.render bindings) first
      exact ⟨_, bind_error failed⟩
    | ok message =>
      obtain ⟨error, failed⟩ := ih fun messages rendered => none (message :: messages) (.cons first rendered)
      rw [bind_ok (evaluate_ok _ first), bind_error failed]
      exact ⟨error, rfl⟩

/-- A template renders to a plain message. -/
theorem render_plain {template : Template} {bindings : Bindings} {message : Message}
    (rendered : template.render bindings = .ok message) : ∃ content, message = .plain template.role content := by
  unfold Template.render at rendered
  cases text : renderAll bindings template.fragments with
  | error error =>
    rw [text] at rendered
    cases rendered
  | ok content =>
    rw [text] at rendered
    cases rendered
    exact ⟨content, rfl⟩

theorem Rendered.woven {bindings : Bindings} {templates : List Template} {messages : List Message}
    (rendered : Rendered bindings templates messages) : Woven messages := by
  induction rendered with
  | nil => exact .nil
  | cons first rest ih =>
    obtain ⟨content, rfl⟩ := render_plain first
    exact .plain _ content ih

end Rendering

/-! ## Generations -/

/-- What a generation sends among some events, when its messages are rendered under some bindings. If one of them cannot
be rendered, it sends nothing. Else each of its requests carries these messages, then the turns up to then, all of them
complete, and nothing but what was said among the events themselves. -/
structure Sends (terms : Terms) (templates : List Template) (bindings : Bindings) (replies : List Reply)
    (events : List Event) : Prop where
  unrendered : (∀ messages, ¬ Rendered bindings templates messages) → requestsIn events = []
  rendered : ∀ messages, Rendered bindings templates messages → CarriesSaid messages events ∧
    ∃ turns : List Turn, saidIn events = turns.flatMap Turn.messages ∧
      List.Forall₂ Turn.Takes turns (replies.take turns.length) ∧
      ∀ (k : Nat) request, (requestsIn events)[k]? = some request →
        request = terms.request (messages ++ (turns.take k).flatMap Turn.messages) ∧ ∀ turn ∈ turns.take k, turn.Goes
  orderly : Orderly events

/-- The requests that a conversation sends after some woven messages. -/
theorem InTurns.settled {terms : Terms} {world after : World} {replies : List Reply} {result : Except RunError Nat}
    {turns : List Turn} (inTurns : InTurns terms world replies result after turns) (woven : Woven world.messages) :
    ∀ request ∈ requestsIn (world.since after), Settled request.messages := by
  intro request member
  obtain ⟨k, found⟩ := List.mem_iff_getElem?.mp member
  obtain ⟨rfl, goes⟩ := inTurns.requests k request found
  exact (woven.append (.of_turns fun turn member => (goes turn member).2)).settled

theorem InTurns.said {terms : Terms} {world after : World} {replies : List Reply} {result : Except RunError Nat}
    {turns : List Turn} (inTurns : InTurns terms world replies result after turns) (tells : Tells world after) :
    saidIn (world.since after) = turns.flatMap Turn.messages := by
  have same := tells.messages.symm.trans inTurns.messages
  exact List.append_cancel_left same

section Generations
variable {context : Context Handler} {generation : Generation} {scope : Nat} {target : Item} {world : World}

/-- A generation whose messages are rendered is a conversation that starts with them, and perhaps a warning. -/
theorem generate_conversation {messages : List Message}
    (rendered : renderTemplates scope generation.messages world = (.ok messages, world)) :
    let held := converse (generation.terms context target) { world with messages }
    let after := (generate context generation scope target world).2
    after = held.2 ∨ ∃ warning, after = held.2.record (.warned warning) := by
  intro held after
  have ran : generate context generation scope target world = _ := generate_rendered rendered
  cases conversed : converse (generation.terms context target) { world with messages } with
  | mk result middle =>
    have here : held.2 = middle := congrArg Prod.snd conversed
    have ended : after = _ := congrArg Prod.snd ran
    rw [here]
    cases result with
    | error error =>
      rw [bind_error conversed] at ended
      exact .inl ended
    | ok n =>
      rw [bind_ok conversed, read_bind] at ended
      split at ended
      · exact .inr ⟨_, ended⟩
      · exact .inl ended

/-- What such a generation writes is what its conversation writes, and perhaps a warning. -/
theorem generate_since {messages : List Message}
    (rendered : renderTemplates scope generation.messages world = (.ok messages, world)) :
    ∃ warnings : List String, world.since (generate context generation scope target world).2 =
      world.since (converse (generation.terms context target) { world with messages }).2 ++ warnings.map .warned := by
  have grown : world.history <+: (converse (generation.terms context target) { world with messages }).2.history :=
    (converse_tells (generation.terms context target) { world with messages }).history
  rcases generate_conversation rendered with ended | ⟨warning, ended⟩
  · exact ⟨[], by rw [ended, List.map_nil, List.append_nil]⟩
  · refine ⟨[warning], ?_⟩
    rw [ended, World.since_trans grown ⟨_, rfl⟩, World.since_eq (World.record_history _ _)]
    rfl

theorem generate_sends (context : Context Handler) (generation : Generation) (scope : Nat) (target : Item)
    (world : World) :
    Sends (generation.terms context target) generation.messages (world.store.valueOf scope) world.replies
      (world.since (generate context generation scope target world).2) := by
  by_cases some : ∃ messages, Rendered (world.store.valueOf scope) generation.messages messages
  · obtain ⟨messages, rendered⟩ := some
    have ran := renderTemplates_rendered rendered
    obtain ⟨turns, inTurns⟩ := converse_inTurns (generation.terms context target) { world with messages }
    have tells := converse_tells (generation.terms context target) { world with messages }
    -- A warning at the end neither says nor sends anything.
    have ends : ∀ after, (after = (converse (generation.terms context target) { world with messages }).2 ∨
        ∃ warning, after = (converse (generation.terms context target) { world with messages }).2.record
          (.warned warning)) → Tells { world with messages } after ∧ ∃ result,
            InTurns (generation.terms context target) { world with messages } world.replies result after turns := by
      rintro after (rfl | ⟨warning, rfl⟩)
      · exact ⟨tells, _, inTurns⟩
      · have known : (Event.warned warning).isQuiet = true := rfl
        have quiet := Tells.of_record known (converse (generation.terms context target) { world with messages }).2
        refine ⟨tells.trans quiet, _, inTurns.messages, inTurns.takes, inTurns.complete, ?_⟩
        rw [World.since_trans tells.history quiet.history, World.since_eq (World.record_history _ _), requestsIn_append]
        simpa [requestsIn] using inTurns.requests
    obtain ⟨tells, result, inTurns⟩ := ends _ (generate_conversation ran)
    refine ⟨fun none => absurd rendered (none messages), fun others renderedToo => ?_, tells.carries.pairwise,
      inTurns.settled rendered.woven⟩
    have same := renderTemplates_rendered renderedToo
    rw [ran] at same
    cases same
    exact ⟨tells.carries, turns, inTurns.said tells, inTurns.takes, inTurns.requests⟩
  · have none : ∀ messages, ¬ Rendered (world.store.valueOf scope) generation.messages messages :=
      fun messages rendered => some ⟨messages, rendered⟩
    obtain ⟨error, failed⟩ := renderTemplates_unrendered none
    have silent : requestsIn (world.since (generate context generation scope target world).2) = [] := by
      rw [generate_unrendered failed, World.since_self]
      rfl
    exact ⟨fun _ => silent, fun messages rendered => absurd rendered (none messages), orderly_silent silent⟩

end Generations

/-! ## Chats -/

/-- What is known of an item of a chat that is reached after some messages. A message of the chat is rendered with the
bindings that are visible when it is reached, and said, unless it cannot be rendered. In a response each request carries
the messages so far and the turns up to then, all of them complete; what is said are the turns. No other item says or
sends anything. -/
def ItemSends (context : Context Handler) (prior : List Message) (visit : Visit Chat ChatItem) : Prop :=
  let events := visit.events (chatItem context)
  match visit.item with
  | .message template =>
    requestsIn events = [] ∧
      (∀ message, template.render (visit.before.store.valueOf visit.state.scope) = .ok message →
        saidIn events = [message]) ∧
      ((∀ message, template.render (visit.before.store.valueOf visit.state.scope) ≠ .ok message) → saidIn events = [])
  | .response => ∃ turns : List Turn, saidIn events = turns.flatMap Turn.messages ∧
      List.Forall₂ Turn.Takes turns (visit.before.replies.take turns.length) ∧
      ((∃ chat, visit.result (chatItem context) = .ok chat) → ∀ turn ∈ turns, turn.Complete) ∧
      ∀ (k : Nat) request, (requestsIn events)[k]? = some request →
        request = (visit.state.terms context).request (prior ++ (turns.take k).flatMap Turn.messages) ∧
          ∀ turn ∈ turns.take k, turn.Goes
  | .prompt _ | .tool _ | .unknown _ => requestsIn events = [] ∧ saidIn events = []

section Chats
variable (context : Context Handler)

theorem quiet_spansScript : SpansScript (World.Writes Event.isQuiet) where
  refl := .refl
  trans := .trans
  asked world _ := .of_record rfl world
  heard world answer rest := .of_history (World.heard_history world answer rest) (by simp [Event.isQuiet])
  warned world _ := .of_record rfl world

theorem tells_spansScript : SpansScript Tells where
  refl := Tells.refl
  trans := Tells.trans
  asked world _ := Tells.of_record rfl world
  heard world answer rest := Tells.of_quiet (World.heard_history world answer rest) rfl (by simp [Event.isQuiet])
  warned world _ := Tells.of_record rfl world

theorem chatItem_tells (chat : Chat) (item : ChatItem) : Respects Tells (chatItem context chat item) :=
  chatItem_spanned tells_spansScript item Tells.of_said
    (fun _ _ _ => Tells.of_quiet (List.append_nil _).symm rfl (by simp)) fun _ => converse_tells _

/-- Items other than messages and responses neither say nor send anything. -/
theorem quiet_sends {visit : Visit Chat ChatItem}
    (writes : World.Writes Event.isQuiet visit.before (visit.after (chatItem context))) :
    requestsIn (visit.events (chatItem context)) = [] ∧ saidIn (visit.events (chatItem context)) = [] :=
  ⟨requestsIn_quiet writes.since, saidIn_quiet writes.since⟩

theorem message_sends (template : Template) (chat : Chat) (world : World) :
    ItemSends context world.messages ⟨.message template, chat, world⟩ := by
  cases rendered : template.render (world.store.valueOf chat.scope) with
  | ok message =>
    have ran : chatItem context chat (.message template) world = (.ok chat, world.said message) := by
      simp only [chatItem]
      rw [bind_ok (evaluate_ok _ rendered)]
      rfl
    have events : (Visit.mk (.message template) chat world).events (chatItem context) = [.said message] := by
      rw [Visit.events, Visit.after, ran]
      exact World.since_eq (World.said_history world message)
    refine ⟨by rw [events]; rfl, fun other same => ?_, fun none => absurd rendered (none message)⟩
    rw [rendered] at same
    cases same
    rw [events]
    rfl
  | error error =>
    have failed := evaluate_error (fun bindings => template.render bindings) rendered
    have ran : chatItem context chat (.message template) world = (.error (.evaluation error), world) := by
      simp only [chatItem]
      rw [bind_error failed]
    have events : (Visit.mk (.message template) chat world).events (chatItem context) = [] := by
      rw [Visit.events, Visit.after, ran]
      exact World.since_self world
    refine ⟨by rw [events]; rfl, fun message same => ?_, fun _ => by rw [events]; rfl⟩
    rw [rendered] at same
    cases same

theorem response_sends (chat : Chat) (world : World) : ItemSends context world.messages ⟨.response, chat, world⟩ := by
  obtain ⟨turns, inTurns⟩ := converse_inTurns (chat.terms context) world
  have ran : chatItem context chat .response world =
      ((converse (chat.terms context) world).1.map (fun _ => chat), (converse (chat.terms context) world).2) :=
    bind_map _ _ _
  have events : (Visit.mk .response chat world).events (chatItem context) =
      world.since (converse (chat.terms context) world).2 := by
    rw [Visit.events, Visit.after, ran]
  refine ⟨turns, ?_, inTurns.takes, ?_, ?_⟩
  · rw [events]
    exact inTurns.said (converse_tells _ world)
  · rintro ⟨next, ended⟩
    rw [Visit.result, ran] at ended
    cases conversed : (converse (chat.terms context) world).1 with
    | ok n => exact inTurns.complete n conversed
    | error error =>
      rw [conversed] at ended
      cases ended
  · rw [events]
    exact inTurns.requests

theorem item_sends (visit : Visit Chat ChatItem) : ItemSends context visit.before.messages visit := by
  obtain ⟨item, chat, world⟩ := visit
  cases item with
  | message template => exact message_sends context template chat world
  | prompt question =>
    have asked : Respects (World.Writes Event.isQuiet) (prompt chat.scope question) :=
      prompt_spanned quiet_spansScript fun _ _ => .of_history (List.append_nil _).symm (by simp)
    have whole : Respects (World.Writes Event.isQuiet) (chatItem context chat (.prompt question)) :=
      respects_bind World.Writes.trans asked fun _ => respects_pure World.Writes.refl chat
    exact quiet_sends context (whole world)
  | tool tool => exact quiet_sends context (declare_spanned quiet_spansScript context chat tool world)
  | response => exact response_sends context chat world
  | unknown tag => exact quiet_sends context (World.Writes.refl world)

/-- What an item says that comes to its end is woven. -/
theorem item_woven {prior : List Message} {visit : Visit Chat ChatItem} (sends : ItemSends context prior visit)
    (ended : ∃ chat, visit.result (chatItem context) = .ok chat) : Woven (saidIn (visit.events (chatItem context))) := by
  obtain ⟨item, chat, world⟩ := visit
  cases item with
  | message template =>
    obtain ⟨_, rendered, unrendered⟩ := sends
    by_cases some : ∃ message, template.render (world.store.valueOf chat.scope) = .ok message
    · obtain ⟨message, same⟩ := some
      obtain ⟨content, rfl⟩ := render_plain same
      rw [rendered _ same]
      exact .plain _ content .nil
    · rw [unrendered fun message same => some ⟨message, same⟩]
      exact .nil
  | response =>
    obtain ⟨turns, said, _, complete, _⟩ := sends
    rw [said]
    exact .of_turns (complete ended)
  | prompt question | tool tool | unknown tag =>
    rw [sends.2]
    exact .nil

/-- The requests of an item that is reached after woven messages. -/
theorem item_settled {prior : List Message} {visit : Visit Chat ChatItem} (sends : ItemSends context prior visit)
    (woven : Woven prior) : ∀ request ∈ requestsIn (visit.events (chatItem context)), Settled request.messages := by
  obtain ⟨item, chat, world⟩ := visit
  cases item with
  | response =>
    obtain ⟨turns, _, _, _, requests⟩ := sends
    intro request member
    obtain ⟨k, found⟩ := List.mem_iff_getElem?.mp member
    obtain ⟨rfl, goes⟩ := requests k request found
    exact (woven.append (.of_turns fun turn member => (goes turn member).2)).settled
  | message template | prompt question | tool tool | unknown tag =>
    have silent := sends.1
    rw [silent]
    simp

/-- What a chat sends among some events, which are those of its items as far as they are reached. All items find the chat
in one scope; each sends what it does after all that the items before it said, which came to their end. Every request
carries what was said in the chat before it. -/
structure ChatSends (scope : Nat) (items : List ChatItem) (log : List (Visit Chat ChatItem)) (events : List Event) :
    Prop where
  order : log.map Visit.item <+: items
  earlier : ∀ visit ∈ log.dropLast, ∃ chat, visit.result (chatItem context) = .ok chat
  ofItems : events = log.flatMap (Visit.events (chatItem context))
  inScope : ∀ visit ∈ log, visit.state.scope = scope
  each : ∀ early visit late, log = early ++ visit :: late →
    ItemSends context (early.flatMap fun item => saidIn (item.events (chatItem context))) visit
  carries : CarriesSaid [] events
  orderly : Orderly events

theorem chat_sends (scope : Nat) (items : List ChatItem) (world : World) :
    ChatSends context world.store.scopes.length items (chatLog context scope items world)
      (world.since (chat context scope items world).2) := by
  obtain ⟨result, _, course⟩ := chat_through context scope items world
  generalize chatLog context scope items world = log at course
  have each : ∀ visit ∈ log, Tells visit.before (visit.after (chatItem context)) :=
    fun visit _ => chatItem_tells context visit.state visit.item visit.before
  have tells : Tells (world.chatting scope) (chat context scope items world).2 :=
    (through_spanned Tells.refl Tells.trans course each).1
  -- What the items before one that is reached have said is what there is when it is reached.
  have reached : ∀ early visit late, log = early ++ visit :: late →
      visit.before.messages = early.flatMap fun item => saidIn (item.events (chatItem context)) := by
    intro early visit late split
    have before := through_upTo course split
    have eachBefore : ∀ item ∈ early, Tells item.before (item.after (chatItem context)) :=
      fun item member => each item (by rw [split]; exact List.mem_append_left _ member)
    have told := (through_spanned Tells.refl Tells.trans before eachBefore).1
    rw [told.messages, World.since_eq (through_grown before fun item member => (eachBefore item member).history),
      saidIn_flatMap]
    rfl
  have sends : ∀ early visit late, log = early ++ visit :: late →
      ItemSends context (early.flatMap fun item => saidIn (item.events (chatItem context))) visit := by
    intro early visit late split
    rw [← reached early visit late split]
    exact item_sends context visit
  have grown := through_grown course fun visit member => (each visit member).history
  have events : world.since (chat context scope items world).2 = log.flatMap (Visit.events (chatItem context)) :=
    World.since_eq grown
  have inOrder := through_inOrder course
  refine ⟨inOrder.order, inOrder.earlier, events, ?_, sends, tells.carries, tells.carries.pairwise, ?_⟩
  · have routed : Chat.Routed context ⟨world.store.scopes.length, [], []⟩ := fun entry member => by cases member
    have bounds := through_states (fun chat => chat.scope = world.store.scopes.length ∧ chat.Routed context)
      course ⟨rfl, routed⟩ fun visit _ good next ended => by
        obtain ⟨same, keeps⟩ := chatItem_keeps good.2 ended
        exact ⟨same.trans good.1, keeps⟩
    exact fun visit member => (bounds visit member).1
  · intro request member
    rw [events, requestsIn_flatMap] at member
    obtain ⟨visit, inside, member⟩ := List.mem_flatMap.mp member
    obtain ⟨early, late, split⟩ := List.append_of_mem inside
    refine item_settled context (sends early visit late split) (.flatMap fun item earlier => ?_) request member
    -- The items before it came to their end, and so what they said is woven.
    obtain ⟨first, second, splitToo⟩ := List.append_of_mem earlier
    have whole : log = first ++ item :: (second ++ visit :: late) := by
      rw [split, splitToo, List.append_assoc, List.cons_append]
    have ended := ((through_inOrder (through_upTo course split)).ended _ rfl).2 item earlier
    exact item_woven context (sends first item _ whole) ended

end Chats

/-! ## Scripts -/

section Scripts
variable (context : Context Handler)

/-- What a statement that is reached sends. A chat sends what its items do, a generation what its conversation does, and
one for several records what each of their generations does, as long as they are records. No other statement sends
anything. -/
def StatementSends (scope : Nat) (visit : Visit Unit Statement) : Prop :=
  let world := visit.before
  let events := visit.events fun _ => statement context scope
  match visit.item with
  | .chat items => ChatSends context world.store.scopes.length items (chatLog context scope items world) events
  | .generate generation =>
    Sends (generation.terms context (.scope scope)) generation.messages
      ((world.opened scope).store.valueOf world.store.scopes.length) world.replies events
  | .each source generation =>
    (∀ error, world.store.requireRecords scope source = .error error → events = []) ∧
      ∀ ids, world.store.requireRecords scope source = .ok ids →
        let log := eachLog context generation scope ids world
        log.map Visit.item <+: ids ∧
          events = log.flatMap (Visit.events fun _ => iteration context generation scope) ∧
          ∀ visit ∈ log, Sends (generation.terms context (.record visit.item)) generation.messages
            ((visit.before.entering scope visit.item).store.valueOf visit.before.store.scopes.length)
            visit.before.replies (visit.events fun _ => iteration context generation scope)
  | .prompt _ | .unknown _ => requestsIn events = []

theorem each_ran (source : String) (generation : Generation) (scope : Nat) (world : World) :
    statement context scope (.each source generation) world =
      match world.store.requireRecords scope source with
      | .error error => (.error (.binding error), world)
      | .ok ids => generateEach context generation scope ids world := by
  have body : statement context scope (.each source generation) world =
      (check ((world.store.requireRecords scope source).mapError .binding) >>=
        generateEach context generation scope) world := rfl
  rw [body]
  cases world.store.requireRecords scope source with
  | error error => exact bind_error rfl
  | ok ids => exact bind_ok rfl

theorem iteration_sends (generation : Generation) (scope id : Nat) (world : World) :
    Sends (generation.terms context (.record id)) generation.messages
      ((world.entering scope id).store.valueOf world.store.scopes.length) world.replies
      (world.since (iteration context generation scope id world).2) := by
  rw [iteration_generate]
  exact generate_sends context generation world.store.scopes.length (.record id) (world.entering scope id)

theorem statement_sends (scope : Nat) (visit : Visit Unit Statement) : StatementSends context scope visit := by
  obtain ⟨item, state, world⟩ := visit
  cases item with
  | prompt question =>
    have writes : Respects (World.Writes Event.isQuiet) (prompt scope question) :=
      prompt_spanned quiet_spansScript fun _ _ => .of_history (List.append_nil _).symm (by simp)
    exact requestsIn_quiet (writes world).since
  | chat items => exact chat_sends context scope items world
  | generate generation =>
    exact generate_sends context generation world.store.scopes.length (.scope scope) (world.opened scope)
  | each source generation =>
    have ran := each_ran context source generation scope world
    refine ⟨fun error refused => ?_, fun ids found => ⟨?_, ?_, fun visit _ => ?_⟩⟩
    · rw [refused] at ran
      simp only [Visit.events, Visit.after, ran]
      exact World.since_self world
    · exact (through_inOrder (generateEach_course context generation scope ids world)).order
    · rw [found] at ran
      have course := generateEach_course context generation scope ids world
      simp only [Visit.events, Visit.after, ran]
      exact World.since_eq (through_grown course fun visit _ =>
        (iteration_advances context generation scope visit.item visit.before).history)
    · exact iteration_sends context generation scope visit.item visit.before
  | unknown tag =>
    have none : World.since world world = [] := World.since_self world
    exact (congrArg requestsIn none).trans rfl

/-- The requests of a script, however it ends. They are those of the statements that are reached, in order. A request
that is sent for a chat carries what was said in that chat before it and nothing else: the messages reached so far, each
rendered with the bindings visible when it was reached, and the turns of the responses before it and of its own, all of
them complete. One that is sent for a generation carries the rendered messages of the generation and its own turns. Of
two requests of one chat or generation the later one carries all that the earlier one did, and in each of them every
answer with calls is directly followed by one result for each call. -/
theorem script_requests (script : Script) (host : Option Nat) (world : World) :
    let log := scriptLog context script host world
    let part := fun _ : Unit => statement context (world.bodyScope host)
    log.map Visit.item <+: script.body ∧
      requestsIn (world.since (Run.script context script host world).2) =
        (log.flatMap fun visit => requestsIn (visit.events part)) ∧
      ∀ visit ∈ log, StatementSends context (world.bodyScope host) visit := by
  intro log part
  obtain ⟨result, _, course⟩ := script_through context script host world
  refine ⟨(through_inOrder course).order, ?_, fun visit _ => statement_sends context _ visit⟩
  have begun : (world.beginning host).history = world.history := by cases host <;> rfl
  have grown := through_grown course fun visit _ =>
    (statement_advances context (world.bodyScope host) visit.item visit.before).history
  rw [begun] at grown
  rw [World.since_eq grown, requestsIn_flatMap]

end Scripts

end Run
end Colloquy
