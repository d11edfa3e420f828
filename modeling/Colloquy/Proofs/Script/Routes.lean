import Colloquy.Proofs.Script.Requests

/-! Which handler serves which tool. A tool that is declared in a chat may name a handler of the host, which then serves
it in the responses after the declaration. The name is looked up among the handlers of the host and nowhere else, and it
counts in that chat only: another chat starts without any, and so does a generation, which serves its own tool. -/
namespace Colloquy

/-- The tools that an item of a chat declares. -/
def ChatItem.declares : ChatItem → List Tool
  | .tool declared => [declared]
  | _ => []

/-- The handler of the host that a declaration names, for the tool that it declares. -/
def Tool.route? (hosts : Fields Handler) (name : String) (tool : Tool) : Option Handler :=
  if tool.name = name then tool.action.bind hosts.get? else none

/-- What serves a tool once some tools are declared: of the declarations of this tool that name a handler of the host, the
last one tells it, and if there is none, it is the handler of the host that has the tool's own name. -/
inductive Serves (hosts : Fields Handler) (declared : List Tool) (name : String) : Handler → Prop
  | routed {early late : List Tool} {tool : Tool} {handler : Handler} (split : declared = early ++ tool :: late)
      (routes : tool.route? hosts name = some handler) (last : ∀ other ∈ late, other.route? hosts name = none) :
      Serves hosts declared name handler
  | direct {handler : Handler} (unrouted : ∀ tool ∈ declared, tool.route? hosts name = none)
      (found : hosts.get? name = some handler) : Serves hosts declared name handler

/-- What serves a tool in the conversation of a generation: its own tool it serves itself. -/
inductive Generation.Serves (generation : Generation) (hosts : Fields Handler) (target : Item) : String → Handler → Prop
  | own : Serves generation hosts target generation.tool.name (generation.handler target)
  | direct {name : String} {handler : Handler} (apart : name ≠ generation.tool.name)
      (found : hosts.get? name = some handler) : Serves generation hosts target name handler

namespace Run

/-- How some calls are served, when it is known what serves which tool. Each is served by the handler of its tool. One
whose tool nothing serves is told so, is the last one, and ends what they are a part of. -/
structure ServedBy {α : Type} (serves : String → Handler → Prop) (context : Context Handler) (log : List Serving)
    (result : Except RunError α) : Prop where
  served : ∀ serving ∈ log, ∀ handler, serves serving.call.name handler →
    dispatch context serving.call serving.before =
      (handler.respond serving.call.given >>= carryOut serving.call) serving.taken
  unserved : ∀ serving ∈ log, (∀ handler, ¬ serves serving.call.name handler) →
    dispatch context serving.call serving.before = (.error (.unknownTool serving.call.name),
      serving.taken.said (.ofResult serving.call (.text (unknownToolText serving.call.name)))) ∧
    log.getLast? = some serving ∧ result = .error (.unknownTool serving.call.name)

section Routes
variable {context : Context Handler} {hosts : Fields Handler} {declared : List Tool} {name : String} {handler : Handler}

/-! ## What a chat gathers -/

/-- After some items a chat offers the tools that they declare, and routes each as the last declaration of it does that
names a handler of the host. -/
structure Gathers (hosts : Fields Handler) (declared : List Tool) (chat : Chat) : Prop where
  tools : chat.tools = declared
  distinct : chat.routes.names.Nodup
  routes : ∀ name, chat.routes.get? name = declared.reverse.findSome? (Tool.route? hosts name)

theorem gathers_item {chat : Chat} (gathers : Gathers hosts declared chat) (item : ChatItem) :
    Gathers hosts (declared ++ item.declares) (chat.gather hosts item) := by
  obtain ⟨tools, distinct, routes⟩ := gathers
  cases item with
  | tool tool =>
    have onward (name : String) : (declared ++ [tool]).reverse.findSome? (Tool.route? hosts name) =
        (tool.route? hosts name).or (chat.routes.get? name) := by
      rw [routes, List.reverse_append, List.findSome?_append, List.reverse_singleton, List.findSome?_singleton]
    simp only [Chat.gather, ChatItem.declares]
    cases found : tool.action.bind hosts.get? with
    | none =>
      refine ⟨by rw [tools], distinct, fun name => ?_⟩
      rw [onward, Tool.route?, found, ite_self]
      rfl
    | some handler =>
      refine ⟨by rw [tools], Fields.names_put_nodup distinct, fun name => ?_⟩
      rw [onward, Tool.route?, found, Fields.get?_put]
      by_cases same : tool.name = name
      · rw [if_pos same, if_pos same, Option.some_or]
      · rw [if_neg same, if_neg same, Option.none_or]
  | _ =>
    change Gathers hosts (declared ++ []) chat
    rw [List.append_nil]
    exact ⟨tools, distinct, routes⟩

/-- A chat starts with nothing, and gathers item by item. -/
theorem gathers_items (hosts : Fields Handler) (scope : Nat) (items : List ChatItem) :
    Gathers hosts (items.flatMap ChatItem.declares) (items.foldl (Chat.gather hosts) ⟨scope, [], []⟩) := by
  induction items using List.reverseRecOn with
  | nil => exact ⟨rfl, List.nodup_nil, fun _ => rfl⟩
  | append_singleton items last ih =>
    rw [List.foldl_append, List.flatMap_append, List.flatMap_singleton]
    exact gathers_item ih last

/-! ## What serves a tool -/

theorem serves_iff : (declared.reverse.findSome? (Tool.route? hosts name)).or (hosts.get? name) = some handler ↔
    Serves hosts declared name handler := by
  constructor
  · intro found
    cases routed : declared.reverse.findSome? (Tool.route? hosts name) with
    | none =>
      rw [routed, Option.none_or] at found
      exact .direct (fun tool member => List.findSome?_eq_none_iff.mp routed tool (List.mem_reverse.mpr member)) found
    | some other =>
      rw [routed, Option.some_or] at found
      cases found
      obtain ⟨late, tool, early, split, routes, last⟩ := List.findSome?_eq_some_iff.mp routed
      have written : declared = early.reverse ++ tool :: late.reverse := by
        rw [← List.reverse_reverse declared, split]
        simp
      exact .routed written routes fun other member => last other (List.mem_reverse.mp member)
  · intro serves
    cases serves with
    | @routed early late tool _ split routes last =>
      have routed : declared.reverse.findSome? (Tool.route? hosts name) = some handler := by
        refine List.findSome?_eq_some_iff.mpr ⟨late.reverse, tool, early.reverse, by simp [split], routes, ?_⟩
        exact fun other member => last other (List.mem_reverse.mp member)
      rw [routed, Option.some_or]
    | direct unrouted found =>
      have none : declared.reverse.findSome? (Tool.route? hosts name) = none :=
        List.findSome?_eq_none_iff.mpr fun tool member => unrouted tool (List.mem_reverse.mp member)
      rw [none, Option.none_or, found]

/-- In a response of a chat the handlers are those that serve the tools declared before it. -/
theorem Gathers.handlers {chat : Chat} (gathers : Gathers context.handlers declared chat) (name : String)
    (handler : Handler) : (chat.terms context).context.handlers.get? name = some handler ↔
      Serves context.handlers declared name handler := by
  rw [← serves_iff, ← gathers.routes, ← Fields.last?_of_distinct gathers.distinct, ← Fields.get?_merge]
  rfl

/-- Two tools that name each other's handlers are served crosswise: no route leads on through another. -/
example (model : String) (first second : Handler) :
    let context : Context Handler := ⟨model, [], [("first", first), ("second", second)]⟩
    let items := [ChatItem.tool ⟨"first", none, .anyObject, some "second"⟩,
      .tool ⟨"second", none, .anyObject, some "first"⟩]
    let terms := (items.foldl (Chat.gather context.handlers) ⟨0, [], []⟩).terms context
    terms.context.handlers.get? "first" = some second ∧ terms.context.handlers.get? "second" = some first := by
  constructor <;> rfl

theorem generation_handlers (generation : Generation) (target : Item) (name : String) (handler : Handler) :
    (generation.terms context target).context.handlers.get? name = some handler ↔
      generation.Serves context.handlers target name handler := by
  by_cases own : name = generation.tool.name
  · subst own
    rw [own_handler]
    constructor
    · rintro ⟨⟩
      exact .own
    · intro serves
      cases serves with
      | own => rfl
      | direct apart found => exact absurd rfl apart
  · rw [other_handler own]
    constructor
    · exact .direct own
    · intro serves
      cases serves with
      | own => exact absurd rfl own
      | direct apart found => exact found

/-! ## Conversations -/

theorem ServedBy.escalates {α β : Type} {serves : String → Handler → Prop} {log : List Serving}
    {result : Except RunError α} {whole : Except RunError β} (servedBy : ServedBy serves context log result)
    (escalates : ∀ error, result = .error error → whole = .error error) : ServedBy serves context log whole := by
  refine ⟨servedBy.served, fun serving member unserved => ?_⟩
  obtain ⟨told, last, ended⟩ := servedBy.unserved serving member unserved
  exact ⟨told, last, escalates _ ended⟩

theorem converse_servedBy {serves : String → Handler → Prop} {terms : Terms}
    (handlers : ∀ name handler, terms.context.handlers.get? name = some handler ↔ serves name handler) (world : World) :
    ServedBy serves terms.context (servingsFrom terms world) (converse terms world).1 := by
  have failsLast := course_failsLast (converse_course terms world)
  refine ⟨fun serving _ handler served => dispatch_found ((handlers _ _).mpr served), fun serving member unserved => ?_⟩
  have missing : terms.context.handlers.get? serving.call.name = none :=
    Option.eq_none_iff_forall_ne_some.mpr fun handler found => unserved handler ((handlers _ _).mp found)
  have told := dispatch_unknown missing
  exact ⟨told, failsLast.ends member (by rw [Serving.result, told])⟩

end Routes

section Parts
variable (context : Context Handler)

/-! ## Generations -/

theorem ServedBy.nil {α : Type} {serves : String → Handler → Prop} {result : Except RunError α} :
    ServedBy serves context [] result := ⟨nofun, nofun⟩

/-- The calls of a generation: they are those of its conversation, and there each is served as it is known to be. -/
structure GenerationServed {α : Type} (generation : Generation) (scope : Nat) (target : Item) (world : World)
    (events : List Event) (result : Except RunError α) : Prop where
  calls : callsIn events = (generation.log context scope target world).map Serving.call
  served : ServedBy (generation.Serves context.handlers target) (generation.terms context target).context
    (generation.log context scope target world) result

theorem generate_served (generation : Generation) (scope : Nat) (target : Item) (world : World) :
    GenerationServed context generation scope target world
      (world.since (generate context generation scope target world).2)
      (generate context generation scope target world).1 := by
  have same := renderTemplates_same scope generation.messages world
  cases rendered : renderTemplates scope generation.messages world with
  | mk outcome after =>
    rw [rendered] at same
    dsimp only at same
    subst same
    cases outcome with
    | error error =>
      have none : generation.log context scope target after = [] := by rw [Generation.log, rendered]
      refine ⟨?_, ?_⟩
      · rw [generate_unrendered rendered, World.since_self, none]
        rfl
      · rw [none]
        exact .nil _
    | ok messages =>
      have log : generation.log context scope target after =
          servingsFrom (generation.terms context target) { after with messages } := by rw [Generation.log, rendered]
      refine ⟨?_, ?_⟩
      · obtain ⟨warnings, written⟩ := generate_since rendered
        have quiet : callsIn (warnings.map .warned) = [] := callsIn_none (by simp [Event.isDispatch])
        rw [written, callsIn_append, quiet, List.append_nil, log]
        exact converse_callsIn (generation.terms context target) { after with messages }
      · rw [log, generate_rendered rendered]
        refine (converse_servedBy (generation_handlers generation target) _).escalates fun error failed => ?_
        rw [bind_error (Prod.ext failed rfl)]

/-! ## Chats -/

theorem callless_spansScript : SpansScript (World.Writes fun event => !event.isDispatch) where
  refl := .refl
  trans := .trans
  asked world _ := .of_record rfl world
  heard world answer rest := .of_history (World.heard_history world answer rest) (by simp [Event.isDispatch])
  warned world _ := .of_record rfl world

/-- An item other than a response takes up no call. -/
theorem item_callless (visit : Visit Chat ChatItem) (other : visit.item ≠ .response) :
    callsIn (visit.events (chatItem context)) = [] := by
  have callless : Respects (World.Writes fun event => !event.isDispatch) (chatItem context visit.state visit.item) :=
    chatItem_spanned callless_spansScript visit.item
      (fun world message => .of_history (World.said_history world message) (by simp [Event.isDispatch]))
      (fun _ _ _ => .of_history (List.append_nil _).symm (by simp)) fun same => absurd same other
  exact callsIn_none (callless visit.before).since

/-- The calls of a chat. Those of a response are served by what serves their tools after the declarations before it, and
these are the tools that are offered; no other item takes up any. -/
def ChatServed {α : Type} (log : List (Visit Chat ChatItem)) (result : Except RunError α) : Prop :=
  ∀ early visit late, log = early ++ visit :: late →
    let declared := early.flatMap fun item => item.item.declares
    let terms := visit.state.terms context
    let events := visit.events (chatItem context)
    match visit.item with
    | .response => terms.tools = declared ∧ callsIn events = (servingsFrom terms visit.before).map Serving.call ∧
        ServedBy (Serves context.handlers declared) terms.context (servingsFrom terms visit.before) result
    | _ => callsIn events = []

theorem chat_served (scope : Nat) (items : List ChatItem) (world : World) :
    ChatServed context (chatLog context scope items world) (chat context scope items world).1 := by
  intro early visit late split
  obtain ⟨result, ended, course⟩ := chat_through context scope items world
  -- What the chat has gathered when the item is reached comes from the items before it, and from them alone.
  have gathered : visit.state = _ :=
    through_gathers (Chat.gather context.handlers) (fun _ _ _ _ => chatItem_gathers) (through_upTo course split) _ rfl
  have gathers := gathers_items context.handlers world.store.scopes.length (early.map Visit.item)
  rw [← gathered, List.flatMap_map] at gathers
  obtain ⟨item, chat, before⟩ := visit
  cases item with
  | response =>
    have ran : chatItem context chat .response before =
        ((converse (chat.terms context) before).1.map (fun _ => chat), (converse (chat.terms context) before).2) :=
      bind_map _ _ _
    refine ⟨gathers.tools, ?_, (converse_servedBy gathers.handlers before).escalates fun error failed => ?_⟩
    · rw [Visit.events, Visit.after, ran]
      exact converse_callsIn _ _
    · have here : (Visit.mk .response chat before).result (chatItem context) = .error error := by
        rw [Visit.result, ran, failed]
        rfl
      rw [ended, (through_inOrder course).ends (by rw [split]; simp) here]
      rfl
  | _ => exact item_callless context _ (by simp)

/-! ## Scripts -/

/-- The calls of a statement that is reached. Those of a chat are served by what is declared in that chat, those of a
generation by the generation itself and by the host. -/
def StatementServed {α : Type} (scope : Nat) (visit : Visit Unit Statement) (result : Except RunError α) : Prop :=
  let world := visit.before
  let events := visit.events fun _ => statement context scope
  match visit.item with
  | .chat items =>
    let log := chatLog context scope items world
    callsIn events = log.flatMap (fun visit => callsIn (visit.events (chatItem context))) ∧ ChatServed context log result
  | .generate generation =>
    GenerationServed context generation world.store.scopes.length (.scope scope) (world.opened scope) events result
  | .each source generation =>
    (∀ error, world.store.requireRecords scope source = .error error → callsIn events = []) ∧
      ∀ ids, world.store.requireRecords scope source = .ok ids →
        let log := eachLog context generation scope ids world
        let part := fun _ : Unit => iteration context generation scope
        callsIn events = log.flatMap (fun visit => callsIn (visit.events part)) ∧
          ∀ visit ∈ log, GenerationServed context generation visit.before.store.scopes.length (.record visit.item)
            (visit.before.entering scope visit.item) (visit.events part) result
  | .prompt _ | .unknown _ => callsIn events = []

theorem prompt_callless (scope : Nat) (question : Prompt) :
    Respects (World.Writes fun event => !event.isDispatch) (prompt scope question) :=
  prompt_spanned callless_spansScript fun _ _ => .of_history (List.append_nil _).symm (by simp)

theorem statement_served (scope : Nat) (visit : Visit Unit Statement) :
    StatementServed context scope visit (visit.result fun _ => statement context scope) := by
  obtain ⟨item, state, world⟩ := visit
  cases item with
  | prompt question => exact callsIn_none (prompt_callless scope question world).since
  | chat items =>
    refine ⟨?_, chat_served context scope items world⟩
    obtain ⟨result, _, course⟩ := chat_through context scope items world
    have grown := through_grown course fun visit _ =>
      (chatItem_advances context scope visit.state visit.item visit.before).history
    have events : world.since (chat context scope items world).2 = _ := World.since_eq grown
    exact (congrArg callsIn events).trans (callsIn_flatMap _ _)
  | generate generation =>
    exact generate_served context generation world.store.scopes.length (.scope scope) (world.opened scope)
  | each source generation =>
    have ran := each_ran context source generation scope world
    refine ⟨fun error refused => ?_, fun ids found => ?_⟩
    · rw [refused] at ran
      simp only [Visit.events, Visit.after, ran]
      rw [World.since_self]
      rfl
    · rw [found] at ran
      have course := generateEach_course context generation scope ids world
      have grown := through_grown course fun visit _ =>
        (iteration_advances context generation scope visit.item visit.before).history
      simp only [Visit.events, Visit.after, Visit.result, ran]
      refine ⟨?_, fun visit member => ?_⟩
      · rw [World.since_eq grown]
        exact callsIn_flatMap _ _
      · have served := generate_served context generation visit.before.store.scopes.length (.record visit.item)
          (visit.before.entering scope visit.item)
        refine ⟨served.calls, served.served.escalates fun error failed => ?_⟩
        exact (through_inOrder course).ends member failed
  | unknown tag =>
    have none : World.since world world = [] := World.since_self world
    exact (congrArg callsIn none).trans rfl

theorem StatementServed.escalates {α β : Type} {scope : Nat} {visit : Visit Unit Statement} {result : Except RunError α}
    {whole : Except RunError β} (served : StatementServed context scope visit result)
    (escalates : ∀ error, result = .error error → whole = .error error) :
    StatementServed context scope visit whole := by
  obtain ⟨item, state, world⟩ := visit
  cases item with
  | prompt question | unknown tag => exact served
  | chat items =>
    refine ⟨served.1, fun early visit late split => ?_⟩
    have each := served.2 early visit late split
    obtain ⟨item, chat, before⟩ := visit
    cases item with
    | response => exact ⟨each.1, each.2.1, each.2.2.escalates escalates⟩
    | _ => exact each
  | generate generation => exact ⟨served.calls, served.served.escalates escalates⟩
  | each source generation =>
    refine ⟨served.1, fun ids found => ?_⟩
    obtain ⟨calls, each⟩ := served.2 ids found
    exact ⟨calls, fun visit member => ⟨(each visit member).calls, (each visit member).served.escalates escalates⟩⟩

/-- What serves the calls of a script. In a response of a chat it is for each tool the handler of the host that is named
by the last declaration of the tool before it, in the same chat, which names one; else the handler of the host with the
name of the tool; and with neither the run ends for want of a handler. In a generation it is the generation itself for its
own tool and else the host, whatever is declared in chats. All other parts of a script take up no calls. -/
theorem script_routes (script : Script) (host : Option Nat) (world : World) :
    let log := scriptLog context script host world
    let part := fun _ : Unit => statement context (world.bodyScope host)
    log.map Visit.item <+: script.body ∧
      callsIn (world.since (Run.script context script host world).2) =
        (log.flatMap fun visit => callsIn (visit.events part)) ∧
      ∀ visit ∈ log, StatementServed context (world.bodyScope host) visit (Run.script context script host world).1 := by
  intro log part
  obtain ⟨result, ended, course⟩ := script_through context script host world
  have inOrder := through_inOrder course
  refine ⟨inOrder.order, ?_, fun visit member => ?_⟩
  · have begun : (world.beginning host).history = world.history := by cases host <;> rfl
    have grown := through_grown course fun visit _ =>
      (statement_advances context (world.bodyScope host) visit.item visit.before).history
    rw [begun] at grown
    rw [World.since_eq grown, callsIn_flatMap]
  · refine (statement_served context _ visit).escalates context fun error failed => ?_
    rw [ended, inOrder.ends member failed]
    rfl

end Parts

/-! A chat with one tool, which the handler for notes serves. The model calls it, and then a tool that nothing serves. -/

/-- A tool that the handler for notes serves under a name of its own. -/
def memoTool : Tool := ⟨"memo", none, .anyObject, some "note"⟩

/-- A script that lets the model call the tool. -/
def memoScript : Script := ⟨"script", [.chat [.tool memoTool, .response]]⟩

/-- A model that calls the tool and then one that nobody declared. -/
def memoWorld : World := .start .empty [calling [⟨"c1", "memo", ""⟩, ⟨"c2", "stray", ""⟩]] []

theorem script_routes_memo :
    ⟨.chat [.tool memoTool, .response], (), memoWorld.beginning none⟩ ∈ scriptLog noteContext memoScript none memoWorld ∧
    Serves noteContext.handlers [memoTool] "memo" noteHandler ∧
    (∀ handler, ¬ Serves noteContext.handlers [memoTool] "stray" handler) ∧
    (Run.script noteContext memoScript none memoWorld).1 = .error (.unknownTool "stray") := by
  have memo : Serves noteContext.handlers [memoTool] "memo" noteHandler := serves_iff.mp rfl
  have stray : ∀ handler, ¬ Serves noteContext.handlers [memoTool] "stray" handler := by
    intro handler serves
    have found : none = some handler := serves_iff.mpr serves
    cases found
  refine ⟨List.mem_cons_self, memo, stray, ?_⟩
  obtain ⟨-, -, each⟩ := script_routes noteContext memoScript none memoWorld
  let world := (memoWorld.beginning none).chatting 1
  let response : Visit Chat ChatItem := ⟨.response, ⟨2, [memoTool], [("memo", noteHandler)]⟩, world⟩
  obtain ⟨-, chat⟩ := each ⟨.chat [.tool memoTool, .response], (), memoWorld.beginning none⟩ List.mem_cons_self
  obtain ⟨-, -, servedBy⟩ := chat [⟨.tool memoTool, ⟨2, [], []⟩, world⟩] response _ rfl
  have calls : ((servingsFrom (response.state.terms noteContext) world).map Serving.call)[1]? =
      some ⟨"c2", "stray", ""⟩ := by decide +kernel
  rw [List.getElem?_map, Option.map_eq_some_iff] at calls
  obtain ⟨serving, found, called⟩ := calls
  have unserved := servedBy.unserved serving (List.mem_of_getElem? found) (by rw [called]; exact stray)
  rw [called] at unserved
  exact unserved.2.2

end Run
end Colloquy
