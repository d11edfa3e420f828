import Colloquy.Proofs.Script.Steps
import Colloquy.Proofs.Store.Fields
import Colloquy.Proofs.Store.Scopes

/-! What the parts of a script leave alone. Whatever a script runs, the history only grows, no scope and no record is
lost, and a scope that is opened stays where it was opened. What a scope or a record contains changes through commits
and through answers that are bound; a target that nobody commits into and no answer is bound in keeps its contents. -/
namespace Colloquy

theorem Item.eq_of_isSame {item other : Item} (same : item.isSame other = true) : item = other := by
  cases item <;> cases other <;> simp_all [Item.isSame]

/-! ## Handlers that spare a target -/

section Sparing
variable {context : Context Handler} {target other : Item}

/-- The handlers of a chat are handlers of the host, under the names of its tools. -/
def Run.Chat.Routed (context : Context Handler) (chat : Run.Chat) : Prop :=
  ∀ entry ∈ chat.routes, ∃ name, context.handlers.get? name = some entry.2

theorem Run.Chat.Routed.spares {chat : Run.Chat} (routed : chat.Routed context) (spares : context.Spares target) :
    (context.withHandlers chat.routes).Spares target := by
  intro name handler found
  change (context.handlers.merge chat.routes).get? name = _ at found
  rw [Fields.get?_merge] at found
  cases last : Fields.last? chat.routes name with
  | none =>
    rw [last, Option.none_or] at found
    exact spares name handler found
  | some route =>
    rw [last, Option.some_or] at found
    cases found
    obtain ⟨served, given⟩ := routed _ (Fields.mem_of_last? last)
    exact spares served handler given

/-- The handler of a generation writes into its own target only. -/
theorem Generation.handler_spares (generation : Generation) (apart : target.isSame other = false) :
    (generation.handler target).Spares other := by
  intro arguments world action resolved commit wanted wants
  change Handler.produce generation.tool target generation.store generation.feedback arguments world = _ at wanted
  obtain ⟨error, _, failed⟩ | ⟨value, middle, placed, made⟩ := Run.bind_cases wanted
  · cases failed
  · cases made
    have into : target = commit.target := by
      cases feedback : generation.feedback <;> simp [feedback, Action.commit] at wants <;> rw [← wants]
    rw [← into]
    exact apart

theorem Generation.terms_spares {generation : Generation} (apart : target.isSame other = false)
    (spared : generation.SparedBy context other) : (generation.terms context target).context.Spares other := by
  intro name handler found
  by_cases own : name = generation.tool.name
  · subst own
    rw [Run.own_handler] at found
    cases found
    exact generation.handler_spares apart
  · rw [Run.other_handler own] at found
    exact spared name handler own found

end Sparing

/-! ## What lies between two worlds of a script -/

/-- Between two worlds the history only grew, no scope and no record was lost, each scope is where it was, and those that
were opened since were opened inside a given one. -/
structure Advances (scope : Nat) (before after : World) : Prop where
  history : before.history <+: after.history
  holds : ∀ target, before.store.Holds target → after.store.Holds target
  enclosing : ∀ id, id < before.store.scopes.length →
    (after.store.scopeAt id).enclosing = (before.store.scopeAt id).enclosing
  opened : scope < before.store.scopes.length → ∀ id, before.store.scopes.length ≤ id → id < after.store.scopes.length →
    (after.store.scopeAt id).enclosing = before.store.chain scope

/-- Between two worlds a scope was opened inside a given one, with bindings of its own. -/
structure Opens (scope : Nat) (bindings : Fields Item) (before after : World) : Prop where
  extended : before.store.Extends after.store
  length : after.store.scopes.length = before.store.scopes.length + 1
  own : after.store.scopeAt before.store.scopes.length = ⟨before.store.chain scope, bindings⟩

theorem Opens.of_store {scope : Nat} {bindings : Fields Item} {before after : World}
    (store : after.store = (before.store.openScope (some scope) bindings).2) : Opens scope bindings before after := by
  refine ⟨?_, ?_, ?_⟩ <;> rw [store]
  · exact Store.openScope_extends before.store (some scope) bindings
  · exact Store.openScope_length before.store bindings (some scope)
  · exact Store.openScope_scopeAt before.store bindings (some scope)

theorem opened_opens (world : World) (scope : Nat) : Opens scope [] world (world.opened scope) := .of_store rfl

theorem chatting_opens (world : World) (scope : Nat) : Opens scope [] world (world.chatting scope) := .of_store rfl

theorem entering_opens (world : World) (scope id : Nat) :
    Opens scope (world.store.membersOf id) world (world.entering scope id) := .of_store rfl

/-- A target that is there keeps its contents between two worlds. -/
def Preserves (target : Item) (before after : World) : Prop :=
  before.store.Holds target → after.store.Holds target ∧ after.store.contents target = before.store.contents target

namespace Advances
variable {scope : Nat} {before middle after : World}

/-- The scopes around one that is there stay the same. -/
theorem chain (advances : Advances scope before after) {id : Nat} (inside : id < before.store.scopes.length) :
    after.store.chain id = before.store.chain id := by
  rw [Store.chain, Store.chain, advances.enclosing id inside]

theorem scopes_le (advances : Advances scope before after) :
    before.store.scopes.length ≤ after.store.scopes.length := by
  refine Nat.le_of_not_lt fun fewer => ?_
  have held : before.store.Holds (.scope after.store.scopes.length) := fewer
  exact Nat.lt_irrefl _ (advances.holds _ held)

theorem refl (world : World) : Advances scope world world :=
  ⟨List.prefix_refl _, fun _ held => held, fun _ _ => rfl, fun _ _ least inside => absurd inside (Nat.not_lt.mpr least)⟩

theorem trans (first : Advances scope before middle) (second : Advances scope middle after) :
    Advances scope before after := by
  refine ⟨first.history.trans second.history, fun target held => second.holds target (first.holds target held),
    fun id inside => ?_, fun there id least inside => ?_⟩
  · exact (second.enclosing id (first.holds (.scope id) inside)).trans (first.enclosing id inside)
  · -- A scope was opened either by the middle, and is where it was then, or after it.
    by_cases early : id < middle.store.scopes.length
    · rw [second.enclosing id early]
      exact first.opened there id least early
    · rw [second.opened (first.holds (.scope scope) there) id (Nat.le_of_not_lt early) inside, first.chain there]

/-- What only commits change, and opens no scope. -/
theorem of_accounted (accounted : Accounted before after)
    (same : after.store.scopes.length = before.store.scopes.length) : Advances scope before after := by
  refine ⟨accounted.history, accounted.holds, accounted.enclosing, fun _ id least inside => ?_⟩
  rw [same] at inside
  exact absurd inside (Nat.not_lt.mpr least)

theorem of_store (grown : before.history <+: after.history) (same : after.store = before.store) :
    Advances scope before after := by
  refine ⟨grown, fun target held => by rwa [same], fun id _ => by rw [same], fun _ id least inside => ?_⟩
  rw [same] at inside
  exact absurd inside (Nat.not_lt.mpr least)

theorem of_opens {bindings : Fields Item} (grown : before.history <+: after.history)
    (opens : Opens scope bindings before after) : Advances scope before after := by
  refine ⟨grown, fun target held => opens.extended.holds held, fun id => opens.extended.enclosing,
    fun there id least inside => ?_⟩
  have length := opens.length
  obtain rfl : id = before.store.scopes.length := by omega
  rw [opens.own]

theorem of_bound {id : Nat} {name : String} {item : Item} (grown : before.history <+: after.history)
    (store : after.store = before.store.bind id name item) : Advances scope before after := by
  refine ⟨grown, fun target held => ?_, fun other _ => ?_, fun _ other least inside => ?_⟩
  · rw [store]
    exact (Store.bind_holds id name item).mpr held
  · rw [store]
    exact Store.bind_enclosing id name item other
  · have same : after.store.scopes.length = before.store.scopes.length := by simp [store, Store.bind]
    rw [same] at inside
    exact absurd inside (Nat.not_lt.mpr least)

end Advances

namespace Preserves
variable {target : Item} {before middle after : World}

theorem refl (world : World) : Preserves target world world := fun held => ⟨held, rfl⟩

theorem trans (first : Preserves target before middle) (second : Preserves target middle after) :
    Preserves target before after := by
  intro held
  obtain ⟨there, same⟩ := first held
  obtain ⟨still, sameToo⟩ := second there
  exact ⟨still, sameToo.trans same⟩

theorem of_extends (extended : before.store.Extends after.store) : Preserves target before after :=
  fun held => ⟨extended.holds held, extended.contents held⟩

theorem of_store (same : after.store = before.store) : Preserves target before after :=
  of_extends (by rw [same]; exact Store.extends_refl _)

theorem of_bound {id : Nat} {name : String} {item : Item} (apart : (Item.scope id).isSame target = false)
    (store : after.store = before.store.bind id name item) : Preserves target before after := by
  intro held
  rw [store, Store.bind_contents id name item held, apart]
  exact ⟨(Store.bind_holds id name item).mpr held, rfl⟩

end Preserves

/-- A scope that is there, and that no part in between binds anything in, is as it was. -/
theorem scope_kept {scope id : Nat} {before after : World} (advances : Advances scope before after)
    (preserves : Preserves (.scope id) before after) (inside : id < before.store.scopes.length) :
    after.store.scopeAt id = before.store.scopeAt id :=
  Store.scopeAt_ext (advances.enclosing id inside) (preserves inside).2

/-! ## What every step of a script spans -/

namespace Run

/-- A relation between worlds that spans what a script does for the person who runs it. -/
structure SpansScript (relation : World → World → Prop) : Prop where
  refl : ∀ world, relation world world
  trans : ∀ {before middle after}, relation before middle → relation middle after → relation before after
  asked : ∀ world question, relation world (world.record (.asked question))
  heard : ∀ world answer rest, relation world (world.heard answer rest)
  warned : ∀ world warning, relation world (world.record (.warned warning))

section Spanned
variable {relation : World → World → Prop} (spans : SpansScript relation)
include spans

theorem ask_spanned (question : String) : Respects relation (ask question) := by
  refine respects_bind spans.trans (fun world => spans.asked world question) fun _ =>
    respects_bind spans.trans (respects_read spans.refl _) fun answers => ?_
  cases answers with
  | nil => exact respects_fail spans.refl _
  | cons answer rest =>
    exact respects_bind spans.trans (fun world => spans.heard world answer rest) fun _ => respects_pure spans.refl _

theorem evaluate_spanned {α : Type} (scope : Nat) (part : Bindings → Except EvalError α) :
    Respects relation (evaluate scope part) :=
  respects_bind spans.trans (respects_read spans.refl _) fun _ => respects_check spans.refl _

theorem renderTemplates_spanned (scope : Nat) (templates : List Template) :
    Respects relation (renderTemplates scope templates) := by
  intro world
  have same := renderTemplates_same scope templates world
  dsimp only at same
  rw [same]
  exact spans.refl world

theorem prompt_spanned {scope : Nat} {question : Prompt}
    (bound : ∀ (world : World) item,
      relation world { world with store := world.store.bind scope question.store item }) :
    Respects relation (prompt scope question) := by
  refine respects_bind spans.trans (evaluate_spanned spans scope _) fun asked => ?_
  exact respects_bind spans.trans (ask_spanned spans asked) fun answer world => bound world _

theorem generate_spanned {context : Context Handler} {generation : Generation} {scope : Nat} {target : Item}
    (started : ∀ (world : World) messages, relation world { world with messages })
    (conversed : Respects relation (converse (generation.terms context target))) :
    Respects relation (generate context generation scope target) := by
  refine respects_bind spans.trans (renderTemplates_spanned spans scope _) fun messages => ?_
  refine respects_bind spans.trans (fun world => started world messages) fun _ => ?_
  refine respects_bind spans.trans (respects_read spans.refl _) fun before => ?_
  refine respects_bind spans.trans conversed fun _ => ?_
  refine respects_bind spans.trans (respects_read spans.refl _) fun since => ?_
  split
  · exact fun world => spans.warned world _
  · exact respects_pure spans.refl _

theorem declare_spanned (context : Context Handler) (chat : Chat) (tool : Tool) :
    Respects relation (declare context chat tool) := by
  unfold declare
  dsimp only
  split
  · exact respects_pure spans.refl _
  · split
    · exact respects_pure spans.refl _
    · exact respects_bind spans.trans (fun world => spans.warned world _) fun _ => respects_pure spans.refl _

theorem chatItem_spanned {context : Context Handler} {chat : Chat} (item : ChatItem)
    (said : ∀ world message, relation world (world.said message))
    (bound : ∀ (world : World) name item, relation world { world with store := world.store.bind chat.scope name item })
    (conversed : item = .response → Respects relation (converse (chat.terms context))) :
    Respects relation (chatItem context chat item) := by
  cases item with
  | message template =>
    refine respects_bind spans.trans (evaluate_spanned spans chat.scope _) fun message => ?_
    exact respects_bind spans.trans (fun world => said world message) fun _ => respects_pure spans.refl _
  | prompt question =>
    have asked := prompt_spanned spans fun world item => bound world question.store item
    exact respects_bind spans.trans asked fun _ => respects_pure spans.refl _
  | tool tool => exact declare_spanned spans context chat tool
  | response => exact respects_bind spans.trans (conversed rfl) fun _ => respects_pure spans.refl _
  | unknown tag => exact respects_pure spans.refl _

end Spanned

theorem advances_spansScript (scope : Nat) : SpansScript (Advances scope) where
  refl := Advances.refl
  trans := Advances.trans
  asked _ _ := .of_store (List.prefix_append _ _) rfl
  heard _ _ _ := .of_store (List.prefix_append _ _) rfl
  warned _ _ := .of_store (List.prefix_append _ _) rfl

theorem preserves_spansScript (target : Item) : SpansScript (Preserves target) where
  refl := Preserves.refl
  trans := Preserves.trans
  asked _ _ := .of_store rfl
  heard _ _ _ := .of_store rfl
  warned _ _ := .of_store rfl

/-! ## Conversations -/

/-- A conversation opens no scope. -/
theorem scopes_spansRounds : SpansRounds fun before after => after.store.scopes.length = before.store.scopes.length where
  refl _ := rfl
  trans first second := second.trans first
  prepared prepares := by rw [prepares.scopes]
  said _ _ := rfl
  wrote written := Commit.write_scopes written
  shown _ _ := rfl
  heard _ _ _ := rfl
  accepted _ _ := rfl
  rejected _ _ _ := rfl
  dispatched _ _ := rfl
  requested _ _ _ := rfl
  replied _ _ := rfl

theorem converse_advances (scope : Nat) (terms : Terms) : Respects (Advances scope) (converse terms) := by
  intro world
  have course := converse_course terms world
  have accounted := (course_spanned accounted_spansRounds course).1
  exact .of_accounted accounted (course_spanned scopes_spansRounds course).1

/-- A conversation whose handlers spare a target keeps its contents. -/
theorem converse_preserves {terms : Terms} {target : Item} (spares : terms.context.Spares target) :
    Respects (Preserves target) (converse terms) := by
  intro world held
  have course := converse_course terms world
  have accounted := (course_spanned accounted_spansRounds course).1
  refine ⟨accounted.holds target held, ?_⟩
  rw [accounted.contents target held]
  refine committedInto_spared (fun entry member => ?_) _
  rw [course_commits course] at member
  obtain ⟨serving, _, member⟩ := List.mem_flatMap.mp member
  obtain ⟨action, resolved, commit, ⟨handler, found, ran⟩, wants, rfl⟩ := serving_commits entry member
  exact spares _ handler found _ _ _ _ commit ran wants

/-! ## The parts of a script -/

section Parts
variable (context : Context Handler)

theorem openInside_advances (scope : Nat) (bindings : Fields Item) : Respects (Advances scope) (openInside scope bindings) :=
  fun _ => .of_opens (List.prefix_refl _) (.of_store rfl)

theorem openInside_preserves (scope : Nat) (bindings : Fields Item) (target : Item) :
    Respects (Preserves target) (openInside scope bindings) := by
  intro world
  have opens : Opens scope bindings world (openInside scope bindings world).2 := .of_store rfl
  exact .of_extends opens.extended

theorem generate_advances (around : Nat) (generation : Generation) (scope : Nat) (target : Item) :
    Respects (Advances around) (generate context generation scope target) :=
  generate_spanned (advances_spansScript around) (fun _ _ => .of_store (List.prefix_refl _) rfl)
    (converse_advances around _)

theorem iteration_advances (generation : Generation) (scope id : Nat) :
    Respects (Advances scope) (iteration context generation scope id) := by
  refine respects_bind Advances.trans (respects_read Advances.refl _) fun members => ?_
  refine respects_bind Advances.trans (openInside_advances scope members) fun inner => ?_
  exact generate_advances context scope generation inner (.record id)

theorem chatItem_advances (around : Nat) (chat : Chat) (item : ChatItem) :
    Respects (Advances around) (chatItem context chat item) :=
  chatItem_spanned (advances_spansScript around) item (fun _ _ => .of_store (List.prefix_append _ _) rfl)
    (fun _ _ _ => .of_bound (List.prefix_refl _) rfl) fun _ => converse_advances around _

theorem items_advance {context : Context Handler} {start : Chat} {world after : World} {items : List ChatItem}
    {log : List (Visit Chat ChatItem)} {result : Except RunError Chat} (around : Nat)
    (course : Through (chatItem context) start world items log result after) :
    Advances around world after ∧ ∀ visit ∈ log, Advances around world visit.before ∧
      Advances around (visit.after (chatItem context)) after :=
  through_spanned Advances.refl Advances.trans course fun visit _ =>
    chatItem_advances context around visit.state visit.item visit.before

theorem chat_advances (scope : Nat) (items : List ChatItem) (world : World) :
    Advances scope world (chat context scope items world).2 := by
  obtain ⟨result, _, course⟩ := chat_through context scope items world
  have begun : Advances scope world (world.chatting scope) := .of_opens (List.prefix_refl _) (chatting_opens world scope)
  exact begun.trans (items_advance scope course).1

theorem generateEach_advances (generation : Generation) (scope : Nat) (ids : List Nat) (world : World) :
    Advances scope world (generateEach context generation scope ids world).2 :=
  (through_spanned Advances.refl Advances.trans (generateEach_course context generation scope ids world) fun visit _ =>
    iteration_advances context generation scope visit.item visit.before).1

theorem statement_advances (scope : Nat) (statement : Statement) :
    Respects (Advances scope) (Run.statement context scope statement) := by
  cases statement with
  | prompt question =>
    exact prompt_spanned (advances_spansScript scope) fun _ _ => .of_bound (List.prefix_refl _) rfl
  | chat items => exact chat_advances context scope items
  | generate generation =>
    refine respects_bind Advances.trans (openInside_advances scope []) fun inner => ?_
    exact generate_advances context scope generation inner (.scope scope)
  | each source generation =>
    refine respects_bind Advances.trans (respects_read Advances.refl _) fun records => ?_
    refine respects_bind Advances.trans (respects_check Advances.refl _) fun ids => ?_
    exact generateEach_advances context generation scope ids
  | unknown tag => exact respects_pure Advances.refl _

variable {context} {target other : Item}

theorem generate_preserves {generation : Generation} {scope : Nat} (apart : target.isSame other = false)
    (spared : generation.SparedBy context other) :
    Respects (Preserves other) (generate context generation scope target) :=
  generate_spanned (preserves_spansScript other) (fun _ _ => .of_store rfl)
    (converse_preserves (Generation.terms_spares apart spared))

theorem iteration_preserves {generation : Generation} {scope id : Nat} (apart : (Item.record id).isSame other = false)
    (spared : generation.SparedBy context other) :
    Respects (Preserves other) (iteration context generation scope id) := by
  refine respects_bind Preserves.trans (respects_read Preserves.refl _) fun members => ?_
  refine respects_bind Preserves.trans (openInside_preserves scope members other) fun inner => ?_
  exact generate_preserves apart spared

theorem chatItem_preserves {chat : Chat} (item : ChatItem) (apart : (Item.scope chat.scope).isSame other = false)
    (routed : chat.Routed context) (spares : context.Spares other) :
    Respects (Preserves other) (chatItem context chat item) :=
  chatItem_spanned (preserves_spansScript other) item (fun _ _ => .of_store rfl) (fun _ _ _ => .of_bound apart rfl)
    fun _ => converse_preserves (routed.spares spares)

/-- What an item leaves of a chat that it does not fail in is what the chat gathers with it. -/
theorem chatItem_gathers {chat next : Chat} {item : ChatItem} {world : World}
    (ran : (chatItem context chat item world).1 = .ok next) : next = chat.gather context.handlers item := by
  -- Only a tool that is declared changes what a chat has gathered.
  have same : ∀ {α : Type} {part : Run α}, ((part >>= fun _ => pure chat) world).1 = .ok next → next = chat := by
    intro α part ended
    rw [bind_map part fun _ => chat] at ended
    cases first : (part world).1 <;> rw [first] at ended <;> cases ended
    rfl
  cases item with
  | message template =>
    have ended : (((evaluate chat.scope fun bindings => template.render bindings) >>= say) >>= fun _ => pure chat) world =
        chatItem context chat (.message template) world := by rw [bind_assoc]; rfl
    rw [← ended] at ran
    exact same ran
  | prompt question => exact same ran
  | tool tool =>
    simp only [chatItem, declare] at ran
    rw [Chat.gather]
    cases served : tool.action with
    | none =>
      rw [served] at ran
      cases ran
      rfl
    | some action =>
      rw [served] at ran
      rw [Option.bind_some]
      cases found : context.handlers.get? action with
      | none | some handler =>
        simp only [found] at ran
        cases ran
        rfl
  | response => exact same ran
  | unknown tag =>
    cases ran
    rfl

/-- An item of a chat leaves the chat in its scope, with handlers of the host. -/
theorem chatItem_keeps {chat next : Chat} {item : ChatItem} {world : World} (routed : chat.Routed context)
    (ran : (chatItem context chat item world).1 = .ok next) : next.scope = chat.scope ∧ next.Routed context := by
  rw [chatItem_gathers ran]
  cases item with
  | tool tool =>
    simp only [Chat.gather]
    split
    · next handler found =>
      obtain ⟨action, _, served⟩ := Option.bind_eq_some_iff.mp found
      refine ⟨rfl, fun entry member => ?_⟩
      rcases Fields.mem_put member with member | rfl
      · exact routed entry member
      · exact ⟨action, served⟩
    · exact ⟨rfl, routed⟩
  | _ => exact ⟨rfl, routed⟩

end Parts

end Run
end Colloquy
