import Colloquy.Proofs.Script.Each

/-! Where a script binds names. Its questions and its generations bind in the scope of the script, those in a chat in the
scope of that chat, and nothing else binds anything; so whoever runs the script finds all of their own scopes as they
were, and what a chat was told is seen by its later items only. -/
namespace Colloquy

/-- The answers of the person among some events. -/
def answersIn (events : List Event) : List (Option String) :=
  events.filterMap fun
    | .answered answer => some answer
    | _ => none

/-- What a question binds, when it was answered among some events. -/
def Prompt.entries (question : Prompt) (events : List Event) : Fields Item :=
  (answersIn events).map fun answer => (question.store, .leaf (Message.optionalText answer))

/-- What a generation binds whose kept calls are given. -/
def Generation.entries (generation : Generation) (kept : List Run.Serving) : Fields Item :=
  kept.map fun serving => (generation.store, generation.itemOf serving)

/-- The names that a statement may bind in the scope of the script. -/
def Statement.stores : Statement → List String
  | prompt question => [question.store]
  | generate generation => [generation.store]
  | chat _ | each _ _ | unknown _ => []

/-- The scopes that a script is run inside of. -/
def World.around (world : World) (host : Option Nat) : List Nat :=
  match host with
  | some id => world.store.chain id
  | none => []

theorem Generation.merge_entries (generation : Generation) (kept : List Run.Serving) (contents : Fields Item) :
    contents.merge (generation.entries kept) = generation.leaves kept contents := by
  rw [← generation.foldl_leaves, Fields.merge, entries, List.foldl_map]

namespace Run
variable {context : Context Handler} {world : World}

/-! ## Questions -/

/-- A question binds its answer, if there is one. -/
theorem prompt_binds {scope : Nat} (question : Prompt) (inside : scope < world.store.scopes.length) :
    (prompt scope question world).2.store.bindingsOf scope =
      (world.store.bindingsOf scope).merge (question.entries (world.since (prompt scope question world).2)) := by
  unfold prompt
  cases rendered : renderAll (world.store.valueOf scope) question.question with
  | error error =>
    have failed := evaluate_error (fun bindings => renderAll bindings question.question) rendered
    rw [bind_error failed, World.since_self]
    rfl
  | ok asked =>
    rw [bind_ok (evaluate_ok (fun bindings => renderAll bindings question.question) rendered)]
    cases answers : world.answers with
    | nil =>
      rw [bind_error (ask_unanswered answers), World.since_eq (World.record_history world _)]
      rfl
    | cons answer rest =>
      rw [bind_ok (ask_answered answers)]
      have grown : ((world.record (.asked asked)).heard answer rest).history =
          world.history ++ [.asked asked, .answered answer] := by simp
      have held : world.store.Holds (.scope scope) := inside
      have bound := Store.bind_contents scope question.store (.leaf (Message.optionalText answer)) held
      rw [Store.isSame_self held, if_pos rfl] at bound
      have since : world.since { (world.record (.asked asked)).heard answer rest with
          store := world.store.bind scope question.store (.leaf (Message.optionalText answer)) } =
            [.asked asked, .answered answer] := World.since_eq grown
      have entries := congrArg (fun events => (world.store.bindingsOf scope).merge (question.entries events)) since
      exact bound.trans entries.symm

/-! ## Statements -/

/-- What a statement that is reached binds in the scope of the script: a question its answer, and a generation what was
kept in it. -/
def bound (context : Context Handler) (scope : Nat) (visit : Visit Unit Statement) : Fields Item :=
  match visit.item with
  | .prompt question => question.entries (visit.events fun _ => statement context scope)
  | .generate generation =>
    generation.entries ((generation.log context visit.before.store.scopes.length (.scope scope)
      (visit.before.opened scope)).filter (generation.keeps context (.scope scope)))
  | .chat _ | .each _ _ | .unknown _ => []

/-- What an item of a chat binds in the scope of the chat. -/
def chatBound (context : Context Handler) (visit : Visit Chat ChatItem) : Fields Item :=
  match visit.item with
  | .prompt question => question.entries (visit.events (chatItem context))
  | .message _ | .tool _ | .response | .unknown _ => []

theorem bound_stores (scope : Nat) (visit : Visit Unit Statement) :
    ∀ entry ∈ bound context scope visit, entry.1 ∈ visit.item.stores := by
  intro entry member
  obtain ⟨item, state, world⟩ := visit
  cases item with
  | prompt question | generate generation =>
    obtain ⟨_, _, rfl⟩ := List.mem_map.mp member
    exact List.mem_singleton_self _
  | chat items | each source generation | unknown tag => cases member

section Chats
variable {start : Chat} {items : List ChatItem} {log : List (Visit Chat ChatItem)} {after : World}
  {result : Except RunError Chat}

/-- The items of a chat find it in its scope, with handlers of the host. -/
theorem chat_states (course : Through (chatItem context) start world items log result after)
    (routed : start.Routed context) : ∀ visit ∈ log, visit.state.scope = start.scope ∧ visit.state.Routed context := by
  refine through_states (fun chat => chat.scope = start.scope ∧ chat.Routed context) course ⟨rfl, routed⟩ ?_
  intro visit _ good next ended
  obtain ⟨same, keeps⟩ := chatItem_keeps good.2 ended
  exact ⟨same.trans good.1, keeps⟩

/-- The items of a chat keep what is not in the scope of the chat. -/
theorem items_preserve {target : Item} (course : Through (chatItem context) start world items log result after)
    (routed : start.Routed context) (apart : (Item.scope start.scope).isSame target = false)
    (spares : context.Spares target) : Preserves target world after := by
  refine (through_spanned Preserves.refl Preserves.trans course fun visit member => ?_).1
  obtain ⟨same, routed⟩ := chat_states course routed visit member
  exact chatItem_preserves visit.item (by rw [same]; exact apart) routed spares visit.before

/-- What an item of a chat binds in the scope of the chat. -/
theorem item_binds (visit : Visit Chat ChatItem) (inside : visit.state.scope < visit.before.store.scopes.length)
    (routed : visit.state.Routed context) (spares : context.Spares (.scope visit.state.scope)) :
    (visit.after (chatItem context)).store.bindingsOf visit.state.scope =
      (visit.before.store.bindingsOf visit.state.scope).merge (chatBound context visit) := by
  obtain ⟨item, chat, world⟩ := visit
  have held : world.store.Holds (.scope chat.scope) := inside
  cases item with
  | prompt question =>
    have ran : (chatItem context chat (.prompt question) world).2 = (prompt chat.scope question world).2 :=
      congrArg Prod.snd (bind_map (prompt chat.scope question) (fun _ => chat) world)
    have binds := prompt_binds question inside
    rw [← ran] at binds
    exact binds
  | message template =>
    have spanned : Respects (Preserves (.scope chat.scope)) (chatItem context chat (.message template)) := by
      refine respects_bind Preserves.trans (evaluate_spanned (preserves_spansScript _) chat.scope _) fun message => ?_
      exact respects_bind Preserves.trans (fun _ => .of_store rfl) fun _ => respects_pure Preserves.refl _
    exact (spanned world held).2
  | tool tool => exact (declare_spanned (preserves_spansScript _) context chat tool world held).2
  | response =>
    have ran : (chatItem context chat .response world).2 = (converse (chat.terms context) world).2 :=
      congrArg Prod.snd (bind_map (converse (chat.terms context)) (fun _ => chat) world)
    have spared : (chat.terms context).context.Spares (.scope chat.scope) := routed.spares spares
    have kept := (converse_preserves spared world held).2
    rw [← ran] at kept
    exact kept
  | unknown tag => rfl

/-- What the items of a chat bind in the scope of the chat. -/
theorem items_bind (course : Through (chatItem context) start world items log result after)
    (inside : start.scope < world.store.scopes.length) (routed : start.Routed context)
    (spares : context.Spares (.scope start.scope)) :
    after.store.bindingsOf start.scope = (world.store.bindingsOf start.scope).merge (log.flatMap (chatBound context)) := by
  have advances := items_advance start.scope course
  have folded := through_folds (fun world => world.store.bindingsOf start.scope)
    (fun visit bindings => bindings.merge (chatBound context visit)) course fun visit member => by
      obtain ⟨same, routed⟩ := chat_states course routed visit member
      have there := (advances.2 visit member).1.holds (.scope start.scope) inside
      rw [← same] at there spares ⊢
      exact item_binds visit there routed spares
  rw [folded]
  exact Fields.foldl_merge log _ _

theorem chat_preserves {target : Item} (scope : Nat) (items : List ChatItem) (spares : context.Spares target) :
    Respects (Preserves target) (chat context scope items) := by
  intro world held
  obtain ⟨result, _, course⟩ := chat_through context scope items world
  have begun : Preserves target world (world.chatting scope) :=
    .of_extends (chatting_opens world scope).extended
  have kept := items_preserve course (fun entry member => by cases member) held.apart spares
  exact (begun.trans kept) held

end Chats

section Statements
variable {scope id : Nat}

theorem each_preserves (spares : context.Spares (.scope id)) (source : String) (generation : Generation) (scope : Nat) :
    Respects (Preserves (.scope id)) (statement context scope (.each source generation)) := by
  intro world
  have ran := each_ran context source generation scope world
  cases records : world.store.requireRecords scope source with
  | error error =>
    rw [records] at ran
    rw [ran]
    exact Preserves.refl world
  | ok ids =>
    rw [records] at ran
    rw [ran]
    exact (iterations_preserve (generateEach_course context generation scope ids world) (fun visit _ => rfl)
      (.of_spares generation spares)).1

/-- A statement keeps every scope but the one of the script. -/
theorem statement_preserves (apart : scope ≠ id) (spares : context.Spares (.scope id)) (item : Statement) :
    Respects (Preserves (.scope id)) (statement context scope item) := by
  have other : (Item.scope scope).isSame (.scope id) = false := beq_false_of_ne apart
  cases item with
  | prompt question => exact prompt_spanned (preserves_spansScript _) fun _ _ => .of_bound other rfl
  | chat items => exact chat_preserves scope items spares
  | generate generation =>
    refine respects_bind Preserves.trans (openInside_preserves scope [] _) fun inner => ?_
    exact generate_preserves other (.of_spares generation spares)
  | each source generation => exact each_preserves spares source generation scope
  | unknown tag => exact respects_pure Preserves.refl _

/-- What a statement binds in the scope of the script. -/
theorem statement_binds (visit : Visit Unit Statement) (inside : scope < visit.before.store.scopes.length)
    (spares : context.Spares (.scope scope)) :
    (visit.after fun _ => statement context scope).store.bindingsOf scope =
      (visit.before.store.bindingsOf scope).merge (bound context scope visit) := by
  obtain ⟨item, state, world⟩ := visit
  have held : world.store.Holds (.scope scope) := inside
  cases item with
  | prompt question => exact prompt_binds question inside
  | chat items => exact (chat_preserves scope items spares world held).2
  | generate generation =>
    have extended := (opened_opens world scope).extended
    have spared : generation.SparedBy context (.scope scope) := .of_spares generation spares
    obtain ⟨generated, _⟩ := generate_generated world.store.scopes.length (extended.holds held) spared
    have stored := generated.contents
    rw [extended.contents held, ← generation.merge_entries] at stored
    exact stored
  | each source generation => exact (each_preserves spares source generation scope world held).2
  | unknown tag => rfl

end Statements

/-! ## Where a script begins -/

section Beginning
variable (world : World) (host : Option Nat)

/-- The world in which a scope was opened for a script that has no host. -/
def rooted : World := { world with store := (world.store.openScope none []).2 }

theorem rooted_opens : world.store.Extends (rooted world).store ∧
    (rooted world).store.scopes.length = world.store.scopes.length + 1 ∧
    (rooted world).store.scopeAt world.store.scopes.length = ⟨[], []⟩ := by
  refine ⟨Store.openScope_extends world.store none [], ?_, ?_⟩
  · exact List.length_append
  · simp [rooted, Store.openScope, Store.scopeAt]

theorem beginning_opens : world.store.Extends (world.beginning host).store ∧
    (world.beginning host).store.scopes.length = world.bodyScope host + 1 := by
  cases host with
  | some host =>
    have opens : Opens host [] world (world.beginning (some host)) := .of_store rfl
    exact ⟨opens.extended, opens.length⟩
  | none =>
    obtain ⟨extended, length, _⟩ := rooted_opens world
    have opens : Opens world.store.scopes.length [] (rooted world) (world.beginning none) := .of_store rfl
    exact ⟨extended.trans opens.extended, by rw [opens.length, length]; rfl⟩

theorem bodyScope_new : world.store.scopes.length ≤ world.bodyScope host := by
  cases host with
  | some host => exact Nat.le_refl _
  | none => exact Nat.le_succ _

/-- The scope of a script binds nothing yet. Around it are the scopes of the host, or one that was opened for it. -/
theorem beginning_body : (world.beginning host).store.bindingsOf (world.bodyScope host) = [] ∧
    ∀ id ∈ (world.beginning host).store.chain (world.bodyScope host),
      id ∈ world.around host ∨ world.store.scopes.length ≤ id ∧ id ≤ world.bodyScope host := by
  cases host with
  | some host =>
    have opens : Opens host [] world (world.beginning (some host)) := .of_store rfl
    refine ⟨congrArg Scope.bindings opens.own, fun id member => ?_⟩
    rw [Store.chain, World.bodyScope, opens.own] at member
    rcases List.mem_cons.mp member with rfl | member
    · exact .inr ⟨Nat.le_refl _, Nat.le_refl _⟩
    · exact .inl member
  | none =>
    obtain ⟨_, length, root⟩ := rooted_opens world
    have opens : Opens world.store.scopes.length [] (rooted world) (world.beginning none) := .of_store rfl
    have own := opens.own
    rw [length, Store.chain, root] at own
    refine ⟨congrArg Scope.bindings own, fun id member => .inr ?_⟩
    rw [Store.chain, World.bodyScope, own] at member
    simp only [List.mem_cons, List.not_mem_nil, or_false] at member
    rw [World.bodyScope]
    omega

end Beginning

/-! ## Scopes of their own -/

/-- A scope and those around it are there, and no handler commits into them. -/
def Sheltered (context : Context Handler) (store : Store) (scope : Nat) : Prop :=
  ∀ id ∈ store.chain scope, id < store.scopes.length ∧ context.Spares (.scope id)

section Own
variable {scope : Nat} {items : List ChatItem} {world : World} (spares : context.Spares (.scope world.store.scopes.length))
include spares

/-- What is bound in the scope of a chat after some of its items, and where it is. -/
theorem chat_scope {log : List (Visit Chat ChatItem)} {reached : List ChatItem} {after : World}
    {result : Except RunError Chat}
    (course : Through (chatItem context) ⟨world.store.scopes.length, [], []⟩ (world.chatting scope) reached log result
      after) :
    Advances scope (world.chatting scope) after ∧
      after.store.scopeAt world.store.scopes.length =
        ⟨world.store.chain scope, Fields.ofPairs (log.flatMap (chatBound context))⟩ := by
  obtain ⟨_, length, opened⟩ := chatting_opens world scope
  have inside : world.store.scopes.length < (world.chatting scope).store.scopes.length := by omega
  have advances := (items_advance scope course).1
  have binds := items_bind course inside (fun entry member => by cases member) spares
  have none : (world.chatting scope).store.bindingsOf world.store.scopes.length = [] := congrArg Scope.bindings opened
  have enclosing := advances.enclosing _ inside
  rw [opened] at enclosing
  rw [none] at binds
  refine ⟨advances, ?_⟩
  calc after.store.scopeAt world.store.scopes.length
      = ⟨(after.store.scopeAt world.store.scopes.length).enclosing, after.store.bindingsOf world.store.scopes.length⟩ := rfl
    _ = ⟨world.store.chain scope, Fields.ofPairs (log.flatMap (chatBound context))⟩ := by rw [enclosing, binds]; rfl

/-- What an item of a chat sees: the answers to the questions before it, and behind them what the script saw. -/
theorem chat_reached (sheltered : Sheltered context world.store scope) {early late : List (Visit Chat ChatItem)}
    {visit : Visit Chat ChatItem} (split : chatLog context scope items world = early ++ visit :: late) (name : String) :
    visit.before.store.lookup world.store.scopes.length name =
      (Fields.last? (early.flatMap (chatBound context)) name).or (world.store.lookup scope name) := by
  obtain ⟨_, _, course⟩ := chat_through context scope items world
  have before := through_upTo course split
  obtain ⟨advances, own⟩ := chat_scope spares before
  have extended := (chatting_opens world scope).extended
  have around : ∀ id ∈ world.store.chain scope, visit.before.store.scopeAt id = world.store.scopeAt id := by
    intro id member
    obtain ⟨inside, spared⟩ := sheltered id member
    have held : world.store.Holds (.scope id) := inside
    have kept := items_preserve before (fun entry member => by cases member) held.apart spared
    rw [scope_kept advances kept (extended.holds held)]
    exact extended.scopeAt inside
  have outward := Store.chain_congr (around scope List.mem_cons_self)
  rw [Store.lookup_inside (by rw [own, outward]) name, Store.lookup_congr around, Store.bindingsOf, own,
    Fields.get?_ofPairs]

/-- The scope in which the messages of a generation are rendered binds nothing. -/
theorem generate_scope (generation : Generation) (there : scope < world.store.scopes.length) :
    (statement context scope (.generate generation) world).2.store.scopeAt world.store.scopes.length =
      ⟨world.store.chain scope, []⟩ := by
  obtain ⟨_, length, opened⟩ := opened_opens world scope
  have other : (Item.scope scope).isSame (.scope world.store.scopes.length) = false :=
    beq_false_of_ne (Nat.ne_of_lt there)
  rw [generate_opened, ← opened]
  exact scope_kept (generate_advances context scope generation _ _ (world.opened scope))
    (generate_preserves other (.of_spares generation spares) (world.opened scope)) (by omega)

variable (scope) in
/-- The scope of a generation for a record binds the members that the record had when it was reached. -/
theorem iteration_scope (generation : Generation) (id : Nat) :
    (iteration context generation scope id world).2.store.scopeAt world.store.scopes.length =
      ⟨world.store.chain scope, world.store.membersOf id⟩ := by
  obtain ⟨_, length, opened⟩ := entering_opens world scope id
  rw [iteration_generate, ← opened]
  exact scope_kept (generate_advances context scope generation _ _ (world.entering scope id))
    (generate_preserves rfl (.of_spares generation spares) (world.entering scope id)) (by omega)

end Own

/-! ## The whole script -/

/-- What is known of a chat that was held in some world, at the end of the script. In its scope there are the answers to
its questions, and an item sees those before it. No other scope that the script uses is inside that scope. -/
structure ChatConfined (context : Context Handler) (scope : Nat) (items : List ChatItem) (world after : World) : Prop where
  seen : ∀ early visit late, chatLog context scope items world = early ++ visit :: late → ∀ name,
    visit.before.store.lookup world.store.scopes.length name =
      (Fields.last? (early.flatMap (chatBound context)) name).or (world.store.lookup scope name)
  left : after.store.scopeAt world.store.scopes.length =
    ⟨after.store.chain scope, Fields.ofPairs ((chatLog context scope items world).flatMap (chatBound context))⟩
  hidden : ∀ id, scope ≤ id → id < after.store.scopes.length → id ≠ world.store.scopes.length →
    world.store.scopes.length ∉ after.store.chain id

/-- What is known of the scopes when a script has ended, or failed. Those around it are as they were. Its own scope binds
what its questions and generations bound that were reached, each name what was bound to it last. All scopes that were
opened in it are directly inside its own; one that a statement finds, other than its own, stays as it is. -/
structure Confined (context : Context Handler) (script : Script) (host : Option Nat) (world after : World) : Prop where
  order : (scriptLog context script host world).map Visit.item <+: script.body
  around : ∀ id ∈ world.around host, after.store.scopeAt id = world.store.scopeAt id
  bindings : after.store.bindingsOf (world.bodyScope host) =
    Fields.ofPairs ((scriptLog context script host world).flatMap (bound context (world.bodyScope host)))
  names : ∀ entry ∈ after.store.bindingsOf (world.bodyScope host), entry.1 ∈ script.body.flatMap Statement.stores
  last : ∀ name, (after.store.bindingsOf (world.bodyScope host)).get? name =
    Fields.last? ((scriptLog context script host world).flatMap (bound context (world.bodyScope host))) name
  binds : ∀ visit ∈ scriptLog context script host world,
    (visit.after fun _ => statement context (world.bodyScope host)).store.bindingsOf (world.bodyScope host) =
      (visit.before.store.bindingsOf (world.bodyScope host)).merge (bound context (world.bodyScope host) visit)
  opened : ∀ id, world.bodyScope host < id → id < after.store.scopes.length →
    (after.store.scopeAt id).enclosing = after.store.chain (world.bodyScope host)
  others : ∀ visit ∈ scriptLog context script host world, ∀ id, id < visit.before.store.scopes.length →
    id ∈ world.around host ∨ world.store.scopes.length ≤ id → world.bodyScope host ≠ id →
    (visit.after fun _ => statement context (world.bodyScope host)).store.scopeAt id = visit.before.store.scopeAt id
  generations : ∀ visit ∈ scriptLog context script host world, ∀ generation, visit.item = .generate generation →
    ownCommits generation (visit.events fun _ => statement context (world.bodyScope host)) =
        ((generation.log context visit.before.store.scopes.length (.scope (world.bodyScope host))
          (visit.before.opened (world.bodyScope host))).filter
            (generation.keeps context (.scope (world.bodyScope host)))).map
          (generation.entryOf (.scope (world.bodyScope host))) ∧
      after.store.scopeAt visit.before.store.scopes.length = ⟨after.store.chain (world.bodyScope host), []⟩
  chats : ∀ visit ∈ scriptLog context script host world, ∀ items, visit.item = .chat items →
    ChatConfined context (world.bodyScope host) items visit.before after
  eachs : ∀ visit ∈ scriptLog context script host world, ∀ source generation, visit.item = .each source generation →
    (visit.after fun _ => statement context (world.bodyScope host)).store.scopeAt (world.bodyScope host) =
        visit.before.store.scopeAt (world.bodyScope host) ∧
      ∀ ids, visit.before.store.requireRecords (world.bodyScope host) source = .ok ids →
        ∀ turn ∈ eachLog context generation (world.bodyScope host) ids visit.before,
          after.store.scopeAt turn.before.store.scopes.length =
            ⟨after.store.chain (world.bodyScope host), turn.before.store.membersOf turn.item⟩

section Body
variable {scope : Nat} {body : List Statement} {log : List (Visit Unit Statement)} {after : World}
  {result : Except RunError Unit}

/-- The run of the statements of a script. -/
abbrev Statements (context : Context Handler) (scope : Nat) := Through fun (_ : Unit) => statement context scope

theorem statements_advance (course : Statements context scope () world body log result after) :
    Advances scope world after ∧ ∀ visit ∈ log, Advances scope world visit.before ∧
      Advances scope (visit.after fun _ => statement context scope) after :=
  through_spanned Advances.refl Advances.trans course fun visit _ =>
    statement_advances context scope visit.item visit.before

/-- A scope that a statement leaves, other than that of the script, is left as it is by the statements after it. -/
theorem statements_keep (course : Statements context scope () world body log result after) {id : Nat} (apart : scope ≠ id)
    (spares : context.Spares (.scope id)) :
    (id < world.store.scopes.length → after.store.scopeAt id = world.store.scopeAt id) ∧
      ∀ visit ∈ log, id < (visit.after fun _ => statement context scope).store.scopes.length →
        after.store.scopeAt id = (visit.after fun _ => statement context scope).store.scopeAt id := by
  have advances := statements_advance course
  have step : ∀ visit ∈ log, Preserves (.scope id) visit.before (visit.after fun _ => statement context scope) :=
    fun visit _ => statement_preserves apart spares visit.item visit.before
  have preserves := through_spanned Preserves.refl Preserves.trans course step
  exact ⟨fun inside => scope_kept advances.1 preserves.1 inside, fun visit member inside =>
    scope_kept (advances.2 visit member).2 (preserves.2 visit member).2 inside⟩

theorem statements_bind (course : Statements context scope () world body log result after)
    (inside : scope < world.store.scopes.length) (spares : context.Spares (.scope scope)) :
    after.store.bindingsOf scope = (world.store.bindingsOf scope).merge (log.flatMap (bound context scope)) := by
  have folded := through_folds (fun world => world.store.bindingsOf scope)
    (fun visit bindings => bindings.merge (bound context scope visit)) course fun visit member =>
      statement_binds visit (((statements_advance course).2 visit member).1.holds (.scope scope) inside) spares
  rw [folded]
  exact Fields.foldl_merge log _ _

variable (course : Statements context scope () world body log result after)
  (sheltered : Sheltered context world.store scope)
  (spares : ∀ id, world.store.scopes.length ≤ id → context.Spares (.scope id))
  {visit : Visit Unit Statement} (member : visit ∈ log)
include course sheltered member

/-- Whenever a statement is reached, the scope of the script is where it was, and nothing else writes into it. -/
theorem reached_sheltered : Sheltered context visit.before.store scope ∧
    world.store.scopes.length ≤ visit.before.store.scopes.length ∧
    visit.before.store.chain scope = after.store.chain scope := by
  have inside := (sheltered scope List.mem_cons_self).1
  obtain ⟨whole, each⟩ := statements_advance course
  have advances := (each visit member).1
  have same := advances.chain inside
  refine ⟨fun id around => ?_, advances.scopes_le, same.trans (whole.chain inside).symm⟩
  rw [same] at around
  obtain ⟨there, spared⟩ := sheltered id around
  exact ⟨Nat.lt_of_lt_of_le there advances.scopes_le, spared⟩

include spares

/-- A scope that a statement opened is left as that statement left it. -/
theorem own_kept {id : Nat} {left : Scope} (new : visit.before.store.scopes.length ≤ id)
    (there : id < (visit.after fun _ => statement context scope).store.scopes.length)
    (same : (visit.after fun _ => statement context scope).store.scopeAt id = left) : after.store.scopeAt id = left := by
  obtain ⟨_, more, _⟩ := reached_sheltered course sheltered member
  have inside := (sheltered scope List.mem_cons_self).1
  have apart : scope ≠ id := by omega
  have kept := statements_keep course apart (spares id (Nat.le_trans more new))
  rw [kept.2 visit member there, same]

theorem chat_confined (newest : world.store.scopes.length = scope + 1) {items : List ChatItem}
    (isChat : visit.item = .chat items) : ChatConfined context scope items visit.before after := by
  obtain ⟨reached, more, same⟩ := reached_sheltered course sheltered member
  have spared := spares _ more
  have ran : visit.after (fun _ => statement context scope) = (chat context scope items visit.before).2 := by
    rw [Visit.after, isChat]
    rfl
  obtain ⟨_, _, held⟩ := chat_through context scope items visit.before
  obtain ⟨advances, own⟩ := chat_scope spared held
  have length := (chatting_opens visit.before scope).length
  have grown := advances.scopes_le
  refine ⟨fun early item late split => chat_reached spared reached split, ?_, fun id least inside apart inner => ?_⟩
  · rw [same] at own
    exact own_kept course sheltered spares member (Nat.le_refl _) (by rw [ran]; omega) (by rw [ran, own])
  · -- All scopes of the script are inside those that it began in, and these were there before the chat.
    have start := (sheltered scope List.mem_cons_self).1
    obtain ⟨whole, _⟩ := statements_advance course
    have around : ∀ other ∈ world.store.chain scope, other < visit.before.store.scopes.length :=
      fun other member => Nat.lt_of_lt_of_le (sheltered other member).1 more
    by_cases own : id = scope
    · rw [own, whole.chain start] at inner
      exact Nat.lt_irrefl _ (around _ inner)
    · have enclosing := whole.opened start id (by omega) inside
      rw [Store.chain, enclosing] at inner
      rcases List.mem_cons.mp inner with here | inner
      · exact apart here.symm
      · exact Nat.lt_irrefl _ (around _ inner)

theorem generation_confined {generation : Generation} (isGeneration : visit.item = .generate generation) :
    ownCommits generation (visit.events fun _ => statement context scope) =
        ((generation.log context visit.before.store.scopes.length (.scope scope) (visit.before.opened scope)).filter
          (generation.keeps context (.scope scope))).map (generation.entryOf (.scope scope)) ∧
      after.store.scopeAt visit.before.store.scopes.length = ⟨after.store.chain scope, []⟩ := by
  obtain ⟨reached, more, same⟩ := reached_sheltered course sheltered member
  obtain ⟨inside, spared⟩ := reached scope List.mem_cons_self
  have ran : visit.after (fun _ => statement context scope) =
      (statement context scope (.generate generation) visit.before).2 := by
    rw [Visit.after, isGeneration]
  obtain ⟨extended, length, _⟩ := opened_opens visit.before scope
  have grown := (generate_advances context scope generation visit.before.store.scopes.length (.scope scope)
    (visit.before.opened scope)).scopes_le
  constructor
  · rw [Visit.events, ran]
    have held : visit.before.store.Holds (.scope scope) := inside
    exact generate_ownCommits visit.before.store.scopes.length (extended.holds held) (.of_spares generation spared)
  · have own := generate_scope (spares _ more) generation inside
    rw [same] at own
    refine own_kept course sheltered spares member (Nat.le_refl _) ?_ (by rw [ran, own])
    rw [ran, generate_opened]
    omega

theorem each_confined {source : String} {generation : Generation} (isEach : visit.item = .each source generation) :
    (visit.after fun _ => statement context scope).store.scopeAt scope = visit.before.store.scopeAt scope ∧
      ∀ ids, visit.before.store.requireRecords scope source = .ok ids →
        ∀ turn ∈ eachLog context generation scope ids visit.before,
          after.store.scopeAt turn.before.store.scopes.length =
            ⟨after.store.chain scope, turn.before.store.membersOf turn.item⟩ := by
  obtain ⟨reached, more, same⟩ := reached_sheltered course sheltered member
  obtain ⟨inside, spared⟩ := reached scope List.mem_cons_self
  have ran : visit.after (fun _ => statement context scope) =
      (statement context scope (.each source generation) visit.before).2 := by
    rw [Visit.after, isEach]
  constructor
  · rw [ran]
    exact scope_kept (statement_advances context scope (.each source generation) visit.before)
      (each_preserves spared source generation scope visit.before) inside
  · intro ids found turn reachedIt
    have body := each_ran context source generation scope visit.before
    rw [found] at body
    have turns := generateEach_course context generation scope ids visit.before
    obtain ⟨early, late⟩ := (iterations_advance turns).2 turn reachedIt
    have spared := spares _ (Nat.le_trans more early.scopes_le)
    have own := iteration_scope scope spared generation turn.item
    have length := (entering_opens turn.before scope turn.item).length
    have grown := (generate_advances context scope generation turn.before.store.scopes.length (.record turn.item)
      (turn.before.entering scope turn.item)).scopes_le
    have there : turn.before.store.scopes.length <
        (turn.after fun _ => iteration context generation scope).store.scopes.length := by
      rw [Visit.after, iteration_generate]
      omega
    -- The generations after it spare the scope, and so do the statements after this one.
    have keeps := iterations_preserve turns (fun other _ => rfl) (.of_spares generation spared)
    have left := scope_kept late (keeps.2 turn reachedIt).2 there
    rw [Visit.after, own, early.chain inside, same] at left
    refine own_kept course sheltered spares member early.scopes_le ?_ ?_
    · rw [ran, body]
      exact Nat.lt_of_lt_of_le there late.scopes_le
    · rw [ran, body, left]

end Body

/-- However a script ends, it binds names in its own scope and in those of its chats only, and each scope around it is
as it was. -/
theorem script_confined (context : Context Handler) (script : Script) (host : Option Nat) (world : World)
    (closed : ∀ id ∈ world.around host, id < world.store.scopes.length)
    (spares : ∀ id, id ∈ world.around host ∨ world.store.scopes.length ≤ id → context.Spares (.scope id)) :
    Confined context script host world (Run.script context script host world).2 := by
  obtain ⟨result, _, course⟩ := script_through context script host world
  obtain ⟨extended, length⟩ := beginning_opens world host
  have new := bodyScope_new world host
  obtain ⟨empty, begun⟩ := beginning_body world host
  have sheltered : Sheltered context (world.beginning host).store (world.bodyScope host) := by
    intro id member
    rcases begun id member with around | ⟨least, most⟩
    · exact ⟨Nat.lt_of_lt_of_le (closed id around) extended.scopes.length_le, spares id (.inl around)⟩
    · exact ⟨by omega, spares id (.inr least)⟩
  have later : ∀ id, (world.beginning host).store.scopes.length ≤ id → context.Spares (.scope id) :=
    fun id least => spares id (.inr (Nat.le_trans extended.scopes.length_le least))
  obtain ⟨inside, spared⟩ := sheltered _ List.mem_cons_self
  obtain ⟨whole, each⟩ := statements_advance course
  have binds := statements_bind course inside spared
  rw [empty] at binds
  have order := (through_inOrder course).order
  refine ⟨order, fun id member => ?_, binds, fun entry member => ?_, fun name => ?_, fun visit member => ?_,
    fun id least there => ?_, ?_, ?_, ?_, ?_⟩
  · have there := closed id member
    have apart : world.bodyScope host ≠ id := by omega
    rw [(statements_keep course apart (spares id (.inl member))).1
      (Nat.lt_of_lt_of_le there extended.scopes.length_le)]
    exact extended.scopeAt there
  · rw [binds] at member
    rcases Fields.mem_merge member with old | member
    · cases old
    · obtain ⟨visit, reached, member⟩ := List.mem_flatMap.mp member
      have statement := order.subset (List.mem_map_of_mem reached)
      exact List.mem_flatMap.mpr ⟨visit.item, statement, bound_stores _ visit entry member⟩
  · rw [binds]
    exact Fields.get?_ofPairs _ name
  · exact statement_binds visit ((each visit member).1.holds (.scope _) inside) spared
  · rw [whole.chain inside]
    exact whole.opened inside id (by omega) there
  · intro visit member id there known apart
    exact scope_kept (statement_advances context _ visit.item visit.before)
      (statement_preserves apart (spares id known) visit.item visit.before) there
  · intro visit member generation isGeneration
    exact generation_confined course sheltered later member isGeneration
  · intro visit member items isChat
    exact chat_confined course sheltered later member length isChat
  · intro visit member source generation isEach
    exact each_confined course sheltered later member isEach

/-! A script that asks for a topic, and in a chat for a mood. The topic is bound in the scope of the script, although the
host has a topic of its own, and the mood is not. -/

/-- A host with a topic, and a person who will answer twice. -/
def riversWorld : World :=
  .start ⟨[], [⟨[], [("topic", .leaf (.text "Rivers"))]⟩]⟩ [] [some "Tides", some "Calm"]

/-- A script with a question of its own and one in a chat. -/
def moodScript : Script :=
  ⟨"script", [.prompt ⟨[.text "Topic?"], "topic"⟩, .chat [.prompt ⟨[.text "Mood?"], "mood"⟩]]⟩

theorem script_confined_mood :
    (∀ id ∈ riversWorld.around (some 0), id < riversWorld.store.scopes.length) ∧
    (∀ id, id ∈ riversWorld.around (some 0) ∨ riversWorld.store.scopes.length ≤ id → noteContext.Spares (.scope id)) ∧
    (Run.script noteContext moodScript (some 0) riversWorld).2.store.bindingsOf 1 = [("topic", .leaf (.text "Tides"))] ∧
    (Run.script noteContext moodScript (some 0) riversWorld).2.store.bindingsOf 0 = [("topic", .leaf (.text "Rivers"))] := by
  have closed : ∀ id ∈ riversWorld.around (some 0), id < riversWorld.store.scopes.length := by decide
  have spares : ∀ id, id ∈ riversWorld.around (some 0) ∨ riversWorld.store.scopes.length ≤ id →
      noteContext.Spares (.scope id) := fun id _ => note_context_spares (.scope id)
  have confined := script_confined noteContext moodScript (some 0) riversWorld closed spares
  have around := confined.around 0 (by decide)
  refine ⟨closed, spares, ?_, congrArg Scope.bindings around⟩
  exact confined.bindings.trans rfl

end Run
end Colloquy
