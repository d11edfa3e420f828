import Colloquy.Proofs.Generation.Target
import Colloquy.Proofs.Run.Sequence

/-! The loops of a script. The statements of a script, the items of a chat and the generations for several records are
each worked through in order, and so have visits, one for each that is reached. -/
namespace Colloquy

namespace World
variable (world : World)

/-- The world in which a chat begins, held inside a scope: with a scope of its own, and nothing said. -/
def chatting (scope : Nat) : World := { world.opened scope with messages := [] }

/-- The world in which a scope was opened inside another one, with the members of a record. -/
def entering (scope id : Nat) : World :=
  { world with store := (world.store.openScope (some scope) (world.store.membersOf id)).2 }

/-- The world in which the statements of a script begin. -/
def beginning (host : Option Nat) : World := (Run.openBody host world).2

/-- The number of the scope that the statements of a script run in. -/
def bodyScope (host : Option Nat) : Nat :=
  match host with
  | some _ => world.store.scopes.length
  | none => world.store.scopes.length + 1

end World

namespace Run
variable {α β γ : Type} {world : World}

theorem bind_map (part : Run α) (f : α → β) (world : World) :
    (part >>= fun a => pure (f a)) world = ((part world).1.map f, (part world).2) := by
  cases ran : part world with
  | mk result after =>
    cases result with
    | error error => rw [bind_error ran]; rfl
    | ok a => rw [bind_ok ran]; rfl

theorem pure_bind (a : α) (next : α → Run β) : (pure a : Run α) >>= next = next a := rfl

/-- What the model is asked in a response of a chat. -/
def Chat.terms (context : Context Handler) (chat : Chat) : Terms :=
  ⟨context.withHandlers chat.routes, chat.tools, none, none⟩

/-- Runs one item of a chat. Gives what the chat has gathered with it. -/
def chatItem (context : Context Handler) (chat : Chat) : ChatItem → Run Chat
  | .message template => do
    say (← evaluate chat.scope fun bindings => template.render bindings)
    return chat
  | .prompt question => do
    prompt chat.scope question
    return chat
  | .tool tool => declare context chat tool
  | .response => do
    let _ ← converse (chat.terms context)
    return chat
  | .unknown _ => pure chat

/-- What a chat has gathered after an item. A tool that names a handler of the host is served by it from then on. -/
def Chat.gather (hosts : Fields Handler) (chat : Chat) : ChatItem → Chat
  | .tool tool =>
    let chat := { chat with tools := chat.tools ++ [tool] }
    match tool.action.bind hosts.get? with
    | some handler => { chat with routes := chat.routes.put tool.name handler }
    | none => chat
  | _ => chat

/-- Has the model produce a value for one record. -/
def iteration (context : Context Handler) (generation : Generation) (scope : Nat) (id : Nat) : Run Unit := do
  let inner ← openInside scope (← read fun world => world.store.membersOf id)
  generate context generation inner (.record id)

/-- The items of a chat that are reached, when it is held in a world. -/
def chatLog (context : Context Handler) (scope : Nat) (items : List ChatItem) (world : World) :
    List (Visit Chat ChatItem) :=
  visits (chatItem context) ⟨world.store.scopes.length, [], []⟩ (world.chatting scope) items

/-- The records for which a generation is begun. -/
def eachLog (context : Context Handler) (generation : Generation) (scope : Nat) (ids : List Nat) (world : World) :
    List (Visit Unit Nat) :=
  visits (fun _ => iteration context generation scope) () world ids

/-- The statements of a script that are reached. -/
def scriptLog (context : Context Handler) (script : Script) (host : Option Nat) (world : World) :
    List (Visit Unit Statement) :=
  visits (fun _ => statement context (world.bodyScope host)) () (world.beginning host) script.body

section Loops
variable (context : Context Handler)

theorem chatItems_through (chat : Chat) (items : List ChatItem) :
    chatItems context chat items = through (chatItem context) chat items >>= fun _ => pure () := by
  induction items generalizing chat with
  | nil => rfl
  | cons item rest ih =>
    cases item <;> simp only [chatItems, through, chatItem, Chat.terms, bind_assoc, pure_bind, ih]

theorem generateEach_through (generation : Generation) (scope : Nat) (ids : List Nat) :
    generateEach context generation scope ids = through (fun _ => iteration context generation scope) () ids := by
  induction ids with
  | nil => rfl
  | cons id rest ih => simp only [generateEach, through, iteration, bind_assoc, ih]

theorem statements_through (scope : Nat) (body : List Statement) :
    statements context scope body = through (fun _ => statement context scope) () body := by
  induction body with
  | nil => rfl
  | cons first rest ih => simp only [statements, through, ih]

/-- A chat is its items that are reached, from the world in which it begins. -/
theorem chat_through (scope : Nat) (items : List ChatItem) (world : World) :
    ∃ result, (chat context scope items world).1 = result.map (fun _ => ()) ∧
      Through (chatItem context) ⟨world.store.scopes.length, [], []⟩ (world.chatting scope) items
        (chatLog context scope items world) result (chat context scope items world).2 := by
  have begun : chat context scope items world =
      chatItems context ⟨world.store.scopes.length, [], []⟩ items (world.chatting scope) := rfl
  have course := through_visits (chatItem context) ⟨world.store.scopes.length, [], []⟩ items (world.chatting scope)
  rw [begun, chatItems_through, bind_map]
  exact ⟨_, rfl, course⟩

theorem generateEach_course (generation : Generation) (scope : Nat) (ids : List Nat) (world : World) :
    Through (fun _ => iteration context generation scope) () world ids (eachLog context generation scope ids world)
      (generateEach context generation scope ids world).1 (generateEach context generation scope ids world).2 := by
  rw [generateEach_through]
  exact through_visits _ _ _ _

/-- One generation for a record is a generation in a scope of its own. -/
theorem iteration_generate (generation : Generation) (scope id : Nat) (world : World) :
    iteration context generation scope id world =
      generate context generation world.store.scopes.length (.record id) (world.entering scope id) := rfl

theorem generate_opened (generation : Generation) (scope : Nat) (world : World) :
    statement context scope (.generate generation) world =
      generate context generation world.store.scopes.length (.scope scope) (world.opened scope) := rfl

end Loops

theorem openBody_begins (host : Option Nat) (world : World) :
    openBody host world = (.ok (world.bodyScope host), world.beginning host) := by
  cases host with
  | some host => rfl
  | none =>
    have opened : ((world.store.openScope none []).2.scopes).length = world.store.scopes.length + 1 := by
      simp [Store.openScope]
    have ran : openBody none world = (.ok (world.store.openScope none []).2.scopes.length, world.beginning none) := rfl
    rw [ran, opened]
    rfl

/-- A script is its statements that are reached, from the world in which they begin. -/
theorem script_through (context : Context Handler) (script : Script) (host : Option Nat) (world : World) :
    ∃ result, (Run.script context script host world).1 = result.map (fun _ => world.bodyScope host) ∧
      Through (fun _ => statement context (world.bodyScope host)) () (world.beginning host) script.body
        (scriptLog context script host world) result (Run.script context script host world).2 := by
  have course := through_visits (fun _ => statement context (world.bodyScope host)) () script.body
    (world.beginning host)
  rw [← statements_through] at course
  unfold Run.script
  rw [bind_ok (openBody_begins host world)]
  rw [bind_map]
  exact ⟨_, rfl, course⟩

end Run
end Colloquy
