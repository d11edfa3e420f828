import Colloquy.Run.Conversation
import Colloquy.Script.Basic

/-! Running scripts. Statements run in the order in which they are written, each block in a scope of its own. What was
bound or said before an error stays. -/
namespace Colloquy.Run

/-- The value of a part of a script under the bindings that are visible in a scope. -/
def evaluate {α : Type} (scope : Nat) (part : Bindings → Except EvalError α) : Run α := do
  let store ← read World.store
  check ((part (store.valueOf scope)).mapError .evaluation)

/-- Opens a scope inside another one. -/
def openInside (parent : Nat) (bindings : Fields Item) : Run Nat := build fun store => store.openScope (some parent) bindings

/-- Asks the person and binds the answer. -/
def prompt (scope : Nat) (prompt : Prompt) : Run Unit := do
  let answer ← ask (← evaluate scope fun bindings => renderAll bindings prompt.question)
  change fun world => { world with store := world.store.bind scope prompt.store (.leaf (Message.optionalText answer)) }

/-- The messages that templates render to. -/
def renderTemplates (scope : Nat) : List Template → Run (List Message)
  | [] => pure []
  | template :: rest => do
    let first ← evaluate scope fun bindings => template.render bindings
    return first :: (← renderTemplates scope rest)

/-- What a chat has gathered: its scope, the tools declared so far, and the handlers that serve some of them. -/
structure Chat where
  scope : Nat
  tools : List Tool
  routes : Fields Handler

/-- The wording for a tool whose handler does not exist. -/
def missingHandlerMessage (tool action : String) : String :=
  "Tool '" ++ tool ++ "' routes to missing handler '" ++ action ++ "'"

/-- Adds a tool to a chat. One that names a handler is served by that handler of the host. -/
def declare (context : Context Handler) (chat : Chat) (tool : Tool) : Run Chat :=
  let chat := { chat with tools := chat.tools ++ [tool] }
  match tool.action with
  | none => pure chat
  | some action =>
    match context.handlers.get? action with
    | some handler => pure { chat with routes := chat.routes.put tool.name handler }
    | none => do
      warn (missingHandlerMessage tool.name action)
      return chat

/-- Runs the items of a chat. -/
def chatItems (context : Context Handler) (chat : Chat) : List ChatItem → Run Unit
  | [] => pure ()
  | .message template :: rest => do
    say (← evaluate chat.scope fun bindings => template.render bindings)
    chatItems context chat rest
  | .prompt question :: rest => do
    prompt chat.scope question
    chatItems context chat rest
  | .tool tool :: rest => do
    let chat ← declare context chat tool
    chatItems context chat rest
  | .response :: rest => do
    let _ ← converse ⟨context.withHandlers chat.routes, chat.tools, none, none⟩
    chatItems context chat rest
  | .unknown _ :: rest => chatItems context chat rest

/-- Holds a chat. -/
def chat (context : Context Handler) (scope : Nat) (items : List ChatItem) : Run Unit := do
  let inner ← openInside scope []
  Run.startWith []
  chatItems context ⟨inner, [], []⟩ items

/-- The wording for a generation that stored nothing. -/
def nothingProducedMessage (store : String) : String :=
  "Generation '" ++ store ++ "' finished without producing a value"

/-- Whether a value of a tool was stored by one of some events. -/
def produced (tool : String) (events : List Event) : Bool :=
  events.any fun
    | .committed call _ => call.name == tool
    | _ => false

/-- Has the model produce a value, and stores it in a target. The messages are rendered in a scope. -/
def generate (context : Context Handler) (generation : Generation) (scope : Nat) (target : Item) : Run Unit := do
  let tool := generation.tool
  Run.startWith (← renderTemplates scope generation.messages)
  let before ← read fun world => world.history.length
  let handler := Handler.generation tool target generation.store generation.feedback
  let _ ← converse ⟨context.withHandlers [(tool.name, handler)], [tool], some tool.name, none⟩
  let since ← read fun world => world.history.drop before
  if !produced tool.name since then warn (nothingProducedMessage generation.store)

/-- Has the model produce a value for each record, in a scope with the members that the record has by then. -/
def generateEach (context : Context Handler) (generation : Generation) (scope : Nat) : List Nat → Run Unit
  | [] => pure ()
  | id :: rest => do
    let inner ← openInside scope (← read fun world => world.store.membersOf id)
    generate context generation inner (.record id)
    generateEach context generation scope rest

/-- Runs a statement. -/
def statement (context : Context Handler) (scope : Nat) : Statement → Run Unit
  | .prompt question => prompt scope question
  | .chat items => chat context scope items
  | .generate generation => do
    let inner ← openInside scope []
    generate context generation inner (.scope scope)
  | .each source generation => do
    let records ← read fun world => world.store.requireRecords scope source
    generateEach context generation scope (← check (records.mapError .binding))
  | .unknown _ => pure ()

/-- Runs statements in order. -/
def statements (context : Context Handler) (scope : Nat) : List Statement → Run Unit
  | [] => pure ()
  | first :: rest => do
    statement context scope first
    statements context scope rest

/-- Opens the scope of a script, inside the one of its host. -/
def openBody : Option Nat → Run Nat
  | some host => openInside host []
  | none => do openInside (← build fun store => store.openScope none []) []

/-- Runs a script. Gives the scope that holds its bindings. -/
def script (context : Context Handler) (script : Script) (host : Option Nat) : Run Nat := do
  let body ← openBody host
  statements context body script.body
  return body

end Colloquy.Run
