import Colloquy.Message.Result
import Colloquy.Run.Handler

/-! Conversations. Each round sends all messages to the model and adds its answer; every call in the answer is served in
order, and each is followed by one result. Another round is needed when some call asks for it: a loop, or a review that
ends in a revision. -/
namespace Colloquy.Run

/-- What the person is asked when content is up for review. -/
def reviewPrompt : String :=
  "Review the output and see if it matches your expectations. Enter your feedback, or skip to accept."

/-- The result of a call whose content was accepted. -/
def acceptedText : String := "Accepted"

/-- The result of a call that no handler serves. -/
def unknownToolText (name : String) : String := "Unknown tool: " ++ name

/-- Answers a call. -/
def answer (call : ToolCall) (content : Value) : Run Unit := say (Message.ofResult call content)

/-- Answers a call with the value that an item has now. -/
def answerItem (call : ToolCall) (content : Item) : Run Unit := do
  answer call (← read fun world => world.store.view content)

/-- Writes the commit of an action, if there is one. -/
def apply (call : ToolCall) : Option Commit → Run Unit
  | none => pure ()
  | some commit => do
    let store ← read World.store
    let store ← check ((commit.write store).mapError .notWritable)
    change fun world => { world with store }
    record (.committed call { commit with applied := true })

/-- What a reviewer sees: a text as it is, anything else laid out. -/
def reviewText (content : Value) : Except Text.Wrap.Fault String :=
  match content with
  | .text s | .safe s => .ok s
  | content => Outline.lay .standard 0 content.outline

/-- Shows content to the reviewer; a blank answer accepts it, any other is a revision. -/
def review (content : Item) : Run (Option String) := do
  let value ← read fun world => world.store.view content
  display (← check ((reviewText value).mapError .layout))
  return (← ask reviewPrompt).filter fun revision => !Text.isBlankText revision

/-- Runs what is to be run when a review ends. -/
def runHook (happened : Hook → Event) (given : List Value) : Option Hook → Run Unit
  | none => pure ()
  | some hook => do
    record (happened hook)
    match hook with
    | .note _ => pure ()
    | .call f => do
      let _ ← check ((f.call ⟨given, []⟩).mapError .misuse)

/-- Carries out an action. Tells whether another round is needed. -/
def carryOut (call : ToolCall) : Action → Run Bool
  | .loop content commit => do
    apply call commit
    answerItem call content
    return true
  | .close content commit => do
    apply call commit
    answerItem call content
    return false
  | .review content commit onAccept onReject => do
    match ← review content with
    | none => do
      answer call (.text acceptedText)
      apply call commit
      runHook .accepted [] onAccept
      return false
    | some revision => do
      answer call (.text revision)
      runHook (.rejected · revision) [.text revision] onReject
      return true

/-- Serves one call. Tells whether another round is needed. -/
def dispatch (context : Context Handler) (call : ToolCall) : Run Bool := do
  record (.dispatched call)
  match context.handlers.get? call.name with
  | none => do
    answer call (.text (unknownToolText call.name))
    fail (.unknownTool call.name)
  | some handler => do
    carryOut call (← handler.respond call.given)

/-- Serves all calls of an answer in order, also after one that needs another round. -/
def dispatchAll (context : Context Handler) : List ToolCall → Run Bool
  | [] => pure false
  | call :: rest => do
    let first ← dispatch context call
    let later ← dispatchAll context rest
    return first || later

/-- What the model is asked in every round of a conversation. -/
structure Terms where
  context : Context Handler
  tools : List Tool
  choice : Option String
  model : Option String

/-- Sends all messages so far. -/
def send (terms : Terms) : Run Unit := do
  let messages ← read World.messages
  record (.requested (← check ((terms.context.call messages terms.tools terms.choice terms.model).mapError .misuse)))

/-- Takes a reply and adds its first message to the conversation. Gives the calls in it. -/
def receive (reply : Reply) : Run (List ToolCall) := do
  let completion ← check (reply.convert.mapError .ofReply)
  record (.replied completion)
  match completion.choices with
  | [] => fail .noChoice
  | choice :: _ => do
    let calls := choice.message.calls.getD []
    say (.assistant choice.message.content (if calls.isEmpty then none else some calls))
    return calls

/-- Rounds after the first `done`, one for each reply. Gives the number of all rounds. -/
def rounds (terms : Terms) (done : Nat) : List Reply → Run Nat
  | [] => do
    send terms
    fail .outOfReplies
  | reply :: rest => do
    send terms
    change fun world => { world with replies := rest }
    let calls ← receive reply
    let again ← dispatchAll terms.context calls
    if again then rounds terms (done + 1) rest else return done + 1

/-- Holds a conversation until no call needs another round. Gives the number of rounds. -/
def converse (terms : Terms) : Run Nat := do rounds terms 0 (← read World.replies)

end Colloquy.Run
