import Colloquy.Action.Basic
import Colloquy.Context.Basic
import Colloquy.Expr.Eval
import Colloquy.Outline
import Colloquy.Reply.Basic
import Colloquy.Store.Binding

/-! What a run works on and what it leaves behind. The model's replies and the person's answers are given in advance;
everything that happens is written into a history. Nothing is taken back when a run fails: the world is as the last
step left it. -/
namespace Colloquy

/-- Something that happened. -/
inductive Event where
  | requested (request : Request)
  | replied (completion : Completion)
  | said (message : Message)
  | dispatched (call : ToolCall)
  | served (handler : String) (arguments : Value)
  | committed (call : ToolCall) (commit : Commit)
  | displayed (content : String)
  | asked (prompt : String)
  | answered (answer : Option String)
  | accepted (hook : Hook)
  | rejected (hook : Hook) (revision : String)
  | warned (warning : String)

/-- Why a run fails. -/
inductive RunError where
  | outOfReplies
  | outOfAnswers
  | malformed (issues : List Issue)
  | noChoice
  | unknownTool (name : String)
  | notWritable (kind : String)
  | layout (fault : Text.Wrap.Fault)
  | binding (error : BindingError)
  | evaluation (error : EvalError)
  | misuse (cause : Misuse)

/-- The error of a run whose answer from the client cannot be converted. -/
def RunError.ofReply : ReplyError → RunError
  | .malformed issues => .malformed issues
  | .noMembers => .misuse .wrongType

/-- The wording for a call of a tool that no handler serves. -/
def unknownToolMessage (name : String) : String := "Tool '" ++ name ++ "' does not exist in the dispatch table"

/-- Everything that a run can change. The messages are those of the conversation under way; each handler of the host is
counted by its name. -/
structure World where
  store : Store
  replies : List Reply
  answers : List (Option String)
  served : Fields Nat
  messages : List Message
  history : List Event

namespace World

/-- The start of a run. -/
def start (store : Store) (replies : List Reply) (answers : List (Option String)) : World :=
  ⟨store, replies, answers, [], [], []⟩

/-- Writes an event into the history. -/
def record (world : World) (event : Event) : World := { world with history := world.history ++ [event] }

/-- The tokens used, by reply. -/
def usage (world : World) : List Usage :=
  world.history.filterMap fun
    | .replied completion => completion.usage
    | _ => none

/-- The warnings given. -/
def warnings (world : World) : List String :=
  world.history.filterMap fun
    | .warned warning => some warning
    | _ => none

end World

/-- A part of a run: it changes the world and ends with a result or with an error. -/
def Run (α : Type) := World → Except RunError α × World

namespace Run
variable {α β : Type}

/-- One part after another; an error ends both. -/
def andThen (first : Run α) (next : α → Run β) : Run β := fun world =>
  match first world with
  | (.ok result, world) => next result world
  | (.error error, world) => (.error error, world)

instance : Monad Run where
  pure result := fun world => (.ok result, world)
  bind := andThen

/-- Fails and leaves the world as it is. -/
def fail (error : RunError) : Run α := fun world => (.error error, world)

/-- A result that may be an error, and leaves the world as it is. -/
def check (outcome : Except RunError α) : Run α := fun world => (outcome, world)

/-- Reads from the world. -/
def read (f : World → α) : Run α := fun world => (.ok (f world), world)

/-- Changes the world. -/
def change (f : World → World) : Run Unit := fun world => (.ok (), f world)

/-- Writes an event into the history. -/
def record (event : Event) : Run Unit := change fun world => world.record event

/-- Changes the store and yields what is made in it. -/
def build (f : Store → α × Store) : Run α := fun world =>
  let (made, store) := f world.store
  (.ok made, { world with store })

/-- Shows something to the person. -/
def display (content : String) : Run Unit := record (.displayed content)

/-- Asks the person, who answers with a text or not at all. -/
def ask (prompt : String) : Run (Option String) := do
  record (.asked prompt)
  match ← read World.answers with
  | [] => fail .outOfAnswers
  | answer :: rest => do
    change fun world => { world with answers := rest }.record (.answered answer)
    return answer

/-- Adds a message to the conversation. -/
def say (message : Message) : Run Unit :=
  change fun world => { world with messages := world.messages ++ [message] }.record (.said message)

/-- Starts a conversation with some messages. -/
def startWith (messages : List Message) : Run Unit := change fun world => { world with messages }

/-- Warns whoever runs the script. -/
def warn (warning : String) : Run Unit := record (.warned warning)

end Run
end Colloquy
