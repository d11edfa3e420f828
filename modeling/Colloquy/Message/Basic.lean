import Colloquy.Check.Value
import Colloquy.Value.Text

/-! Messages of a conversation. A message has a role and a content; those of the model may call tools instead, and
the result of a call names the call. On the wire a message is its fields without those that are null. -/
namespace Colloquy

/-- A call of a tool, its arguments as the model wrote them. -/
structure ToolCall where
  id : String
  name : String
  arguments : String
  deriving DecidableEq, Repr, Inhabited

/-- The author of a message. -/
inductive Role where
  | assistant
  | system
  | tool
  | user
  deriving DecidableEq, Repr, Inhabited

/-- The name of a role. -/
def Role.name : Role → String
  | assistant => "assistant"
  | system => "system"
  | tool => "tool"
  | user => "user"

/-- A message. One that is rendered from a template is plain and may have any role. -/
inductive Message where
  | plain (role : Role) (content : String)
  | system (content : String)
  | user (content : String)
  | assistant (content : Option String) (calls : Option (List ToolCall))
  | result (content : String) (callId : String) (name : Option String)
  deriving DecidableEq, Repr, Inhabited

namespace ToolCall

/-- A call as a value. -/
def toValue (call : ToolCall) : Value :=
  .model .toolCall [
    ("id", .text call.id),
    ("function", .model .toolFunction [("name", .text call.name), ("arguments", .text call.arguments)]),
    ("type", .text "function")]

/-- A call as JSON. -/
def toJson (call : ToolCall) : Json := call.toValue.dump

/-- Reads a call; members that a call does not have are ignored. -/
def check (value : Value) : Checked ToolCall := do
  let fields ← Check.parts value
  let inner (value : Value) : Checked (String × String) := do
    let fields ← Check.parts value
    .both (Check.required fields "name" Check.text) (Check.required fields "arguments" Check.text)
  let (id, (name, arguments), _) ← Checked.both (Check.required fields "id" Check.text)
    (.both (Check.required fields "function" inner)
      (Check.optional fields "type" "function" (Check.oneOf ["function"])))
  return ⟨id, name, arguments⟩

end ToolCall

namespace Message

/-- A text, or null. -/
def optionalText : Option String → Value
  | some s => .text s
  | none => .null

/-- The kind of a message. -/
def kind : Message → ModelKind
  | plain _ _ => .message
  | system _ => .systemMessage
  | user _ => .userMessage
  | assistant _ _ => .assistantMessage
  | result _ _ _ => .toolResult

/-- The role of a message. -/
def role : Message → Role
  | plain role _ => role
  | system _ => .system
  | user _ => .user
  | assistant _ _ => .assistant
  | result _ _ _ => .tool

/-- The fields of a message, in order. -/
def fields : Message → Fields Value
  | plain role content => [("role", .text role.name), ("content", .text content)]
  | system content => [("role", .text Role.system.name), ("content", .text content)]
  | user content => [("role", .text Role.user.name), ("content", .text content)]
  | assistant content calls => [
      ("role", .text Role.assistant.name),
      ("content", optionalText content),
      ("tool_calls", match calls with
        | some calls => .list (calls.map ToolCall.toValue)
        | none => .null)]
  | result content callId name => [
      ("role", .text Role.tool.name),
      ("content", .text content),
      ("tool_call_id", .text callId),
      ("name", optionalText name)]

/-- A message as a value. -/
def toValue (message : Message) : Value := .model message.kind message.fields

/-- A message as JSON, null fields and all. -/
def toJson (message : Message) : Json := message.toValue.dump

/-- A message as it is sent. -/
def toWire (message : Message) : Json := .object (Value.present (Value.dumpFields message.fields))

/-- The role that a name means. -/
def roleOf (name : String) : Role :=
  if name == "assistant" then .assistant
  else if name == "system" then .system
  else if name == "tool" then .tool
  else .user

/-- Reads the content of a message whose role is fixed. -/
def checkFixed (role : Role) (make : String → Message) (fields : Fields Value) : Checked Message := do
  let (_, content) ← Checked.both (Check.optional fields "role" role.name (Check.oneOf [role.name]))
    (Check.required fields "content" Check.text)
  return make content

/-- Reads a message of a kind from its fields. -/
def check (kind : ModelKind) (fields : Fields Value) : Checked Message :=
  match kind with
  | .systemMessage => checkFixed .system .system fields
  | .userMessage => checkFixed .user .user fields
  | .assistantMessage => do
    let (_, content, calls) ← Checked.both
      (Check.optional fields "role" "assistant" (Check.oneOf ["assistant"]))
      (.both (Check.optional fields "content" none (Check.nullable Check.text))
        (Check.optional fields "tool_calls" none (Check.nullable (Check.list ToolCall.check))))
    return .assistant content calls
  | .toolResult => do
    let (_, content, callId, name) ← Checked.both
      (Check.optional fields "role" "tool" (Check.oneOf ["tool"]))
      (.both (Check.required fields "content" Check.text)
        (.both (Check.required fields "tool_call_id" Check.text)
          (Check.optional fields "name" none (Check.nullable Check.text))))
    return .result content callId name
  | _ => do
    let (role, content) ← Checked.both
      (Check.required fields "role" (Check.oneOf ["assistant", "system", "tool", "user"]))
      (Check.required fields "content" Check.text)
    return .plain (roleOf role) content

end Message
end Colloquy
