import Colloquy.Message.Basic

/-! Results of tool calls. A text is sent as it is and a message as its fields; data is sent as JSON, and what has no
JSON form as its own text. -/
namespace Colloquy

/-- The text of a result. -/
def Value.resultText (value : Value) : String :=
  match value with
  | .null => ""
  | .text s | .safe s => s
  | .model _ fields => Json.write .compact (.object (dumpFields fields))
  | value =>
    match value.toJson false with
    | .ok json => Json.write .spaced json
    | .error _ => value.asText

/-- The message that answers a call. -/
def Message.ofResult (call : ToolCall) (content : Value) : Message :=
  .result content.resultText call.id (some call.name)

/-- Why a result cannot be made. -/
inductive ResultError where
  | missingId
  | malformed (issues : List Issue)

/-- The wording for a result without the call it answers. -/
def missingIdMessage : String := "tool_call_id is required"

/-- The message that answers the call of an id with a value. -/
def Message.respond (callId response name : Value) : Except ResultError Message :=
  match callId with
  | .null => .error .missingId
  | callId =>
    (Message.check .toolResult
      [("content", .text response.resultText), ("tool_call_id", callId), ("name", name)]).mapError .malformed

end Colloquy
