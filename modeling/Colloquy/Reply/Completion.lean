import Colloquy.Message.Basic

/-! Completions: what a model answers to a request. A completion offers choices, each with a message that may call tools,
and may say how many tokens were used. -/
namespace Colloquy

/-- Counts of tokens. -/
structure Usage where
  promptTokens : Option Int
  completionTokens : Option Int
  totalTokens : Option Int
  deriving DecidableEq, Repr, Inhabited

/-- The message of a choice. -/
structure ReplyMessage where
  role : Role
  content : Option String
  calls : Option (List ToolCall)
  refusal : Option String
  deriving DecidableEq, Repr, Inhabited

/-- One of the answers that a completion offers, and why it ends. -/
structure Choice where
  finishReason : Option String
  message : ReplyMessage
  deriving DecidableEq, Repr, Inhabited

/-- The identity of a completion. -/
inductive CompletionId where
  | number (n : Int)
  | text (s : String)
  deriving DecidableEq, Repr, Inhabited

/-- What a model answers. -/
structure Completion where
  id : Option CompletionId
  created : Option Int
  model : Option String
  usage : Option Usage
  choices : List Choice
  deriving DecidableEq, Repr, Inhabited

/-! Completions as JSON, null fields and all. -/

/-- An integer, or null. -/
def intOrNull : Option Int → Json
  | some n => .int n
  | none => .null

/-- A text, or null. -/
def textOrNull : Option String → Json
  | some s => .text s
  | none => .null

/-- Counts as JSON. -/
def Usage.toJson (usage : Usage) : Json :=
  .object [("prompt_tokens", intOrNull usage.promptTokens), ("completion_tokens", intOrNull usage.completionTokens),
    ("total_tokens", intOrNull usage.totalTokens)]

/-- A message of a choice as JSON. -/
def ReplyMessage.toJson (message : ReplyMessage) : Json :=
  .object [("role", .text message.role.name), ("content", textOrNull message.content),
    ("tool_calls", match message.calls with
      | some calls => .list (calls.map ToolCall.toJson)
      | none => .null),
    ("refusal", textOrNull message.refusal)]

/-- A choice as JSON. -/
def Choice.toJson (choice : Choice) : Json :=
  .object [("finish_reason", textOrNull choice.finishReason), ("message", choice.message.toJson)]

/-- A completion as JSON. -/
def Completion.toJson (completion : Completion) : Json :=
  .object [
    ("id", match completion.id with
      | some (.number n) => .int n
      | some (.text s) => .text s
      | none => .null),
    ("created", intOrNull completion.created),
    ("model", textOrNull completion.model),
    ("usage", match completion.usage with
      | some usage => usage.toJson
      | none => .null),
    ("choices", .list (completion.choices.map Choice.toJson))]

/-! Reading completions. -/

/-- The names of all roles. -/
def roleNames : List String := ["assistant", "system", "tool", "user"]

/-- The reasons for which an answer may end. -/
def finishReasons : List String := ["stop", "length", "tool_calls", "content_filter", "function_call"]

/-- Reads counts from the members of a mapping. -/
def Usage.checkFields (fields : Fields Value) : Checked Usage := do
  let count (name : String) := Check.optional fields name none (Check.nullable Check.int)
  let (prompt, completion, total) ←
    Checked.both (count "prompt_tokens") (.both (count "completion_tokens") (count "total_tokens"))
  return ⟨prompt, completion, total⟩

/-- Reads counts. -/
def Usage.check (value : Value) : Checked Usage := do Usage.checkFields (← Check.parts value)

/-- Reads the message of a choice from its members. -/
def ReplyMessage.checkFields (fields : Fields Value) : Checked ReplyMessage := do
  let (role, content, calls, refusal) ← Checked.both
    (Check.optional fields "role" "assistant" (Check.oneOf roleNames))
    (.both (Check.optional fields "content" none (Check.nullable Check.text))
      (.both (Check.optional fields "tool_calls" none (Check.nullable (Check.list ToolCall.check)))
        (Check.optional fields "refusal" none (Check.nullable Check.text))))
  return ⟨Message.roleOf role, content, calls, refusal⟩

/-- Reads the message of a choice. -/
def ReplyMessage.check (value : Value) : Checked ReplyMessage := do
  ReplyMessage.checkFields (← Check.parts value)

/-- Reads why an answer ends. -/
def checkFinishReason : Value → Checked (Option String) := Check.nullable (Check.oneOf finishReasons)

/-- Reads a choice. -/
def Choice.check (value : Value) : Checked Choice := do
  let fields ← Check.parts value
  let (reason, message) ← Checked.both (Check.optional fields "finish_reason" none checkFinishReason)
    (Check.required fields "message" ReplyMessage.check)
  return ⟨reason, message⟩

/-- Issues placed under a name. -/
def placed (name : String) (issues : List Issue) : List Issue :=
  issues.map fun issue => { issue with place := .name name :: issue.place }

/-- Reads an identity: a text as it is, else a number, else what can be read as a text. -/
def CompletionId.check (value : Value) : Checked CompletionId :=
  match value with
  | .text s | .safe s => .ok (.text s)
  | value =>
    match Check.int value, Check.text value with
    | .ok n, _ => .ok (.number n)
    | .error _, .ok s => .ok (.text s)
    | .error notNumber, .error notText => .error (placed "int" notNumber ++ placed "str" notText)

/-- Reads a completion. -/
def Completion.check (value : Value) : Checked Completion := do
  let fields ← Check.parts value
  let (id, created, model, usage, choices) ← Checked.both
    (Check.optional fields "id" none (Check.nullable CompletionId.check))
    (.both (Check.optional fields "created" none (Check.nullable Check.int))
      (.both (Check.optional fields "model" none (Check.nullable Check.text))
        (.both (Check.optional fields "usage" none (Check.nullable Usage.check))
          (Check.required fields "choices" (Check.list Choice.check)))))
  return ⟨id, created, model, usage, choices⟩

end Colloquy
