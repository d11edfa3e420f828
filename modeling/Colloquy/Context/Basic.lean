import Colloquy.Check.Json
import Colloquy.Message.Basic
import Colloquy.Tool.Basic
import Colloquy.Value.Call

/-! Contexts: the model that is spoken to, the parameters of every request, and the table of handlers. A change that
is refused leaves a context as it was, and a derived context shares nothing with the one it comes from. -/
namespace Colloquy

/-- A request to a model: the whole conversation so far, and parameters. -/
structure Request where
  model : String
  messages : List Message
  params : Fields Json
  deriving Inhabited

/-- Settings under which a model is asked. Handlers are of any type, since only the table matters here. -/
structure Context (η : Type) where
  model : String
  params : Fields Json
  handlers : Fields η
  deriving Inhabited

/-- Why a setting is refused. -/
inductive SettingError where
  | noModel
  | modelFormat
  | modelAmongParams
  | misuse (cause : Misuse)
  | malformed (issues : List Issue)

/-- The wording for a model that is not a name. -/
def noModelMessage : String := "Model must be a non-empty string"

/-- The wording for a name without a provider. -/
def modelFormatMessage : String :=
  "Model must be in format 'provider:identifier' (e.g., 'openai:gpt-4o' or 'anthropic:claude-3-5-haiku-latest')"

/-- The wording for a model among the parameters. -/
def modelAmongParamsMessage : String := "'model' should be set separately"

namespace Context
variable {η : Type}

/-- The model that is asked unless another one is set. -/
def defaultModel : String := "openai:gpt-3.5-turbo-1106"

/-- The name of a model: a text that is not empty and names a provider before a colon. -/
def modelName (value : Value) : Except SettingError String :=
  match value.text? with
  | none => .error .noModel
  | some name =>
    if name.isEmpty then .error .noModel else if name.contains ':' then .ok name else .error .modelFormat

/-- Whether what a value lists as names of members are texts. -/
def namesAreTexts (value : Value) : Bool :=
  match value, value.collect with
  | .mapping _, _ => true
  | _, .ok pairs => pairs.all fun pair =>
    match pair.collect with
    | .ok (name :: _) => name.text?.isSome
    | _ => true
  | _, .error _ => true

/-- Parameters with the given members: all of them JSON, and the model not among them. -/
def paramsOf (members : Fields Value) : Except SettingError (Fields Json) :=
  match Check.json (.mapping members) with
  | .error issues => .error (.malformed issues)
  | .ok (.object params) => if Fields.has params "model" then .error .modelAmongParams else .ok params
  | .ok _ => .ok []

/-- Parameters: the members of a mapping or of a list of pairs; nothing at all means none. -/
def readParams (value : Value) : Except SettingError (Fields Json) := do
  let members ← if value.isTrue then value.asMembers.mapError .misuse else pure []
  if !namesAreTexts value then throw (.malformed [⟨.invalidJson, []⟩])
  paramsOf members

/-- A context with settings of its own. -/
def make (model params : Value) (handlers : Fields η) : Except SettingError (Context η) := do
  let name ← modelName model
  return ⟨name, ← readParams params, handlers⟩

/-- Sets the model. -/
def setModel (context : Context η) (model : Value) : Except SettingError (Context η) := do
  return { context with model := ← modelName model }

/-- Sets the parameters. -/
def setParams (context : Context η) (params : Value) : Except SettingError (Context η) := do
  return { context with params := ← readParams params }

/-- The context with more handlers, which come before its own. -/
def withHandlers (context : Context η) (more : Fields η) : Context η :=
  { context with handlers := context.handlers.merge more }

/-- The provider of a model. -/
def provider (model : String) : String := String.ofList (model.toList.takeWhile (· != ':'))

/-- How a provider is told which tool to call: the named one, or any. -/
def toolChoice (provider : String) (choice : Option String) : Json :=
  match choice.bind Schema.nonEmpty, provider == "anthropic" with
  | some name, true => .object [("type", .text "tool"), ("name", .text name)]
  | none, true => .object [("type", .text "auto")]
  | some name, false => .object [("type", .text "function"), ("function", .object [("name", .text name)])]
  | none, false => .text "auto"

/-- The parameters that offer tools. -/
def toolParams (model : String) (tools : List Tool) (choice : Option String) : Fields Json :=
  [("tools", .list (tools.map Tool.toWire)), ("tool_choice", toolChoice (provider model) choice)]

/-- The request for the next message of a conversation. Another model may be asked this once; without tools there is
nothing to choose. -/
def request (context : Context η) (messages : List Message) (tools : List Tool) (choice model : Option String) :
    Request :=
  let model := (model.bind Schema.nonEmpty).getD context.model
  ⟨model, messages, if tools.isEmpty then context.params else context.params.merge (toolParams model tools choice)⟩

/-- Whether a parameter has the name under which a client is given the model or the messages. -/
def clash (params : Fields Json) : Bool := params.has "model" || params.has "messages"

/-- The request as a client is called with it. Nothing can be given twice, so it fails if a parameter clashes. -/
def call (context : Context η) (messages : List Message) (tools : List Tool) (choice model : Option String) :
    Except Misuse Request :=
  let request := context.request messages tools choice model
  if clash request.params then .error .wrongType else .ok request

end Context
end Colloquy
