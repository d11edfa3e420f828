import Colloquy.Check.Json
import Colloquy.Config.Setting
import Colloquy.Context.Basic

/-! Configurations: the model, how each provider is reached, parameters for every request, and how much is logged. The
key of the first provider may also stand in a place of its own, from where it is moved unless a key is there already. -/
namespace Colloquy

/-- A configuration. -/
structure Config where
  model : String
  providers : Fields (Fields Value)
  requestParams : Fields Json
  logLevel : String
  deriving Inhabited

/-- Why a configuration is refused: its parts are malformed, or one cannot be used as a mapping at all. -/
inductive ConfigError where
  | malformed (issues : List Issue)
  | misuse (cause : Misuse)

namespace Config

/-- The configuration that says nothing. -/
def standard : Config := ⟨Context.defaultModel, [], [], "WARNING"⟩

/-- The provider whose key may stand in a place of its own. -/
def tokenProvider : Setting := .text "openai"

/-- The providers with a key for the first of them, unless it has one. -/
def withToken (providers : Option Setting) (token : Setting) : Except Misuse Setting := do
  let providers ← Setting.entriesOr providers
  let settings ← Setting.entriesOr (Setting.valueUnder providers tokenProvider)
  let key := (Setting.valueUnder settings (.text "api_key")).getD token
  return .mapping (Setting.put providers tokenProvider (.mapping (Setting.put settings (.text "api_key") key)))

/-- Moves a key from its own place to the provider's; everything else is left as it is. -/
def moveToken (setting : Setting) : Except Misuse Setting :=
  match setting with
  | .mapping entries =>
    match Setting.valueUnder entries tokenProvider with
    | some (.mapping own) =>
      match Setting.valueUnder own (.text "token") with
      | some token => do
        let providers ← withToken (Setting.valueUnder entries (.text "providers")) token
        return .mapping (Setting.put (Setting.drop entries tokenProvider) (.text "providers") providers)
      | none => return setting
    | _ => return setting
  | _ => return setting

/-- Checks the entries of a mapping, each name being a text. -/
def checkEntries {α : Type} (check : Setting → Checked α) (setting : Setting) : Checked (Fields α) :=
  match setting with
  | .mapping entries => .all (entries.map fun (name, value) =>
      Checked.within name.step (Checked.both ((Check.text name.toValue).within (.name "[key]")) (check value)))
  | _ => .complain .dictType

/-- Reads an entry that may be missing. -/
def entry {α : Type} (entries : List (Setting × Setting)) (name : String) (fallback : α)
    (check : Setting → Checked α) : Checked α :=
  match Setting.valueUnder entries (.text name) with
  | some setting => (check setting).within (.name name)
  | none => .ok fallback

/-- Reads a text. -/
def checkText (setting : Setting) : Checked String := Check.text setting.toValue

/-- Reads the settings of a provider, which may hold anything. -/
def checkProvider : Setting → Checked (Fields Value) := checkEntries fun setting => .ok setting.toValue

/-- Reads the parameters of requests. -/
def checkParams : Setting → Checked (Fields Json) := checkEntries fun setting => setting.datum.json

/-- Reads a configuration whose key is in its place. -/
def checkMoved : Setting → Checked Config
  | .mapping entries => do
    let (model, providers, requestParams, logLevel) ← Checked.both (entry entries "model" standard.model checkText)
      (.both (entry entries "providers" standard.providers (checkEntries checkProvider))
        (.both (entry entries "request_params" standard.requestParams checkParams)
          (entry entries "log_level" standard.logLevel checkText)))
    return ⟨model, providers, requestParams, logLevel⟩
  | _ => .complain .modelType

/-- Reads a configuration. -/
def check (setting : Setting) : Except ConfigError Config :=
  match moveToken setting with
  | .ok setting => (checkMoved setting).mapError .malformed
  | .error (.badValue _) => .error (.malformed [⟨.valueError, []⟩])
  | .error cause => .error (.misuse cause)

/-- A configuration as a value. -/
def toValue (config : Config) : Value :=
  .mapping [("model", .text config.model),
    ("providers", .mapping (config.providers.map fun (name, settings) => (name, .mapping settings))),
    ("request_params", .mapping (Value.ofFields config.requestParams)), ("log_level", .text config.logLevel)]

end Config
end Colloquy
