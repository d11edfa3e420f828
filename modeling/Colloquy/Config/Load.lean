import Colloquy.Config.Basic
import Colloquy.Yaml.Load

/-! Loading configurations. A file that is not there and one that says nothing both leave every setting at its default;
only the first is worth a warning. -/
namespace Colloquy

/-- Why a configuration cannot be loaded. -/
inductive LoadError where
  | yaml (problem : Yaml.Problem)
  | config (error : ConfigError)

/-- The warning for a file that is not there. -/
def noConfigMessage (path : String) : String := "No configuration found at " ++ path ++ ", using defaults"

namespace Config

/-- The file that holds the configuration unless another one is named. -/
def defaultPath : String := "config.yaml"

/-- The configuration that a setting says; one that counts as false says nothing. -/
def ofSetting (setting : Setting) : Except ConfigError Config := check (if setting.isTrue then setting else .mapping [])

/-- The configuration in a text. -/
def parse (text : String) : Except LoadError Config := do
  let setting ← (Yaml.load text).mapError .yaml
  (ofSetting setting).mapError .config

/-- Loads the configuration from the text of a file, if there is one, with the warnings to give. -/
def load (path : String) : Option String → Except LoadError Config × List String
  | some text => (parse text, [])
  | none => (.ok standard, [noConfigMessage path])

end Config
end Colloquy
