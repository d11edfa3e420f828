import Colloquy.Fields
import Colloquy.Json.Basic
import Colloquy.Text.Case

/-! How much is logged. A level is a number, or a name in any case; libraries that log every request stay at
warnings. -/
namespace Colloquy.LogLevel

/-- The names of levels. -/
def names : Fields Int := [("CRITICAL", 50), ("FATAL", 50), ("ERROR", 40), ("WARN", 30), ("WARNING", 30), ("INFO", 20),
  ("DEBUG", 10), ("NOTSET", 0)]

/-- The level of warnings. -/
def warning : Int := 30

/-- The level of everything that helps to find faults. -/
def debug : Int := 10

/-- How a line of the log is laid out. -/
def lineFormat : String := "%(asctime)s - %(levelname)-8s - %(name)s - %(funcName)s:%(lineno)d - %(message)s"

/-- Libraries that log every request. -/
def noisy : List String := ["httpx", "httpcore", "openai", "anthropic"]

/-- The wording for a name that is no level. -/
def unknownMessage (name : String) : String := "Unknown log level: Level " ++ name

/-- The level of a name; none if it is no level. -/
def named? (name : String) : Option Int := names.get? (Text.upper name)

/-- The level of a name, or the wording of the error. -/
def named (name : String) : Except String Int :=
  match named? name with
  | some level => .ok level
  | none => .error (unknownMessage (Text.upper name))

/-- The level of the libraries that log every request. -/
def quiet (level : Int) : Int := max level warning

/-- Why the log cannot be set up. -/
inductive Fault where
  | unknown (message : String)
  | wrongType
  deriving DecidableEq, Repr

/-- How the log is set up: all settings, and the level of the libraries that log every request. -/
structure Setup where
  settings : Fields Json
  quiet : Int

/-- Whether a number is below the level of warnings. -/
def isLower (x : Float) : Bool := x < 30

/-- A level as it is set, with the level of the libraries that log every request; a fraction is no level for these. -/
def read : Json → Except Fault (Json × Int)
  | .text name => ((named name).mapError .unknown).map fun level => (.int level, quiet level)
  | .int level => .ok (.int level, quiet level)
  | .bool b => .ok (.bool b, quiet (if b then 1 else 0))
  | .float x => if isLower x then .ok (.float x, warning) else .error .wrongType
  | _ => .error .wrongType

/-- Sets up the log at a level, with more settings. Neither the level nor the layout can be set twice. -/
def setup (level : Option Json) (more : Fields Json) : Except Fault Setup := do
  if level.isSome && more.has "level" then throw .wrongType
  let (level, quiet) ← read ((level <|> more.get? "level").getD (.int warning))
  if more.has "format" then throw .wrongType
  return ⟨((more.drop "level").put "format" (.text lineFormat)).put "level" level, quiet⟩

end Colloquy.LogLevel
