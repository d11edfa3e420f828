import Colloquy.Command.Session
import Colloquy.Json.Reader

/-! The program. Files are read before anything is decided; what the model replies is taken from recorded replies, one
JSON object on each line, so that a script can be tried without a connection. -/
namespace Colloquy.Command

/-- The file with the recorded replies. -/
def repliesPath : String := "replies.jsonl"

/-- Every path that the arguments may name: the configuration's own, the arguments, and values after an equals sign. -/
def pathsIn (arguments : List String) : List String :=
  Config.defaultPath :: arguments ++ arguments.filterMap fun argument => (splitValue argument).2

/-- Looks at what stands under a path. -/
def lookAt (path : String) : IO Found := do
  try
    let place ← IO.FS.realPath path
    if ← place.isDir then return .folder
    if ← place.pathExists then return .file (← IO.FS.readFile place)
    return .nothing
  catch _ => return .nothing

/-- The replies in the text of a file; a line that is no JSON is passed over. -/
def repliesIn (text : String) : List Reply :=
  (Text.inputLines text).filterMap fun line => (Json.read? line).map fun reply => .data (.ofJson reply)

/-- What was found under a path. -/
def foundIn (found : List (String × Found)) (path : String) : Found :=
  ((found.find? fun entry => entry.1 == path).map Prod.snd).getD .nothing

/-- Whether arguments ask for a run, for which something may be typed. -/
def asksForRun (look : String → Found) (arguments : List String) : Bool :=
  match Order.read look Config.defaultPath arguments with
  | .ok (.run _) => true
  | _ => false

end Colloquy.Command

/-- Uses the program with the arguments it was called with. -/
def main (arguments : List String) : IO UInt32 := do
  let paths := (Colloquy.Command.pathsIn arguments).flatMap fun path => [path, Colloquy.Command.tidyPath path]
  let look := Colloquy.Command.foundIn (← paths.mapM fun path => do return (path, ← Colloquy.Command.lookAt path))
  let replies ← Colloquy.Command.lookAt Colloquy.Command.repliesPath
  let input ← if Colloquy.Command.asksForRun look arguments then (← IO.getStdin).readToEnd else pure ""
  let outcome := Colloquy.Command.perform look (Colloquy.Command.repliesIn ((replies.text?).getD "")) input arguments
  IO.print outcome.output
  for warning in outcome.warnings do IO.eprintln warning
  IO.eprint outcome.errors
  if outcome.failure.isSome then IO.eprintln "The run failed."
  return UInt32.ofNat outcome.exitCode
