import Colloquy.Run.Evaluate
import Colloquy.Script.Compile

/-! Running sources. All of a source is read before any of it runs, so that one that cannot be read does nothing. -/
namespace Colloquy

/-- Where a script comes from: from markup, from the text of a file, or from an earlier reading. -/
inductive Source where
  | markup (text : String)
  | file (contents : String)
  | compiled (script : Script)

/-- The script that a source holds. -/
def Source.compile : Source → Script.Compiled Script
  | markup text => Script.compile text
  | file contents => Script.load contents
  | compiled script => .ok script

/-- Why a source does not come to its end: it cannot be read, or its run fails. -/
inductive SourceError where
  | unread (error : ScriptError)
  | failed (error : RunError)

/-- Reads a source and runs the script in it, inside the scope of the host if there is one. Gives the scope that holds
the bindings of the script. -/
def Run.source (context : Context Handler) (source : Source) (host : Option Nat) (world : World) :
    Except SourceError Nat × World :=
  match source.compile with
  | .error error => (.error (.unread error), world)
  | .ok found =>
    let (result, after) := Run.script context found host world
    (result.mapError .failed, after)

end Colloquy
