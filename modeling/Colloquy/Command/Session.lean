import Colloquy.Command.Arguments
import Colloquy.Config.Load
import Colloquy.Config.LogLevel
import Colloquy.Run.Evaluate
import Colloquy.Script.Compile
import Colloquy.Text.Terminal

/-! The command line as a whole: what a use of the program prints, logs and sends, and with which code it ends. A person
at the terminal sees every question with a colon, the answer that was typed after it, and everything that is up for
review. A mistake in a script or in a setting is told to whoever runs it; any other failure ends the program as it is. -/
namespace Colloquy

/-- What an event adds to the terminal. -/
def Event.shown : Event → String
  | .asked prompt => Text.plain prompt ++ ": "
  | .answered answer => answer.getD "" ++ "\n"
  | .displayed content => Text.plain content ++ "\n"
  | _ => ""

/-- What the terminal shows after some events. -/
def transcript (history : List Event) : String := String.join (history.map Event.shown)

namespace Command

/-- A failure that is not told but ends the program. -/
inductive Failure where
  | configFolder
  | yaml (problem : Yaml.Problem)
  | config (cause : Misuse)
  | setting (cause : Misuse)
  | run (error : RunError)

/-- How a run of a script ends. -/
inductive Ending where
  | finished (bindings : Fields Value)
  | told (message : String)
  | aborted
  | failed (failure : Failure)

/-- What a use of the program leaves behind. The levels are those that the log was set to; the providers are those of
the client, if one was made. -/
structure Outcome where
  exitCode : Nat
  output : String
  errors : String
  failure : Option Failure
  levels : List Int
  providers : Option (Fields (Fields Value))
  warnings : List String
  history : List Event

namespace Outcome

/-- Nothing happened but what was printed. -/
def printed (exitCode : Nat) (output errors : String) : Outcome := ⟨exitCode, output, errors, none, [], none, [], []⟩

/-- What bindings are printed as. -/
def result (bindings : Fields Value) : String :=
  match (Value.mapping bindings).toJson true with
  | .ok json => Json.write .indented json ++ "\n"
  | .error _ => ""

/-- Ends a run. -/
def close (outcome : Outcome) : Ending → Outcome
  | .finished bindings => { outcome with output := outcome.output ++ result bindings }
  | .told message => { outcome with exitCode := 1, errors := Text.plain ("Error: " ++ message ++ "\n") }
  | .aborted => { outcome with exitCode := 1, errors := "Aborted!\n" }
  | .failed failure => { outcome with exitCode := 1, failure := some failure }

end Outcome

/-- A list of issues in words, for whoever wrote the data. -/
def issuesMessage (issues : List Issue) : String :=
  "invalid data: " ++ ", ".intercalate (issues.map fun issue => issue.complaint.name)

/-- How a misuse ends a run: a value that is no good is told. -/
def endMisuse (failure : Misuse → Failure) : Misuse → Ending
  | .badValue message => .told message
  | cause => .failed (failure cause)

/-- How an error ends a run. -/
def endRun : RunError → Ending
  | .outOfAnswers => .aborted
  | .malformed issues => .told (issuesMessage issues)
  | .unknownTool name => .told (unknownToolMessage name)
  | .layout fault => .told fault.message
  | .binding error => .told error.message
  | .evaluation (.unknownFilter name) => .told (unknownFilterMessage name)
  | .evaluation (.misuse cause) => endMisuse (fun cause => .run (.evaluation (.misuse cause))) cause
  | .misuse cause => endMisuse (fun cause => .run (.misuse cause)) cause
  | error => .failed (.run error)

/-- How an error in a configuration ends a run. -/
def endLoad : LoadError → Ending
  | .yaml problem => .failed (.yaml problem)
  | .config (.malformed issues) => .told (issuesMessage issues)
  | .config (.misuse cause) => .failed (.config cause)

/-- How an error in a setting ends a run. -/
def endSetting : SettingError → Ending
  | .noModel => .told noModelMessage
  | .modelFormat => .told modelFormatMessage
  | .modelAmongParams => .told modelAmongParamsMessage
  | .malformed issues => .told (issuesMessage issues)
  | .misuse cause => endMisuse .setting cause

/-- A part of a run, which goes on with a result or ends it, and leaves behind what was done. -/
abbrev Session := ExceptT Ending (StateM Outcome)

namespace Session

/-- A result, or how an error ends the run. -/
def need {ε α : Type} (ending : ε → Ending) (outcome : Except ε α) : Session α :=
  match outcome with
  | .ok result => pure result
  | .error error => throw (ending error)

/-- Loads the configuration. -/
def loadConfig (look : String → Found) (path : String) : Session Config := do
  let path := tidyPath path
  let found := look path
  if found == .folder then throw (.failed .configFolder)
  let (config, warnings) := Config.load path found.text?
  modify fun outcome => { outcome with warnings := outcome.warnings ++ warnings }
  need endLoad config

/-- Sets the log to a level. -/
def setLevel (verbose : Bool) (config : Config) : Session Unit := do
  let level ← need Ending.told (if verbose then .ok LogLevel.debug else LogLevel.named config.logLevel)
  modify fun outcome => { outcome with levels := outcome.levels ++ [level] }

/-- Makes the client and the context of the run. A model that is asked for comes before the configured one. -/
def openContext (model : Option String) (config : Config) : Session (Context Handler) := do
  modify fun outcome => { outcome with providers := some config.providers }
  let model := (model.bind Schema.nonEmpty).getD config.model
  need endSetting
    (Context.make (.text model) (.mapping (Value.ofFields config.requestParams)) [("ask", .ask), ("code", .code)])

/-- Runs a script in a world. -/
def runScript (context : Context Handler) (script : Script) (world : World) : Session (Fields Value) := do
  let (ended, world) := Run.script context script none world
  modify fun outcome => { outcome with
    output := outcome.output ++ transcript world.history
    warnings := outcome.warnings ++ world.warnings
    history := outcome.history ++ world.history }
  let body ← need endRun ended
  return world.store.viewAll (world.store.bindingsOf body)

/-- Carries out an order to run a script. -/
def serve (look : String → Found) (replies : List Reply) (input : String) (order : RunOrder) :
    Session (Fields Value) := do
  let config ← loadConfig look order.config
  setLevel order.verbose config
  let context ← openContext order.model config
  let script ← need (fun (error : ScriptError) => .told error.message)
    (Script.load (((look order.script).text?).getD ""))
  runScript context script (World.start Store.empty replies ((Text.inputLines input).map some))

end Session

/-- Uses the program: the arguments, what stands under each path, the model's replies and what is typed. -/
def perform (look : String → Found) (replies : List Reply) (input : String) (arguments : List String) : Outcome :=
  match Order.read look Config.defaultPath arguments with
  | .error refusal => .printed 2 "" (Text.plain refusal.text)
  | .ok (.help form) => .printed 0 form.help ""
  | .ok .version => .printed 0 versionLine ""
  | .ok (.run order) =>
    match (Session.serve look replies input order).run (.printed 0 "" "") with
    | (.ok bindings, outcome) => outcome.close (.finished bindings)
    | (.error ending, outcome) => outcome.close ending

end Command
end Colloquy
