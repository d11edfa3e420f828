import Colloquy.Command.Folder
import Colloquy.Command.Form
import Colloquy.Text.Quoted
import Colloquy.Text.Similar

/-! Reading the command line. Options are taken from left to right until two dashes stand alone; the program's own
options must come before its command, while those of the command may stand anywhere. An option that cannot be read is
reported before anything is asked for, and a request for help before a value that cannot be used. -/
namespace Colloquy.Command

/-- What is wrong with a command line. -/
inductive Objection where
  | noArguments
  | noCommand
  | unknownCommand (name : String) (meant : List String)
  | unknownFlag (name : String) (meant : List String)
  | needsValue (name : String)
  | takesNoValue (name : String)
  | noScript
  | noSuchFile (name path : String)
  | isFolder (name path : String)
  | extraArguments (arguments : List String)
  deriving DecidableEq, Repr

/-- A command line that is refused, and the form that it was read as. -/
structure Refusal where
  form : Form
  objection : Objection
  deriving DecidableEq, Repr

/-- The list of what may have been meant, in the order of texts. -/
def anyOf (names : List String) : String := ", ".intercalate ((names.mergeSort fun a b => a ≤ b).map Text.quoted)

/-- What may have been meant, after the statement that a name is unknown. -/
def suggestion : List String → String
  | [] => ""
  | [name] => " Did you mean " ++ Text.quoted name ++ "?"
  | names => " (Did you mean one of: " ++ anyOf names ++ "?)"

/-- The wording for a value that cannot be used. -/
def badPath (name path fault : String) : String :=
  "Invalid value for " ++ Text.quoted name ++ ": File " ++ Text.quoted path ++ " " ++ fault

/-- The wording of an objection. -/
def Objection.message : Objection → String
  | noArguments => ""
  | noCommand => "Missing command."
  | unknownCommand name meant => "No such command " ++ Text.quoted name ++ "." ++ suggestion meant
  | unknownFlag name meant => "No such option " ++ Text.quoted name ++ "." ++ suggestion meant
  | needsValue name => "Option " ++ Text.quoted name ++ " requires an argument."
  | takesNoValue name => "Option " ++ Text.quoted name ++ " does not take a value."
  | noScript => "Missing argument 'SCRIPT'."
  | noSuchFile name path => badPath name path "does not exist."
  | isFolder name path => badPath name path "is a directory."
  | extraArguments [argument] => "Got unexpected extra argument (" ++ argument ++ ")"
  | extraArguments arguments => "Got unexpected extra arguments (" ++ " ".intercalate arguments ++ ")"

/-- What is printed for a refusal. Without any arguments it is the help; a misplaced value needs no reminder of how the
form is used. -/
def Refusal.text (refusal : Refusal) : String :=
  let error := "Error: " ++ refusal.objection.message ++ "\n"
  match refusal.objection with
  | .noArguments => refusal.form.help
  | .needsValue _ | .takesNoValue _ => error
  | _ => refusal.form.usage ++ refusal.form.hint ++ "\n" ++ error

/-- The options of a command line in order, each with its value if it takes one, and the other arguments. -/
structure Given where
  flags : List (Flag × String)
  others : List String

namespace Given

/-- Puts an option before all else. -/
def withFlag (flag : Flag) (value : String) (given : Given) : Given :=
  { given with flags := (flag, value) :: given.flags }

/-- Puts another argument before all else. -/
def withOther (argument : String) (given : Given) : Given := { given with others := argument :: given.others }

/-- Whether an option is given. -/
def has (given : Given) (flag : Flag) : Bool := given.flags.any fun entry => entry.1 == flag

/-- The last value of an option. -/
def last? (given : Given) (flag : Flag) : Option String :=
  ((given.flags.reverse.find? fun entry => entry.1 == flag).map Prod.snd)

end Given

/-- Whether an argument is meant as an option: a dash and something after it. -/
def looksLikeFlag (argument : String) : Bool :=
  match argument.toList with
  | '-' :: _ :: _ => true
  | _ => false

/-- An argument before its first equals sign, and what follows it. -/
def splitValue (argument : String) : String × Option String :=
  let cs := argument.toList
  let name := String.ofList (cs.takeWhile (· != '='))
  match cs.dropWhile (· != '=') with
  | [] => (name, none)
  | _ :: value => (name, some (String.ofList value))

/-- The options that single letters stand for. -/
def readLetters (form : Form) : List Char → Except Objection (List Flag)
  | [] => .ok []
  | c :: rest =>
    match form.flags.find? fun flag => flag.letter == some c with
    | some flag => (readLetters form rest).map (flag :: ·)
    | none => .error (.unknownFlag (String.ofList ['-', c]) [])

/-- Reads an argument that is meant as an option but names none: letters after a single dash. -/
def readUnnamed (form : Form) (name argument : String) : Except Objection (List Flag) :=
  match argument.toList with
  | '-' :: '-' :: _ => .error (.unknownFlag name (Text.closest (form.flags.map Flag.name) name))
  | _ :: letters => readLetters form letters
  | [] => .ok []

/-- Reads arguments; `mixed` allows options after other arguments. -/
def readArguments (form : Form) (mixed : Bool) : List String → Except Objection Given
  | [] => .ok ⟨[], []⟩
  | argument :: rest =>
    if argument == "--" then .ok ⟨[], rest⟩
    else if !looksLikeFlag argument then
      if mixed then (readArguments form mixed rest).map (.withOther argument) else .ok ⟨[], argument :: rest⟩
    else
      let (name, value) := splitValue argument
      match form.flags.find? fun flag => flag.name == name with
      | some flag =>
        match flag.value.isSome, value, rest with
        | true, some value, rest => (readArguments form mixed rest).map (.withFlag flag value)
        | true, none, value :: rest => (readArguments form mixed rest).map (.withFlag flag value)
        | true, none, [] => .error (.needsValue name)
        | false, none, rest => (readArguments form mixed rest).map (.withFlag flag "")
        | false, some _, _ => .error (.takesNoValue name)
      | none => do
        let flags ← readUnnamed form name argument
        let given ← readArguments form mixed rest
        return flags.foldr (fun flag given => given.withFlag flag "") given

/-- What a run is asked for. -/
structure RunOrder where
  script : String
  config : String
  model : Option String
  verbose : Bool
  deriving DecidableEq, Repr

/-- What a command line asks for. -/
inductive Order where
  | help (form : Form)
  | version
  | run (order : RunOrder)
  deriving DecidableEq, Repr

/-- The path of the script, which must be a file. -/
def scriptPath (look : String → Found) (given : Given) : Except Objection String :=
  match given.others with
  | [] => .error .noScript
  | path :: _ =>
    match look path with
    | .nothing => .error (.noSuchFile "SCRIPT" path)
    | .folder => .error (.isFolder "SCRIPT" path)
    | .file _ => .ok path

/-- The path of a configuration, which need not be there but must not be a folder. -/
def configPath (look : String → Found) (path : String) : Except Objection String :=
  if look path == .folder then .error (.isFolder Flag.config.name path) else .ok path

/-- The configuration and the script of a run; a path that is given is looked at before the one that is assumed. -/
def runPaths (look : String → Found) (assumed : String) (given : Given) : Except Objection (String × String) := do
  match given.last? .config with
  | some path =>
    let config ← configPath look path
    return (config, ← scriptPath look given)
  | none =>
    let script ← scriptPath look given
    return (← configPath look assumed, script)

/-- What the arguments of a run ask for. -/
def readRun (look : String → Found) (assumed : String) (arguments : List String) : Except Objection Order := do
  let given ← readArguments .run true arguments
  if given.has .help then return .help .run
  let (config, script) ← runPaths look assumed given
  let extra := given.others.drop 1
  if !extra.isEmpty then throw (.extraArguments extra)
  return .run ⟨script, config, given.last? .model, given.has .verbose⟩

/-- What the program's own options ask for, if there are any. -/
def ownOrder (given : Given) : Option Order :=
  given.flags.head?.map fun entry => if entry.1 == .version then .version else .help .program

/-- Reads a command line, given what stands under each path and where the configuration is assumed. What stands in the
place of a command and is none may still be an option. -/
def Order.read (look : String → Found) (assumed : String) (arguments : List String) : Except Refusal Order := do
  if arguments.isEmpty then throw ⟨.program, .noArguments⟩
  let given ← (readArguments .program false arguments).mapError (Refusal.mk .program)
  if let some order := ownOrder given then return order
  match given.others with
  | [] => throw ⟨.program, .noCommand⟩
  | name :: rest =>
    if name == "run" then (readRun look assumed rest).mapError (Refusal.mk .run)
    else
      let again ← (readArguments .program false given.others).mapError (Refusal.mk .program)
      if let some order := ownOrder again then return order
      throw ⟨.program, .unknownCommand name (Text.closest (Form.program.commands.map Prod.fst) name)⟩

end Colloquy.Command
