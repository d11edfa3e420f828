/-! The forms of the command line: the program by itself, and its only command. A form knows its options and the texts
that explain it. -/
namespace Colloquy.Command

/-- An option. -/
inductive Flag where
  | help
  | version
  | config
  | model
  | verbose
  deriving DecidableEq, Repr

namespace Flag

/-- The name of an option, as it is typed. -/
def name : Flag → String
  | help => "--help"
  | version => "--version"
  | config => "--config"
  | model => "--model"
  | verbose => "--verbose"

/-- The letter that may stand for an option. -/
def letter : Flag → Option Char
  | verbose => some 'v'
  | _ => none

/-- What kind of value an option takes, if it takes one. -/
def value : Flag → Option String
  | config => some "FILE"
  | model => some "TEXT"
  | _ => none

/-- What an option is for. -/
def purpose : Flag → String
  | help => "Show this message and exit."
  | version => "Show the version and exit."
  | config => "YAML configuration file.  [default: config.yaml]"
  | model => "Override the configured model ('provider:identifier')."
  | verbose => "Log debug output."

/-- How an option is listed: the letter before the name, and the kind of value after it. -/
def label (flag : Flag) : String :=
  (flag.letter.elim "" fun c => "-" ++ c.toString ++ ", ") ++ flag.name ++ flag.value.elim "" (" " ++ ·)

end Flag

/-- A form of the command line. -/
inductive Form where
  | program
  | run
  deriving DecidableEq, Repr

namespace Form

/-- The words that lead to a form. -/
def path : Form → String
  | program => "main"
  | run => "main run"

/-- What stands after those words. -/
def arguments : Form → String
  | program => "[OPTIONS] COMMAND [ARGS]..."
  | run => "[OPTIONS] SCRIPT"

/-- What a form is for. -/
def purpose : Form → String
  | program => "Run conversation scripts against an LLM."
  | run => "Evaluate SCRIPT and print its top-level bindings as JSON."

/-- The options of a form. -/
def flags : Form → List Flag
  | program => [.version, .help]
  | run => [.config, .model, .verbose, .help]

/-- The commands of a form, each with its name. -/
def commands : Form → List (String × Form)
  | program => [("run", .run)]
  | run => []

/-- The line that shows how a form is used. -/
def usage (form : Form) : String := "Usage: " ++ form.path ++ " " ++ form.arguments ++ "\n"

/-- The line that points to the help. -/
def hint (form : Form) : String := "Try '" ++ form.path ++ " --help' for help.\n"

/-- Two columns, the second one two spaces right of the longest entry in the first. -/
def columns (rows : List (String × String)) : String :=
  let width := (rows.map fun row => row.1.length).foldl max 0
  String.join (rows.map fun (left, right) =>
    "  " ++ left ++ String.ofList (List.replicate (width - left.length) ' ') ++ "  " ++ right ++ "\n")

/-- A titled list, unless it is empty. -/
def listing (title : String) (rows : List (String × String)) : String :=
  if rows.isEmpty then "" else "\n" ++ title ++ ":\n" ++ columns rows

/-- The help for a form. -/
def help (form : Form) : String :=
  form.usage ++ "\n  " ++ form.purpose ++ "\n"
    ++ listing "Options" (form.flags.map fun flag => (flag.label, flag.purpose))
    ++ listing "Commands" (form.commands.map fun (name, command) => (name, command.purpose))

end Form

/-- The line that names the version. -/
def versionLine : String := "convoscript, version 0.1.0\n"

end Colloquy.Command
