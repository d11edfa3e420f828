import Colloquy.Outline
import Colloquy.Value.Basic
import Colloquy.Text.Quoted
import Colloquy.Json.Writer

/-! Values as text. A value is shown in the notation of literals, texts in quotes; a text by itself is its
characters. A message is shown as an outline of its fields, and by itself as its fields in a row. -/
namespace Colloquy.Value

mutual

/-- The JSON of a message's fields: texts, lists and the fields of its parts. -/
def dump : Value → Json
  | null => .null
  | bool b => .bool b
  | int n => .int n
  | float x => .float x
  | text s | safe s => .text s
  | list items | tuple items => .list (dumpItems items)
  | mapping fields | model _ fields => .object (dumpFields fields)
  | _ => .null

/-- The JSON of several fields' items. -/
def dumpItems : List Value → List Json
  | [] => []
  | item :: rest => dump item :: dumpItems rest

/-- The JSON of named fields. -/
def dumpFields : List (String × Value) → List (String × Json)
  | [] => []
  | (name, value) :: rest => (name, dump value) :: dumpFields rest

end

/-- The fields that are not null, as they are sent. -/
def present (fields : List (String × Json)) : List (String × Json) :=
  fields.filter fun
    | (_, .null) => false
    | _ => true

/-- Parts that are shown one after the other with commas. -/
def commas (parts : List String) : String := ", ".intercalate parts

/-- The notation of a range; a step of one is left out. -/
def showRange (start stop step : Int) : String :=
  "range(" ++ toString start ++ ", " ++ toString stop ++
    (if step == 1 then "" else ", " ++ toString step) ++ ")"

/-- The outline by which a message is shown; one that cannot be laid out is shown as one line. -/
def showMessage (fields : List (String × Json)) : String :=
  match Outline.lay .standard 0 (.ofJson (.object (present fields))) with
  | .ok shown => shown
  | .error _ => Json.write .spaced (.object (present fields))

/-- How an object that nothing is known about is shown. -/
def foreignText : String := "<opaque>"

mutual

/-- The notation of a value. -/
def shown : Value → String
  | null => "None"
  | bool b => if b then "True" else "False"
  | int n => toString n
  | float x => Decimal.floatText x
  | text s => Text.quoted s
  | safe s => "Markup(" ++ Text.quoted s ++ ")"
  | bytes data => Text.quotedBytes data
  | list items => "[" ++ commas (shownItems items) ++ "]"
  | tuple [item] => "(" ++ shown item ++ ",)"
  | tuple items => "(" ++ commas (shownItems items) ++ ")"
  | mapping fields => "\x7b" ++ commas (shownMembers fields) ++ "\x7d"
  | range start stop step => showRange start stop step
  | stream _ _ => "<generator>"
  | model kind fields =>
    if kind.isMessage then showMessage (dumpFields fields)
    else kind.name ++ "(" ++ commas (shownFields fields) ++ ")"
  | function _ => "<function>"
  | scope depth bindings =>
    "Scope(depth=" ++ toString depth ++ ", bindings=[" ++
      commas (bindings.map fun (name, _) => Text.quoted name) ++ "])"
  | foreign => foreignText

/-- The notations of several values. -/
def shownItems : List Value → List String
  | [] => []
  | item :: rest => shown item :: shownItems rest

/-- The members of a mapping, each a quoted name, a colon and a value. -/
def shownMembers : List (String × Value) → List String
  | [] => []
  | (name, value) :: rest => (Text.quoted name ++ ": " ++ shown value) :: shownMembers rest

/-- The fields of a message's part, each a name, an equals sign and a value. -/
def shownFields : List (String × Value) → List String
  | [] => []
  | (name, value) :: rest => (name ++ "=" ++ shown value) :: shownFields rest

end

/-- The text of a value by itself. -/
def asText : Value → String
  | text s | safe s => s
  | model _ fields => " ".intercalate (shownFields fields)
  | value => value.shown

mutual

/-- The JSON of a value. What JSON has no form for is written as its text when `lenient`, and is a misuse
otherwise. -/
def toJson (lenient : Bool) : Value → Except Misuse Json
  | null => .ok .null
  | bool b => .ok (.bool b)
  | int n => .ok (.int n)
  | float x => .ok (.float x)
  | text s | safe s => .ok (.text s)
  | list items | tuple items => (toJsonItems lenient items).map .list
  | mapping fields => (toJsonFields lenient fields).map .object
  | value => if lenient then .ok (.text value.asText) else .error .wrongType

/-- The JSON of several values. -/
def toJsonItems (lenient : Bool) : List Value → Except Misuse (List Json)
  | [] => .ok []
  | item :: rest =>
    match toJson lenient item with
    | .error misuse => .error misuse
    | .ok first => (toJsonItems lenient rest).map (first :: ·)

/-- The JSON of named values. -/
def toJsonFields (lenient : Bool) : List (String × Value) → Except Misuse (List (String × Json))
  | [] => .ok []
  | (name, value) :: rest =>
    match toJson lenient value with
    | .error misuse => .error misuse
    | .ok first => (toJsonFields lenient rest).map ((name, first) :: ·)

end

/-- The text that a value contributes to a message: texts as they are, messages and data as JSON, anything else
as its own text. -/
def messageText (value : Value) : String :=
  match value with
  | text s | safe s => s
  | model _ fields => Json.write .compact (.object (dumpFields fields))
  | mapping _ | list _ | tuple _ | bool _ | null =>
    match value.toJson true with
    | .ok json => Json.write .spaced json
    | .error _ => value.asText
  | other => other.asText

mutual

/-- The outline of a value; what is neither a list, a mapping nor a text is one word. -/
def outline : Value → Outline
  | null => .word "null"
  | bool b => .word (if b then "true" else "false")
  | text s | safe s => .text s
  | list items => .list (outlineItems items)
  | mapping fields => .object (outlineFields fields)
  | value => .word value.asText

/-- The outlines of several values. -/
def outlineItems : List Value → List Outline
  | [] => []
  | item :: rest => outline item :: outlineItems rest

/-- The outlines of named values. -/
def outlineFields : List (String × Value) → List (String × Outline)
  | [] => []
  | (name, value) :: rest => (name, outline value) :: outlineFields rest

end

end Colloquy.Value
