import Colloquy.Markup.Reader
import Colloquy.Script.Basic
import Colloquy.Text.Dedent
import Colloquy.Text.Lines

/-! Reading scripts from markup. All templates are parsed and all attributes checked here, so a malformed script fails
before any of it runs. A tag that means nothing where it stands is kept by its name and has no effect. -/
namespace Colloquy.Script
open Colloquy.Markup

/-- The outcome of reading a part of a script. -/
abbrev Compiled (α : Type) := Except ScriptError α

/-- The fragments of a text. -/
def fragments (text : String) : Compiled (List Fragment) :=
  (Fragment.parse text).mapError .ofText

/-- An attribute that must be there and not be empty. -/
def require (e : Element) (name : String) : Compiled String :=
  match (e.get? name).bind Schema.nonEmpty with
  | some value => .ok value
  | none => .error (.configuration (.missingAttribute e.tag name))

/-- The parameters that an element declares. -/
def parameters (e : Element) : Compiled Schema :=
  (Schema.ofElement e).mapError fun bad => .configuration (.badLimit bad)

/-- The text of a message as it is meant: without common indentation and outer blanks. -/
def messageText (e : Element) : String := Text.trim (Text.dedent e.text)

/-- The template that a message element holds. -/
def template (role : Role) (e : Element) : Compiled Template :=
  let text := messageText e
  if text.isEmpty then .error (.configuration (.emptyMessage e.tag))
  else (fragments text).map fun fragments => ⟨role, fragments⟩

/-- The question that an element asks: its text for the person, or else the name of the answer. -/
def prompt (e : Element) : Compiled Prompt := do
  let store ← require e "store"
  return ⟨← fragments ((e.get? "user").getD store), store⟩

/-- The tool that an element declares. -/
def tool (e : Element) : Compiled Tool := do
  let name ← require e "name"
  return ⟨name, Schema.descriptionOf e.attributes, ← parameters e, e.get? "action"⟩

/-- The role of a message element. -/
def messageRole? (tag : String) : Option Role :=
  if tag == "system" then some .system else if tag == "user" then some .user else none

/-- An item of a chat. -/
def chatItem (e : Element) : Compiled ChatItem :=
  match messageRole? e.tag with
  | some role => (template role e).map .message
  | none =>
    if e.tag == "p" then (prompt e).map .prompt
    else if e.tag == "tool" then (tool e).map .tool
    else if e.tag == "response" then .ok .response
    else .ok (.unknown e.tag)

/-- The templates of the messages among some elements. -/
def templates : List Element → Compiled (List Template)
  | [] => .ok []
  | e :: rest =>
    match messageRole? e.tag with
    | none => templates rest
    | some role =>
      match template role e with
      | .error error => .error error
      | .ok first => (templates rest).map (first :: ·)

/-- What an element asks the model to produce and to store. -/
def generation (e : Element) (store : String) : Compiled Generation := do
  let messages ← templates e.elements
  if messages.isEmpty then throw (.configuration (.noMessages e.tag store))
  let parameters ← parameters e
  return ⟨store, ⟨store, Schema.descriptionOf e.attributes, parameters, none⟩, messages,
    e.elements.any fun child => child.tag == "feedback"⟩

/-- What each of some elements compiles to. -/
def compileAll {α : Type} (compile : Element → Compiled α) : List Element → Compiled (List α)
  | [] => .ok []
  | e :: rest =>
    match compile e with
    | .error error => .error error
    | .ok first => (compileAll compile rest).map (first :: ·)

/-- A statement of a script. -/
def statement (e : Element) : Compiled Statement :=
  if e.tag == "p" then (prompt e).map .prompt
  else if e.tag == "chat" then (compileAll chatItem e.elements).map .chat
  else if e.tag == "gen" then do
    return .generate (← generation e (← require e "store"))
  else if e.tag == "each" then do
    let store ← require e "store"
    let source ← require e "from"
    return .each source (← generation e store)
  else .ok (.unknown e.tag)

/-- The script under a root element. -/
def ofElement (root : Element) : Compiled Script :=
  (compileAll statement root.elements).map fun body => ⟨root.tag, body⟩

/-- The script that a source holds. -/
def compile (source : String) : Compiled Script :=
  match Element.parse source with
  | .error failure => .error (.parse (.ofMarkup failure))
  | .ok root => ofElement root

/-- The script in the text of a file, whose lines may end in any of the usual ways. -/
def load (contents : String) : Compiled Script :=
  compile (String.ofList (Text.unifyLineEnds contents.toList))

end Colloquy.Script
