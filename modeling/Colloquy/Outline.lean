import Colloquy.Json.Reader
import Colloquy.Text.Blank
import Colloquy.Text.Wrap
import Colloquy.Decimal.Shortest

/-! Outlines: data laid out over several lines for a person to read. Members and items stand on lines of their
own; a text under a name is wrapped beside it, and a text elsewhere that is itself a JSON list or object is
shown as the data it holds. -/
namespace Colloquy

/-- What an outline shows: single words, texts, lists and named members. -/
inductive Outline where
  | word (shown : String)
  | text (s : String)
  | list (items : List Outline)
  | object (fields : List (String × Outline))
  deriving Inhabited

namespace Outline

mutual

/-- The outline of a JSON value. -/
def ofJson : Json → Outline
  | .null => .word "null"
  | .bool b => .word (if b then "true" else "false")
  | .int n => .word (toString n)
  | .float x => .word (Decimal.floatText x)
  | .text s => .text s
  | .list items => .list (ofItems items)
  | .object fields => .object (ofFields fields)

/-- The outlines of several values. -/
def ofItems : List Json → List Outline
  | [] => []
  | item :: rest => ofJson item :: ofItems rest

/-- The outlines of named values. -/
def ofFields : List (String × Json) → List (String × Outline)
  | [] => []
  | (name, value) :: rest => (name, ofJson value) :: ofFields rest

end

/-- The data that a text holds, when it is a JSON list or object. -/
def embedded? (s : String) : Option Outline :=
  match Json.read? s with
  | some (.list items) => some (ofJson (.list items))
  | some (.object fields) => some (ofJson (.object fields))
  | _ => none

/-- The dimensions of a layout: the width of a line, and the spaces for each level. -/
structure Frame where
  width : Int
  indent : Int

/-- The spaces that lines of a level start with. -/
def Frame.margin (frame : Frame) (level : Int) : String :=
  String.ofList (List.replicate (level * frame.indent).toNat ' ')

/-- What stands before the value of a member. -/
def label (margin name : String) : String := margin ++ "  \"" ++ name ++ "\": "

/-- The paragraphs of a text under a name, each wrapped to the room beside it. -/
def paragraphs (frame : Frame) (room : Nat) (s : String) : Except Text.Wrap.Fault (List (List Char)) :=
  (s.toList.splitOn '\n').mapM fun paragraph => Text.Wrap.fill (frame.width - room) room paragraph

/-- A text under a name: its paragraphs on lines of their own, in quotes. -/
def wrapped (frame : Frame) (room : Nat) (s : String) : Except Text.Wrap.Fault String :=
  (paragraphs frame room s).map fun parts =>
    let gap := List.replicate room ' ' ++ ['\n']
    "\"" ++ String.ofList (Text.trimBy Text.isBlank (gap.intercalate parts)) ++ "\""

mutual

/-- Lays out data at a level; `depth` bounds how often a text is opened that holds data. -/
def layAt (frame : Frame) (depth : Nat) (level : Int) (outline : Outline) :
    Except Text.Wrap.Fault String :=
  match outline with
  | .word shown => .ok shown
  | .text s =>
    match depth with
    | 0 => .ok ("\"" ++ s ++ "\"")
    | depth + 1 =>
      match embedded? s with
      | some inner => layAt frame depth level inner
      | none => .ok ("\"" ++ s ++ "\"")
  | .list [] => .ok "[]"
  | .list (item :: rest) =>
    let margin := frame.margin level
    (layItems frame depth level margin item rest).map fun lines => "[\n" ++ lines ++ "\n" ++ margin ++ "]"
  | .object [] => .ok "\x7b\x7d"
  | .object ((name, value) :: rest) =>
    let margin := frame.margin level
    (layFields frame depth level margin name value rest).map fun lines =>
      "\x7b\n" ++ lines ++ "\n" ++ margin ++ "\x7d"
termination_by (depth, sizeOf outline)

/-- The lines of a list's items, a comma after each but the last. -/
def layItems (frame : Frame) (depth : Nat) (level : Int) (margin : String) (item : Outline)
    (rest : List Outline) : Except Text.Wrap.Fault String :=
  match layAt frame depth (level + 1) item with
  | .error fault => .error fault
  | .ok shown =>
    match rest with
    | [] => .ok (margin ++ "  " ++ shown)
    | next :: rest =>
      (layItems frame depth level margin next rest).map fun lines =>
        margin ++ "  " ++ shown ++ ",\n" ++ lines
termination_by (depth, 1 + sizeOf item + sizeOf rest)

/-- The lines of an object's members, a comma after each but the last. -/
def layFields (frame : Frame) (depth : Nat) (level : Int) (margin : String) (name : String) (value : Outline)
    (rest : List (String × Outline)) : Except Text.Wrap.Fault String :=
  let before := label margin name
  match layAt frame depth (level + 1) value with
  | .error fault => .error fault
  | .ok plain =>
    match (match value with
      | .text s => wrapped frame before.length s
      | _ => .ok plain) with
    | .error fault => .error fault
    | .ok shown =>
      match rest with
      | [] => .ok (before ++ shown)
      | (next, value) :: rest =>
        (layFields frame depth level margin next value rest).map fun lines =>
          before ++ shown ++ ",\n" ++ lines
termination_by (depth, 1 + sizeOf value + sizeOf rest)

end

mutual

/-- The number of characters in the texts of an outline. -/
def textSize : Outline → Nat
  | .word _ => 0
  | .text s => s.length
  | .list items => itemsSize items
  | .object fields => fieldsSize fields

/-- The number of characters in the texts of several outlines. -/
def itemsSize : List Outline → Nat
  | [] => 0
  | item :: rest => textSize item + itemsSize rest

/-- The number of characters in the texts of named outlines. -/
def fieldsSize : List (String × Outline) → Nat
  | [] => 0
  | (_, value) :: rest => textSize value + fieldsSize rest

end

/-- Lays out data at a level. Data in a text is shorter than the text, so as many openings as there are
characters are enough. -/
def lay (frame : Frame) (level : Int) (outline : Outline) : Except Text.Wrap.Fault String :=
  layAt frame outline.textSize level outline

/-- Lines of a hundred characters, two spaces for each level. -/
def Frame.standard : Frame := ⟨100, 2⟩

end Outline
end Colloquy
