import Colloquy.Json.Basic
import Colloquy.Decimal.Shortest
import Colloquy.Text.Quoted

/-! Writing JSON text. A style fixes the separators, the indentation and whether characters beyond ASCII are
escaped; the members of an object are written in their order. -/
namespace Colloquy.Json

/-- How JSON text is laid out. -/
structure Style where
  between : String
  afterName : String
  ascii : Bool
  indent : Option String

/-- One line, a space after each separator, ASCII only. -/
def Style.spaced : Style := ⟨", ", ": ", true, none⟩

/-- One line without spaces, characters as they are. -/
def Style.compact : Style := ⟨",", ":", false, none⟩

/-- A line for each member, indented by two for each level, characters as they are. -/
def Style.indented : Style := ⟨",", ": ", false, some "  "⟩

/-- The four digits of an escape. -/
def unitEscape (n : Nat) : List Char := '\\' :: 'u' :: Text.hex 4 n

/-- One character of a string. -/
def escapeChar (ascii : Bool) (c : Char) : List Char :=
  if c == '"' then ['\\', '"']
  else if c == '\\' then ['\\', '\\']
  else if c == '\n' then ['\\', 'n']
  else if c == '\r' then ['\\', 'r']
  else if c == '\t' then ['\\', 't']
  else if c == '\x0c' then ['\\', 'f']
  else if c == '\x08' then ['\\', 'b']
  else if c.toNat < 0x20 then unitEscape c.toNat
  else if ascii && 0x7f ≤ c.toNat then
    if c.toNat < 0x10000 then unitEscape c.toNat
    else
      let offset := c.toNat - 0x10000
      unitEscape (0xD800 + offset / 0x400) ++ unitEscape (0xDC00 + offset % 0x400)
  else [c]

/-- A string in its quotes. -/
def quote (ascii : Bool) (s : String) : String :=
  String.ofList ('"' :: s.toList.flatMap (escapeChar ascii) ++ ['"'])

/-- The text of a floating point number; those that are not finite are words. -/
def floatText (x : Float) : String := Decimal.textOf .plain ⟨"NaN", "Infinity"⟩ x

/-- The start of a line at a nesting level, when lines are indented. -/
def Style.newline (style : Style) (level : Nat) : String :=
  match style.indent with
  | none => ""
  | some unit => "\n" ++ String.join (List.replicate level unit)

mutual

/-- The text of a value at a nesting level. -/
def writeAt (style : Style) (level : Nat) : Json → String
  | null => "null"
  | bool b => if b then "true" else "false"
  | int n => toString n
  | float x => floatText x
  | text s => quote style.ascii s
  | list [] => "[]"
  | list (item :: items) =>
    "[" ++ style.newline (level + 1) ++ writeAt style (level + 1) item ++
      writeItems style (level + 1) items ++ style.newline level ++ "]"
  | object [] => "\x7b\x7d"
  | object ((name, value) :: fields) =>
    "\x7b" ++ style.newline (level + 1) ++ quote style.ascii name ++ style.afterName ++
      writeAt style (level + 1) value ++ writeFields style (level + 1) fields ++
      style.newline level ++ "\x7d"

/-- The items after the first one, each with its separator. -/
def writeItems (style : Style) (level : Nat) : List Json → String
  | [] => ""
  | item :: items =>
    style.between ++ style.newline level ++ writeAt style level item ++ writeItems style level items

/-- The members after the first one, each with its separator. -/
def writeFields (style : Style) (level : Nat) : List (String × Json) → String
  | [] => ""
  | (name, value) :: fields =>
    style.between ++ style.newline level ++ quote style.ascii name ++ style.afterName ++
      writeAt style level value ++ writeFields style level fields

end

/-- The text of a value. -/
def write (style : Style) (value : Json) : String := writeAt style 0 value

end Colloquy.Json
