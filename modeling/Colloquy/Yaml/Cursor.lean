/-! Positions in a YAML text. Lines end in any of five ways, and the column counts characters since the last line end. -/
namespace Colloquy.Yaml

/-- A position: what is left of the text, and where that is. -/
structure Cursor where
  rest : List Char
  index : Nat
  line : Nat
  column : Nat
  deriving Inhabited

/-- Characters that end a line. -/
def isBreak (c : Char) : Bool := c == '\r' || c == '\n' || c == '\x85' || c == '\u2028' || c == '\u2029'

/-- Blanks and line ends. -/
def isGap (c : Char) : Bool := c == ' ' || c == '\t' || isBreak c

namespace Cursor

/-- The start of a text. -/
def start (s : String) : Cursor := ⟨s.toList, 0, 0, 0⟩

/-- The character some places ahead; none at the end. -/
def peek (cursor : Cursor) (ahead : Nat) : Option Char := cursor.rest[ahead]?

/-- Whether the character some places ahead is as described, or the text ends before it. -/
def endsOr (cursor : Cursor) (ahead : Nat) (p : Char → Bool) : Bool := ((cursor.peek ahead).map p).getD true

/-- Whether there is a character some places ahead, and it is as described. -/
def sees (cursor : Cursor) (ahead : Nat) (p : Char → Bool) : Bool := ((cursor.peek ahead).map p).getD false

/-- Moves past one character. -/
def next (cursor : Cursor) : Cursor :=
  match cursor.rest with
  | [] => cursor
  | c :: rest =>
    let endsLine := isBreak c && !(c == '\r' && rest.head? == some '\n')
    if endsLine then ⟨rest, cursor.index + 1, cursor.line + 1, 0⟩
    else ⟨rest, cursor.index + 1, cursor.line, if c == '\uFEFF' then cursor.column else cursor.column + 1⟩

/-- Moves past several characters. -/
def forward : Nat → Cursor → Cursor
  | 0, cursor => cursor
  | n + 1, cursor => forward n cursor.next

/-- The characters ahead that are as described. -/
def run (cursor : Cursor) (p : Char → Bool) : List Char := cursor.rest.takeWhile p

/-- Moves past the characters that are as described. -/
def skip (cursor : Cursor) (p : Char → Bool) : Cursor := cursor.forward (cursor.run p).length

/-- Moves past a line end. Gives it as it counts in a text. -/
def takeBreak (cursor : Cursor) : List Char × Cursor :=
  match cursor.rest with
  | '\r' :: '\n' :: _ => (['\n'], cursor.forward 2)
  | c :: _ => if !isBreak c then ([], cursor)
    else if c == '\u2028' || c == '\u2029' then ([c], cursor.next) else (['\n'], cursor.next)
  | [] => ([], cursor)

/-- Whether a line that separates documents is ahead. -/
def seesSeparator (cursor : Cursor) : Bool :=
  (cursor.rest.take 3 == ['-', '-', '-'] || cursor.rest.take 3 == ['.', '.', '.']) && cursor.endsOr 3 isGap

end Cursor
end Colloquy.Yaml
