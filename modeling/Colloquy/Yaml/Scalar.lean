import Colloquy.Json.Reader
import Colloquy.Yaml.Cursor
import Colloquy.Yaml.Problem

/-! The texts of scalars: plain, between quotes, and in blocks. A line end inside a plain or quoted text counts as a
blank, and further ones as themselves. -/
namespace Colloquy.Yaml

/-- A text that was read, and where it ends. -/
abbrev Piece := List Char × Cursor

/-! Quoted texts. -/

/-- Line ends inside quotes, with the blanks around them passed over. -/
def quotedBreaks : Nat → Cursor → Except Problem Piece
  | 0, cursor => .ok ([], cursor)
  | steps + 1, cursor =>
    if cursor.seesSeparator then .error .separatorInQuotes
    else
      let cursor := cursor.skip fun c => c == ' ' || c == '\t'
      if cursor.sees 0 isBreak then
        let (ending, cursor) := cursor.takeBreak
        (quotedBreaks steps cursor).map fun (more, cursor) => (ending ++ more, cursor)
      else .ok ([], cursor)

/-- What a first line end and those after it count as. -/
def foldBreaks (first more : List Char) : List Char :=
  if first != ['\n'] then first ++ more else if more.isEmpty then [' '] else more

/-- Blanks and line ends inside quotes. -/
def quotedGap (cursor : Cursor) : Except Problem Piece :=
  let blanks := cursor.run fun c => c == ' ' || c == '\t'
  let cursor := cursor.forward blanks.length
  if cursor.rest.isEmpty then .error .openQuote
  else if cursor.sees 0 isBreak then
    let (first, cursor) := cursor.takeBreak
    (quotedBreaks cursor.rest.length cursor).map fun (more, cursor) => (foldBreaks first more, cursor)
  else .ok (blanks, cursor)

/-- Letters that mean a character after a backslash. -/
def escapes : List (Char × Char) := [('0', '\x00'), ('a', '\x07'), ('b', '\x08'), ('t', '\t'), ('\t', '\t'), ('n', '\n'),
  ('v', '\x0b'), ('f', '\x0c'), ('r', '\r'), ('e', '\x1b'), (' ', ' '), ('"', '"'), ('\\', '\\'), ('/', '/'),
  ('N', '\x85'), ('_', '\xa0'), ('L', '\u2028'), ('P', '\u2029')]

/-- How many digits follow a letter that announces a code. -/
def codeWidth? (c : Char) : Option Nat :=
  if c == 'x' then some 2 else if c == 'u' then some 4 else if c == 'U' then some 8 else none

/-- What stands after a backslash. -/
def readEscape (cursor : Cursor) : Except Problem Piece :=
  match cursor.rest with
  | [] => .error .badEscape
  | c :: rest =>
    match escapes.lookup c, codeWidth? c with
    | some meant, _ => .ok ([meant], cursor.next)
    | none, some width =>
      match (rest.take width).mapM Json.hexValue? with
      | some values =>
        if values.length == width then
          .ok ([Json.charOfUnit (values.foldl (fun n d => 16 * n + d) 0)], cursor.forward (width + 1))
        else .error .badEscape
      | none => .error .badEscape
    | none, none =>
      if isBreak c then quotedBreaks cursor.rest.length cursor.takeBreak.2 else .error .badEscape

/-- The text up to the closing quote, and the position after it. -/
def quotedWithin (double : Bool) : Nat → Cursor → Except Problem Piece
  | 0, _ => .error .openQuote
  | steps + 1, cursor =>
    let after (piece : Piece) : Except Problem Piece :=
      (quotedWithin double steps piece.2).map fun (more, cursor) => (piece.1 ++ more, cursor)
    match cursor.rest with
    | [] => .error .openQuote
    | c :: rest =>
      if c == '\'' && !double then
        if rest.head? == some '\'' then after (['\''], cursor.forward 2) else .ok ([], cursor.next)
      else if c == '"' && double then .ok ([], cursor.next)
      else if c == '\\' && double then do after (← readEscape cursor.next)
      else if isGap c then do after (← quotedGap cursor)
      else after ([c], cursor.next)

/-- The text of a quoted scalar, from its opening quote. -/
def readQuoted (double : Bool) (cursor : Cursor) : Except Problem Piece :=
  quotedWithin double (cursor.rest.length + 1) cursor.next

/-! Plain texts. -/

/-- Line ends inside a plain text; none if a document ends there. -/
def plainBreaks : Nat → Cursor → Option Piece
  | 0, cursor => some ([], cursor)
  | steps + 1, cursor =>
    if cursor.seesSeparator then none
    else
      let cursor := cursor.skip (· == ' ')
      if cursor.sees 0 isBreak then
        let (ending, cursor) := cursor.takeBreak
        (plainBreaks steps cursor).map fun (more, cursor) => (ending ++ more, cursor)
      else some ([], cursor)

/-- Blanks and line ends between the words of a plain text: what they count as, where they end, and whether a line
ended. Where a document ends they count as nothing. -/
def plainGap (cursor : Cursor) : Piece × Bool :=
  let blanks := cursor.run (· == ' ')
  let cursor := cursor.forward blanks.length
  if cursor.sees 0 isBreak then
    let (first, cursor) := cursor.takeBreak
    match plainBreaks cursor.rest.length cursor with
    | some (more, cursor) => ((foldBreaks first more, cursor), true)
    | none => (([], cursor), true)
  else ((blanks, cursor), false)

/-- Whether a word of a plain text ends at a position. -/
def endsWord (inFlow : Bool) (cursor : Cursor) (ahead : Nat) : Bool :=
  cursor.endsOr ahead isGap
    || (cursor.sees ahead (· == ':') &&
      cursor.endsOr (ahead + 1) fun c => isGap c || (inFlow && (c == ',' || c == '[' || c == ']' || c == '\x7b' || c == '\x7d')))
    || (inFlow && cursor.sees ahead fun c =>
      c == ',' || c == '?' || c == '[' || c == ']' || c == '\x7b' || c == '\x7d')

/-- The length of the word at a position. -/
def wordLength (inFlow : Bool) (cursor : Cursor) : Nat :=
  ((List.range cursor.rest.length).find? (endsWord inFlow cursor)).getD cursor.rest.length

/-- A plain text whose lines are indented by at least so much. Tells also whether its last line ended. -/
def readPlain (inFlow : Bool) (indent : Int) (gap : List Char) : Nat → Cursor → List Char × Cursor × Bool
  | 0, cursor => ([], cursor, false)
  | steps + 1, cursor =>
    let length := if cursor.sees 0 (· == '#') then 0 else wordLength inFlow cursor
    if length == 0 then ([], cursor, false)
    else
      let word := gap ++ cursor.rest.take length
      let ((gap, after), lineEnded) := plainGap (cursor.forward length)
      if gap.isEmpty || after.sees 0 (· == '#') || (!inFlow && after.column < indent) then (word, after, lineEnded)
      else
        let (more, stop, ended) := readPlain inFlow indent gap steps after
        (word ++ more, stop, if more.isEmpty then lineEnded else ended)

/-! Texts in blocks. -/

/-- How a block ends: without line ends, with one, or with all of them. -/
inductive Chomping where
  | strip
  | clip
  | keep
  deriving DecidableEq

/-- The chomping that a mark asks for. -/
def chomping? (c : Char) : Option Chomping := if c == '+' then some .keep else if c == '-' then some .strip else none

/-- The depth of indentation that a digit asks for. -/
def depth? (c : Char) : Option Nat := if '0' ≤ c && c ≤ '9' then some (c.toNat - '0'.toNat) else none

/-- The marks after the start of a block, in either order. -/
def readBlockMarks (cursor : Cursor) : Chomping × Option Nat × Cursor :=
  let takeChomping (cursor : Cursor) := match (cursor.peek 0).bind chomping? with
    | some chomping => (some chomping, cursor.next)
    | none => (none, cursor)
  let takeDepth (cursor : Cursor) := match (cursor.peek 0).bind depth? with
    | some depth => (some depth, cursor.next)
    | none => (none, cursor)
  let (first, cursor) := takeChomping cursor
  let (depth, cursor) := takeDepth cursor
  match first with
  | some chomping => (chomping, depth, cursor)
  | none =>
    let (second, cursor) := if depth.isSome then takeChomping cursor else (none, cursor)
    (second.getD .clip, depth, cursor)

/-- The first line of a block, which holds marks and perhaps a comment. -/
def readBlockHeader (cursor : Cursor) : Except Problem (Chomping × Option Nat × Cursor) :=
  let (chomping, depth, cursor) := readBlockMarks cursor
  if depth == some 0 || !cursor.endsOr 0 (fun c => c == ' ' || isBreak c) then .error .badBlockHeader
  else
    let cursor := cursor.skip (· == ' ')
    let cursor := if cursor.sees 0 (· == '#') then cursor.skip (!isBreak ·) else cursor
    if cursor.endsOr 0 isBreak then .ok (chomping, depth, cursor.takeBreak.2) else .error .badBlockHeader

/-- The empty lines at the start of a block, and the deepest indentation among them and of the next line. -/
def leadingLines (deepest : Nat) : Nat → Cursor → List Char × Nat × Cursor
  | 0, cursor => ([], deepest, cursor)
  | steps + 1, cursor =>
    if cursor.sees 0 (· == ' ') then
      let cursor := cursor.next
      leadingLines (max deepest cursor.column) steps cursor
    else if cursor.sees 0 isBreak then
      let (ending, cursor) := cursor.takeBreak
      let (more, deepest, cursor) := leadingLines deepest steps cursor
      (ending ++ more, deepest, cursor)
    else ([], deepest, cursor)

/-- Moves past blanks, but not beyond the indentation of the block. -/
def toIndent (indent : Nat) (cursor : Cursor) : Cursor :=
  cursor.forward (min (indent - cursor.column) (cursor.run (· == ' ')).length)

/-- The empty lines before the next line of a block. -/
def emptyLines (indent : Nat) : Nat → Cursor → Piece
  | 0, cursor => ([], cursor)
  | steps + 1, cursor =>
    let cursor := toIndent indent cursor
    if cursor.sees 0 isBreak then
      let (ending, cursor) := cursor.takeBreak
      let (more, cursor) := emptyLines indent steps cursor
      (ending ++ more, cursor)
    else ([], cursor)

/-- The lines of a block after some empty ones: the text, the line end after it, the empty lines after that, and where
the block stops. -/
def blockLines (folded : Bool) (indent : Nat) (empty : List Char) :
    Nat → Cursor → List Char × List Char × List Char × Cursor
  | 0, cursor => ([], [], empty, cursor)
  | steps + 1, cursor =>
    if cursor.column == indent && !cursor.rest.isEmpty then
      let isInset (cursor : Cursor) : Bool := cursor.sees 0 fun c => c == ' ' || c == '\t'
      let line := cursor.run (!isBreak ·)
      let (ending, after) := (cursor.forward line.length).takeBreak
      let (next, after) := emptyLines indent after.rest.length after
      if after.column == indent && !after.rest.isEmpty then
        let joint :=
          if folded && ending == ['\n'] && !isInset cursor && !isInset after then
            if next.isEmpty then [' '] else []
          else ending
        let (more, last, trailing, stop) := blockLines folded indent next steps after
        (empty ++ line ++ joint ++ more, last, trailing, stop)
      else (empty ++ line, ending, next, after)
    else ([], [], empty, cursor)

/-- The text of a block, from its mark, inside of something that is indented. -/
def readBlock (folded : Bool) (around : Int) (cursor : Cursor) : Except Problem Piece := do
  let (chomping, depth, cursor) ← readBlockHeader cursor.next
  let least := (max (around + 1) 1).toNat
  let (indent, empty, cursor) := match depth with
    | some depth =>
      let indent := least + depth - 1
      (indent, emptyLines indent cursor.rest.length cursor)
    | none =>
      let (empty, deepest, cursor) := leadingLines 0 cursor.rest.length cursor
      (max least deepest, empty, cursor)
  let (lines, last, trailing, stop) := blockLines folded indent empty (cursor.rest.length + 1) cursor
  return (match chomping with
    | .strip => lines
    | .clip => lines ++ last
    | .keep => lines ++ last ++ trailing, stop)

end Colloquy.Yaml
