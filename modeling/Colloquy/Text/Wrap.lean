import Colloquy.Text.Digit
import Colloquy.Text.Word

/-! Wrapping a paragraph into lines of bounded width. The text is cut into chunks, which are runs of blanks and
words; a word may be cut after a hyphen between letters and before a dash between words. Lines are filled
greedily and blanks at a line's end are kept; a word that fits on no line is broken. -/
namespace Colloquy.Text.Wrap

/-- The blanks that separate words here; wider spaces are part of words. -/
def isGap (c : Char) : Bool :=
  c == ' ' || c == '\t' || c == '\n' || c == '\x0b' || c == '\x0c' || c == '\r'

/-- Tabs become spaces up to the next multiple of eight columns, and any other blank becomes a space. -/
def spaced (column : Nat) : List Char → List Char
  | [] => []
  | c :: rest =>
    if c == '\t' then
      let width := 8 - column % 8
      List.replicate width ' ' ++ spaced (column + width) rest
    else if c == '\n' || c == '\r' then ' ' :: spaced 0 rest
    else (if isGap c then ' ' else c) :: spaced (column + 1) rest

/-- A letter or an underscore. -/
def isLetter (c : Char) : Bool := isWordChar c && !isDecimal c

/-- A character that a dash may follow: part of a word, or punctuation that ends one. -/
def isWordEnd (c : Char) : Bool :=
  isWordChar c || ['!', '"', '\'', '&', '.', ',', '?'].contains c

/-- Whether a dash of two hyphens or more stands here, with a word right after it. -/
def startsDash (cs : List Char) : Bool :=
  let hyphens := (cs.takeWhile (· == '-')).length
  2 ≤ hyphens && (cs.drop hyphens).head?.any isWordChar

/-- Whether the characters before, nearest first, let a word be cut after the hyphen that follows them. -/
def allowsHyphen : List Char → Bool
  | a :: b :: rest => isLetter a && (isLetter b || b == '-' && rest.head?.any isLetter)
  | _ => false

/-- Whether the characters after a hyphen let a word be cut there: a letter, and a second one after at most one
hyphen. -/
def followsHyphen : List Char → Bool
  | a :: '-' :: b :: _ => isLetter a && isLetter b
  | a :: b :: _ => isLetter a && isLetter b
  | _ => false

/-- How many characters the word at the front has, given the characters before it, nearest first. -/
def wordLength (past : List Char) : List Char → Nat
  | [] => 0
  | c :: rest =>
    let past := c :: past
    match rest with
    | [] => 1
    | d :: more =>
      if d == '-' && allowsHyphen past && followsHyphen more then 2
      else if isGap d then 1
      else if isWordEnd c && startsDash (d :: more) then 1
      else wordLength past (d :: more) + 1

/-- How many characters the chunk at the front has. -/
def chunkLength (past : List Char) (cs : List Char) : Nat :=
  match cs with
  | [] => 0
  | c :: rest =>
    if isGap c then (rest.takeWhile isGap).length + 1
    else if past.head?.any isWordEnd && startsDash cs then (cs.takeWhile (· == '-')).length
    else wordLength past cs

theorem wordLength_pos (past : List Char) (c : Char) (rest : List Char) :
    0 < wordLength past (c :: rest) := by
  unfold wordLength
  cases rest with
  | nil => simp
  | cons d more => simp only; split <;> (try split) <;> (try split) <;> omega

theorem chunkLength_pos (past : List Char) (c : Char) (rest : List Char) :
    0 < chunkLength past (c :: rest) := by
  unfold chunkLength
  simp only
  split
  · omega
  · split
    · next dash =>
      simp only [startsDash, Bool.and_eq_true, decide_eq_true_eq] at dash
      omega
    · exact wordLength_pos past c rest

/-- The chunks of a text. -/
def chunksAfter (past : List Char) (cs : List Char) : List (List Char) :=
  match _same : cs with
  | [] => []
  | c :: rest =>
    let size := chunkLength past (c :: rest)
    let chunk := (c :: rest).take size
    chunk :: chunksAfter (chunk.reverse ++ past) ((c :: rest).drop size)
termination_by cs.length
decreasing_by
  have := chunkLength_pos past c rest
  simp only [List.length_drop, List.length_cons]
  omega

/-- The chunks of a text whose blanks are spaces. -/
def chunks (cs : List Char) : List (List Char) := chunksAfter [] cs

/-- Puts chunks on a line as long as they fit into `room`; returns the line and the chunks that are left. -/
def takeFitting (room : Nat) : List (List Char) → List Char × List (List Char)
  | [] => ([], [])
  | chunk :: rest =>
    if chunk.length ≤ room then
      let (line, left) := takeFitting (room - chunk.length) rest
      (chunk ++ line, left)
    else ([], chunk :: rest)

/-- Where a word that fits on no line is broken: after the last hyphen in the room that is left, when something
else stands before it, or else where the room ends. -/
def breakAt (room : Nat) (word : List Char) : Nat :=
  let head := word.take room
  let tail := (head.reverse.takeWhile (· != '-')).length
  let hyphen := head.length - tail - 1
  if tail < head.length && 0 < hyphen && (word.take hyphen).any (· != '-') then hyphen + 1 else room

/-- One line of a given width and the chunks that are left. On a line without any width a single character of a
word is put. -/
def takeLine (width : Nat) (chunks : List (List Char)) : List Char × List (List Char) :=
  let (line, left) := takeFitting width chunks
  match left with
  | word :: rest =>
    if width < word.length then
      let room := if width == 0 then 1 else width - line.length
      let size := breakAt room word
      (line ++ word.take size, word.drop size :: rest)
    else (line, left)
  | [] => (line, [])

/-- The lines of a list of chunks; the first has a width of its own. `budget` bounds their number. -/
def linesWithin (later : Nat) : Nat → Nat → List (List Char) → List (List Char)
  | _, _, [] => []
  | 0, _, _ => []
  | budget + 1, width, chunks =>
    let (line, left) := takeLine width chunks
    line :: linesWithin later budget later left

/-- The lines of a list of chunks. Each line takes a chunk or a character, so there are no more lines than
these. -/
def lines (first later : Nat) (chunks : List (List Char)) : List (List Char) :=
  linesWithin later (chunks.flatten.length + chunks.length) first chunks

/-- Why a paragraph cannot be wrapped: the width is not positive, or the indentation takes all of it. -/
inductive Fault where
  | invalidWidth (width : Int)
  | noRoom
  deriving DecidableEq, Repr

/-- The text of a fault. -/
def Fault.message : Fault → String
  | invalidWidth width => "invalid width " ++ toString width ++ " (must be > 0)"
  | noRoom => "no room for text beside the indentation"

/-- Wraps a paragraph to a width that includes the indentation; lines after the first are indented by one more
space. -/
def fill (width : Int) (indent : Nat) (paragraph : List Char) : Except Fault (List Char) :=
  if width ≤ 0 then .error (.invalidWidth width)
  else
    let chunks := chunks (spaced 0 paragraph)
    if chunks.isEmpty then .ok []
    else if width < indent + 1 then .error .noRoom
    else
      match lines (width.toNat - indent) (width.toNat - indent - 1) chunks with
      | [] => .ok []
      | first :: rest =>
        let margin := List.replicate indent ' '
        .ok (margin ++ first ++ rest.flatMap fun line => '\n' :: ' ' :: margin ++ line)

end Colloquy.Text.Wrap
