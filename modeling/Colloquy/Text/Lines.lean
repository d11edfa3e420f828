/-! Cutting texts: into lines, at a separator, and around runs of characters; and places in them, an offset in characters
as a line and a column, both counted from one. -/
namespace Colloquy.Text

/-- A character that ends a line; a return together with the feed after it ends only one. -/
def isLineEnd (c : Char) : Bool :=
  c == '\n' || c == '\r' || c == '\x0b' || c == '\x0c' || ('\x1c' ≤ c && c ≤ '\x1e') ||
    c == '\x85' || c == '\u2028' || c == '\u2029'

/-- The lines of a text without their ends, given the characters of the current line in reverse; what follows
the last end is a line unless it is empty. -/
def linesAfter (line : List Char) : List Char → List (List Char)
  | [] => if line.isEmpty then [] else [line.reverse]
  | '\r' :: '\n' :: rest => line.reverse :: linesAfter [] rest
  | c :: rest => if isLineEnd c then line.reverse :: linesAfter [] rest else linesAfter (c :: line) rest

/-- The lines of a text without their ends. -/
def splitLines (cs : List Char) : List (List Char) := linesAfter [] cs

/-- The text with every return, alone or before a feed, as a feed. -/
def unifyLineEnds : List Char → List Char
  | [] => []
  | '\r' :: '\n' :: rest => '\n' :: unifyLineEnds rest
  | '\r' :: rest => '\n' :: unifyLineEnds rest
  | c :: rest => c :: unifyLineEnds rest

/-- Maximal runs of characters that agree on `p`. -/
def runs (p : Char → Bool) : List Char → List (List Char)
  | [] => []
  | c :: rest =>
    match runs p rest with
    | [] => [[c]]
    | run :: more =>
      match run with
      | [] => [c] :: more
      | d :: _ => if p c == p d then (c :: run) :: more else [c] :: run :: more

/-- The text before the last separator, or all of it. -/
def beforeLast (separator : Char) (cs : List Char) : List Char :=
  match cs.reverse.dropWhile (· != separator) with
  | [] => cs
  | _ :: before => before.reverse

/-- Puts a text in the place of another, at most `limit` times when there is a limit. An empty text stands before
each character and at the end. -/
def replaceFirst (old new : List Char) : Nat → List Char → List Char
  | 0, cs => cs
  | _, [] => if old.isEmpty then new else []
  | limit + 1, c :: rest =>
    if old.isEmpty then new ++ c :: replaceFirst old new limit rest
    else if old.isPrefixOf (c :: rest) then new ++ replaceFirst old new limit (rest.drop (old.length - 1))
    else c :: replaceFirst old new (limit + 1) rest
termination_by _ cs => cs.length
decreasing_by all_goals simp +arith

/-- Puts a text in the place of another; no limit means everywhere. -/
def replace (old new : List Char) (limit : Option Nat) (cs : List Char) : List Char :=
  replaceFirst old new (limit.getD (cs.length + 1)) cs

/-- A line and a column. -/
structure Place where
  line : Int
  column : Int
  deriving DecidableEq, Repr

/-- The part of a text before an offset; a negative offset counts from the end and stops at the start. -/
def before (cs : List Char) (offset : Int) : List Char :=
  cs.take (if offset < 0 then offset + cs.length else offset).toNat

/-- The offset after the last line end, zero when there is none. -/
def lineStart (cs : List Char) : Nat := cs.length - (cs.reverse.takeWhile (· != '\n')).length

/-- The place of an offset, counted in the part of the text before it. -/
def place (source : String) (offset : Int) : Place :=
  let part := before source.toList offset
  ⟨part.count '\n' + 1, offset - lineStart part + 1⟩

end Colloquy.Text
