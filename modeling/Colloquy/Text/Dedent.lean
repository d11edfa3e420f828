import Colloquy.Text.Blank

/-! Moving a paragraph to the left: the spaces and tabs with which all its lines start are removed. Lines of spaces and
tabs alone do not count, and become empty. -/
namespace Colloquy.Text

/-- A space or a tab. -/
def isIndent (c : Char) : Bool := c == ' ' || c == '\t'

/-- The longest common start of two texts. -/
def commonStart : List Char → List Char → List Char
  | a :: as, b :: bs => if a == b then a :: commonStart as bs else []
  | _, _ => []

/-- The common start of all texts, if there is one text at least. -/
def commonStartOf : List (List Char) → Option (List Char)
  | [] => none
  | first :: rest =>
    match commonStartOf rest with
    | none => some first
    | some shared => some (commonStart first shared)

/-- The indentation that all lines with something on them share. -/
def margin (lines : List (List Char)) : List Char :=
  (commonStartOf ((lines.filter fun line => !line.all isIndent).map (List.takeWhile isIndent))).getD []

/-- The text without the indentation that all its lines share. -/
def dedent (s : String) : String :=
  let lines := s.toList.splitOn '\n'
  let shared := (margin lines).length
  String.ofList (['\n'].intercalate (lines.map fun line => if line.all isIndent then [] else line.drop shared))

end Colloquy.Text
