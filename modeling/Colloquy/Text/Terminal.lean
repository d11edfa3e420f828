import Colloquy.Reading
import Colloquy.Text.Lines

/-! Texts for a terminal. A sequence that would change colours or move the cursor begins with an escape character and a
bracket, and ends with a letter; only parameters stand between. Such sequences are left out. -/
namespace Colloquy.Text

/-- The character that begins a sequence. -/
def escapeMark : Char := '\x1b'

/-- A parameter of a sequence, or a mark between two. -/
def isParameter (c : Char) : Bool := c.isDigit || c == ';' || c == '?'

/-- What follows a sequence whose beginning was read; none if it is not ended by a letter. -/
def afterSequence (cs : List Char) : Option (List Char) :=
  match cs.dropWhile isParameter with
  | c :: rest => if c.isAlpha then some rest else none
  | [] => none

theorem afterSequence_length {cs rest : List Char} (read : afterSequence cs = some rest) :
    rest.length < cs.length := by
  have shorter := length_dropWhile_le isParameter cs
  unfold afterSequence at read
  split at read
  · next c more found =>
    rw [found] at shorter
    split at read
    · cases read
      simp only [List.length_cons] at shorter
      omega
    · cases read
  · cases read

/-- The text without its sequences. -/
def withoutSequences : List Char → List Char
  | [] => []
  | c :: cs =>
    match c == escapeMark, cs with
    | true, '[' :: after =>
      match _ended : afterSequence after with
      | some rest => withoutSequences rest
      | none => c :: withoutSequences ('[' :: after)
    | _, cs => c :: withoutSequences cs
termination_by cs => cs.length
decreasing_by
  · have := afterSequence_length ‹_›
    simp only [List.length_cons]
    omega
  · simp
  · simp

/-- What a terminal without colours shows of a text. -/
def plain (s : String) : String := String.ofList (withoutSequences s.toList)

/-- The lines of an input, of which each is ended by a feed, by a return, or by both; the last may be open. -/
def inputLines (s : String) : List String :=
  match ((String.ofList (unifyLineEnds s.toList)).splitOn "\n").reverse with
  | "" :: lines => lines.reverse
  | lines => lines.reverse

end Colloquy.Text
