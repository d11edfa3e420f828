/-! Sets of characters, and the first of them: blank characters. A set is given by ranges of code points and looked up
with one pass over its ranges; all such tables are data of the Unicode standard, version 14. Blank are spaces of every
width, tabs, line ends and the separators among the controls; trimming removes them from the ends of a text and nothing
else. -/
namespace Colloquy.Text

/-- A set of code points as inclusive ranges in increasing order. -/
abbrev Ranges := List (Nat × Nat)

/-- A code point belongs to the set when some range holds it. -/
def Ranges.holds (ranges : Ranges) (code : Nat) : Bool :=
  ranges.any fun (first, last) => first ≤ code && code ≤ last

theorem Ranges.holds_iff {ranges : Ranges} {code : Nat} :
    ranges.holds code = true ↔ ∃ range ∈ ranges, range.1 ≤ code ∧ code ≤ range.2 := by
  simp [Ranges.holds]

/-- Code points of the blank characters. -/
def blanks : Ranges := [
  (0x9, 0xd), (0x1c, 0x20), (0x85, 0x85), (0xa0, 0xa0), (0x1680, 0x1680), (0x2000, 0x200a),
  (0x2028, 0x2029), (0x202f, 0x202f), (0x205f, 0x205f), (0x3000, 0x3000)]

/-- A character that separates words and counts as nothing at the ends of a text. -/
def isBlank (c : Char) : Bool := blanks.holds c.toNat

/-- White space that may stand around a numeral: the blank characters but for the separators among the controls. -/
def isSpace (c : Char) : Bool := isBlank c && !(0x1c ≤ c.toNat && c.toNat ≤ 0x1f)

/-- The characters without those at either end that satisfy `p`. -/
def trimBy (p : Char → Bool) (cs : List Char) : List Char :=
  ((cs.dropWhile p).reverse.dropWhile p).reverse

/-- The text without the blanks at its ends. -/
def trim (s : String) : String := String.ofList (trimBy isBlank s.toList)

/-- A text of blanks alone. -/
def isBlankText (s : String) : Bool := s.toList.all isBlank

theorem trimBy_eq_nil_of_all {p : Char → Bool} {cs : List Char} (blank : ∀ c ∈ cs, p c = true) :
    trimBy p cs = [] := by
  have dropped : cs.dropWhile p = [] := by
    induction cs with
    | nil => rfl
    | cons c rest ih =>
      rw [List.dropWhile_cons_of_pos (blank c (by simp))]
      exact ih fun d member => blank d (by simp [member])
  simp [trimBy, dropped]

end Colloquy.Text
