import Colloquy.Proofs.Expr.Spelling
import Colloquy.Proofs.Text.Numeral

/-! How the tokens of a region are laid out in its text. A region is read exactly where a layout of tokens stands before
a pair of closing braces, whatever comes after these; so the tokens of a region are known from its own text alone. In a
layout that is read no integer has too many digits; in any other one the first such integer is counted. -/
namespace Colloquy
namespace Token

/-- The texts in which tokens are laid out, a text beginning at `position`, each in a spelling that is allowed. Blanks
may stand around tokens anywhere, and have to stand between two of them only where the second would continue the first. -/
inductive LaidOut (Allowed : Lexeme → List Char → Prop) : Nat → List Token → List Char → Prop where
  | done {position : Nat} {gap : List Char} (blank : ∀ c ∈ gap, Text.isBlank c = true) : LaidOut Allowed position [] gap
  | next {position : Nat} {lexeme : Lexeme} {tokens : List Token} {gap word text : List Char}
      (blank : ∀ c ∈ gap, Text.isBlank c = true) (spelled : Spells lexeme word) (allowed : Allowed lexeme word)
      (apart : Apart lexeme text) (more : LaidOut Allowed (position + gap.length + word.length) tokens text) :
      LaidOut Allowed position (⟨lexeme, position + gap.length⟩ :: tokens) (gap ++ (word ++ text))

/-- The layouts that are read. -/
abbrev Layout := LaidOut Fits

/-- Every spelling is allowed. -/
abbrev Any (_ : Lexeme) (_ : List Char) : Prop := True

variable {Allowed : Lexeme → List Char → Prop} {opening : Int} {position : Nat} {tokens : List Token} {lexeme : Lexeme}
  {text : List Char}

/-- Braces keep lexemes apart. -/
theorem Apart.before_brace (apart : Apart lexeme text) (after : List Char) :
    Apart lexeme (text ++ '\x7d' :: after) := by
  intro c head
  cases text with
  | nil =>
    cases head
    cases lexeme <;> rfl
  | cons d rest => exact apart c head

/-- Blanks keep lexemes apart, since no lexeme goes on with one. -/
theorem apart_of_blank {c : Char} (blank : Text.isBlank c = true) (after : List Char) : Apart lexeme (c :: after) := by
  intro d head
  cases head
  have outside : isNameChar c = false := by
    rw [Bool.eq_false_iff]
    intro inside
    rw [nameChar_notBlank inside] at blank
    cases blank
  have digitless : Text.isAsciiDigit c = false := by
    rw [Bool.eq_false_iff]
    intro digit
    rw [isNameChar_iff.mpr (.inr digit)] at outside
    cases outside
  cases lexeme with
  | ident name => exact outside
  | int n => exact digitless
  | _ => rfl

theorem Apart.of_append {after : List Char} (apart : Apart lexeme (text ++ after)) : Apart lexeme text := by
  intro c head
  obtain ⟨rest, rfl⟩ := List.head?_eq_some_iff.mp head
  exact apart c rfl

/-- A blank may be put in front of a layout. -/
theorem LaidOut.after_blank {c : Char} (laid : LaidOut Allowed (position + 1) tokens text)
    (blank : Text.isBlank c = true) : LaidOut Allowed position tokens (c :: text) := by
  generalize same : position + 1 = place at laid
  cases laid with
  | done blanks => exact .done (List.forall_mem_cons.mpr ⟨blank, blanks⟩)
  | @next _ lexeme tokens gap word text blanks spelled allowed apart more =>
    subst same
    have start : position + 1 + gap.length = position + (c :: gap).length := by
      rw [List.length_cons]
      omega
    rw [start] at more ⊢
    exact .next (List.forall_mem_cons.mpr ⟨blank, blanks⟩) spelled allowed apart more

/-- The same tokens can be laid out from any other place on. -/
theorem LaidOut.anywhere (laid : LaidOut Allowed position tokens text) (place : Nat) :
    ∃ moved, moved.map Token.lexeme = tokens.map Token.lexeme ∧ LaidOut Allowed place moved text := by
  induction laid generalizing place with
  | done blank => exact ⟨[], rfl, .done blank⟩
  | @next position lexeme tokens gap word text blank spelled allowed apart more ih =>
    obtain ⟨moved, same, laid⟩ := ih (place + gap.length + word.length)
    exact ⟨⟨lexeme, place + gap.length⟩ :: moved, by simp [same], .next blank spelled allowed apart laid⟩

theorem LaidOut.weaken {Other : Lexeme → List Char → Prop} (laid : LaidOut Allowed position tokens text)
    (weaker : ∀ lexeme word, Allowed lexeme word → Other lexeme word) : LaidOut Other position tokens text := by
  induction laid with
  | done blank => exact .done blank
  | next blank spelled allowed apart more ih => exact .next blank spelled (weaker _ _ allowed) apart ih

theorem LaidOut.position_bounds (laid : LaidOut Allowed position tokens text) :
    ∀ token ∈ tokens, position ≤ token.position ∧ token.position ≤ position + text.length := by
  induction laid with
  | done blank => simp
  | next blank spelled allowed apart more ih =>
    intro token member
    rw [List.length_append, List.length_append]
    rcases List.mem_cons.mp member with rfl | later
    · simp only
      omega
    · have := ih token later
      omega

/-! ## Scanning -/

theorem scan_blanks {gap : List Char} (blank : ∀ c ∈ gap, Text.isBlank c = true) (opening : Int) (position : Nat)
    (rest : List Char) : scan opening position (gap ++ rest) = scan opening (position + gap.length) rest := by
  induction gap generalizing position with
  | nil => rfl
  | cons c gap ih =>
    have first : Text.isBlank c = true := blank c List.mem_cons_self
    have others := ih (fun d member => blank d (List.mem_cons_of_mem _ member)) (position + 1)
    rw [List.cons_append, scan]
    simp only [first, ↓reduceIte, others, List.length_cons]
    congr 1
    omega

theorem scan_close (opening : Int) (position : Nat) (rest : List Char) :
    scan opening position ('\x7d' :: '\x7d' :: rest) = .ok ⟨[], position⟩ := by
  have solid : Text.isBlank '\x7d' = false := by decide
  rw [scan]
  simp [solid]

section Words
variable {word rest : List Char} (spelled : Spells lexeme word) (apart : Apart lexeme rest)
include spelled apart

theorem scan_word (fits : Fits lexeme word) (opening : Int) (position : Nat) : scan opening position (word ++ rest) =
      (scan opening (position + word.length) rest).map
        fun region => { region with tokens := ⟨lexeme, position⟩ :: region.tokens } := by
  cases word with
  | nil => exact absurd rfl spelled.nonempty
  | cons c word =>
    obtain ⟨solid, other⟩ := spelled.head
    have read := readLexeme_spelled spelled apart
    rw [if_pos fits] at read
    have length : position + (c :: word).length = position + 1 + word.length := by
      simp only [List.length_cons]
      omega
    rw [List.cons_append, scan, length]
    simp only [solid, beq_eq_false_iff_ne.mpr other, read, List.drop_left]
    cases scan opening (position + 1 + word.length) rest <;> rfl

theorem scan_oversized (large : ¬ Fits lexeme word) (opening : Int) (position : Nat) :
    scan opening position (word ++ rest) = .error (.oversized ⟨lexeme.digits word⟩) := by
  cases word with
  | nil => exact absurd rfl spelled.nonempty
  | cons c word =>
    obtain ⟨solid, other⟩ := spelled.head
    have read := readLexeme_spelled spelled apart
    rw [if_neg large] at read
    rw [List.cons_append, scan]
    simp only [solid, beq_eq_false_iff_ne.mpr other, read]
    rfl

end Words

/-- Tokens that are laid out before closing braces are read as a region. -/
theorem scan_layout (laid : Layout position tokens text) (opening : Int) (after : List Char) :
    scan opening position (text ++ '\x7d' :: '\x7d' :: after) = .ok ⟨tokens, position + text.length⟩ := by
  induction laid with
  | done blank => rw [scan_blanks blank, scan_close]
  | next blank spelled fits apart more ih =>
    rw [List.append_assoc, scan_blanks blank, List.append_assoc, scan_word spelled (apart.before_brace _) fits, ih]
    simp only [Except.map, List.length_append]
    congr 2
    omega

/-- Any other tokens before closing braces have an integer with too many digits among them, which is all that is told. -/
theorem LaidOut.layout_or_oversized (laid : LaidOut Allowed position tokens text) : Layout position tokens text ∨
    ∃ numeral : Text.Oversize, Text.mostDigits < numeral.digits ∧ ∀ opening after,
      scan opening position (text ++ '\x7d' :: '\x7d' :: after) = .error (.oversized numeral) := by
  induction laid with
  | done blank => exact .inl (.done blank)
  | @next position lexeme tokens gap word text blank spelled allowed apart more ih =>
    by_cases fits : Fits lexeme word
    · rcases ih with laid | ⟨numeral, large, refused⟩
      · exact .inl (.next blank spelled fits apart laid)
      · refine .inr ⟨numeral, large, fun opening after => ?_⟩
        rw [List.append_assoc, scan_blanks blank, List.append_assoc, scan_word spelled (apart.before_brace _) fits,
          refused]
        rfl
    · refine .inr ⟨⟨lexeme.digits word⟩, Nat.lt_of_not_le fits, fun opening after => ?_⟩
      rw [List.append_assoc, scan_blanks blank, List.append_assoc,
        scan_oversized spelled (apart.before_brace _) fits]

/-- What is read as a region is a layout of its tokens with closing braces after it. -/
theorem layout_of_scan {cs : List Char} {region : Region} (read : scan opening position cs = .ok region) :
    ∃ text after, cs = text ++ '\x7d' :: '\x7d' :: after ∧ Layout position region.tokens text ∧
      region.close = position + text.length := by
  fun_induction scan opening position cs generalizing region with
  | case1 => cases read
  | case2 position c rest blank ih =>
    obtain ⟨text, after, rfl, laid, close⟩ := ih read
    refine ⟨c :: text, after, rfl, laid.after_blank blank, ?_⟩
    rw [close, List.length_cons]
    omega
  | case3 position c rest solid closes =>
    cases read
    simp only [Bool.and_eq_true, beq_iff_eq] at closes
    obtain ⟨rfl, head⟩ := closes
    obtain ⟨after, rfl⟩ := List.head?_eq_some_iff.mp head
    exact ⟨[], after, rfl, .done (by simp), rfl⟩
  | case4 => cases read
  | case5 => cases read
  | case6 position c rest solid open_ lexeme size lexed region' inner ih =>
    cases read
    obtain ⟨word, after, rfl, rfl, spelled, fits, apart⟩ := spelled_of_readLexeme lexed
    rw [List.drop_left] at inner ih
    obtain ⟨text, after, rfl, laid, close⟩ := ih inner
    have length : position + 1 + word.length = position + 0 + (c :: word).length := by
      rw [List.length_cons]
      omega
    rw [length] at laid close
    have gapless : ∀ d ∈ [], Text.isBlank d = true := by simp
    refine ⟨[] ++ (c :: word ++ text), after, by simp, .next gapless spelled fits apart.of_append laid, ?_⟩
    rw [close, List.nil_append, List.length_append]
    omega

/-- Where the fault lies when a text cannot be read as a region: within the text, or at the opening of the region. -/
theorem scan_error_position {cs : List Char} {failure : Expr.Failure}
    (refused : scan opening position cs = .error (.malformed failure)) :
    failure.position = opening ∨
      ((position : Int) ≤ failure.position ∧ failure.position < (position + cs.length : Nat)) := by
  fun_induction scan opening position cs with
  | case1 =>
    cases refused
    exact .inl rfl
  | case2 position c rest blank ih =>
    rw [List.length_cons]
    have := ih refused
    omega
  | case3 => cases refused
  | case4 position c rest solid open_ reason lexed =>
    cases reason <;> cases refused
    right
    simp only [List.length_cons]
    omega
  | case5 position c rest solid open_ lexeme size lexed reason inner ih =>
    cases refused
    obtain ⟨word, after, rfl, rfl, -⟩ := spelled_of_readLexeme lexed
    rw [List.drop_left] at inner ih
    have := ih inner
    simp only [List.length_cons, List.length_append]
    omega
  | case6 => cases refused

end Token

/-! ## Too many digits -/

open Token Text in
/-- Too many zeros before closing braces are no region. -/
theorem Region.read_manyZeros (after : List Char) :
    Region.read 0 (manyZeros ++ '\x7d' :: '\x7d' :: after) = .error (.oversized ⟨Text.mostDigits + 1⟩) := by
  have spelled := Spells.natural manyZeros_nonempty manyZeros_inside
  have apart : Apart (.int (decimalOf manyZeros)) ('\x7d' :: '\x7d' :: after) := by
    rintro c ⟨⟩
    rfl
  have count : (Lexeme.int (decimalOf manyZeros)).digits manyZeros = Text.mostDigits + 1 := by
    rw [digits_natural manyZeros_inside, length_manyZeros]
  rw [Region.read, scan_oversized spelled apart (by rw [Fits, count]; omega), count]

end Colloquy
