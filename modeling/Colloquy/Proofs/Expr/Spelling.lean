import Colloquy.Expr.Token
import Colloquy.Reading

/-! How lexemes are spelled. A lexeme is read from exactly the texts that spell it, as far as they can go: what is read
ends where the text goes on with a character that does not continue it. So it depends on nothing further on. An integer
that is spelled with too many digits is not read but counted. -/
namespace Colloquy

/-- The characters that would belong to a lexeme if they stood right after it. -/
def Lexeme.continues : Lexeme → Char → Bool
  | .ident _ => Token.isNameChar
  | .int _ => Text.isAsciiDigit
  | _ => fun _ => false

/-- How many digits an integer is spelled with; other lexemes have none that count. -/
def Lexeme.digits : Lexeme → List Char → Nat
  | .int _, word => word.countP Text.isAsciiDigit
  | _, _ => 0

namespace Token

/-- How the characters of a text are written between marks. A backslash takes away the meaning of the character after
it, or gives it another one. -/
inductive Quotes (mark : Char) : List Char → List Char → Prop where
  | nil : Quotes mark [] []
  | plain {c : Char} {cs written : List Char} (inner : c ≠ mark) (bare : c ≠ '\\') (more : Quotes mark cs written) :
      Quotes mark (c :: cs) (c :: written)
  | escaped {e : Char} {cs written : List Char} (more : Quotes mark cs written) :
      Quotes mark (unescape e :: cs) ('\\' :: e :: written)

/-- The texts that spell a lexeme. -/
inductive Spells : Lexeme → List Char → Prop where
  | ident {c : Char} {more : List Char} (start : isNameStart c = true) (inside : ∀ d ∈ more, isNameChar d = true) :
      Spells (.ident (String.ofList (c :: more))) (c :: more)
  | natural {digits : List Char} (nonempty : digits ≠ []) (inside : ∀ d ∈ digits, Text.isAsciiDigit d = true) :
      Spells (.int (decimalOf digits)) digits
  | negative {digits : List Char} (nonempty : digits ≠ []) (inside : ∀ d ∈ digits, Text.isAsciiDigit d = true) :
      Spells (.int (-(decimalOf digits : Int))) ('-' :: digits)
  | text {mark : Char} {cs written : List Char} (quote : mark = '"' ∨ mark = '\'') (quotes : Quotes mark cs written) :
      Spells (.text (String.ofList cs)) (mark :: (written ++ [mark]))
  | single {c : Char} {lexeme : Lexeme} (known : mark? c = some lexeme) : Spells lexeme [c]

/-- A lexeme is not spelled with more digits than are read. -/
def Fits (lexeme : Lexeme) (word : List Char) : Prop := lexeme.digits word ≤ Text.mostDigits

instance (lexeme : Lexeme) (word : List Char) : Decidable (Fits lexeme word) := inferInstanceAs (Decidable (_ ≤ _))

/-- A text does not go on with a character that belongs to the lexeme before it. -/
def Apart (lexeme : Lexeme) (after : List Char) : Prop := ∀ c, after.head? = some c → lexeme.continues c = false

/-! ## Quoted texts -/

section Quoted
variable {mark : Char} {cs written : List Char}

theorem readQuoted_quotes (quotes : Quotes mark cs written) (other : mark ≠ '\\') (after : List Char) :
    readQuoted mark (written ++ mark :: after) = some (cs, written.length + 1) := by
  induction quotes with
  | nil =>
    rw [List.nil_append, readQuoted.eq_3 mark mark after fun e rest same => absurd same other]
    simp
  | plain inner bare more ih =>
    rw [List.cons_append, readQuoted.eq_3 _ _ _ fun e rest same => absurd same bare]
    simp [inner, ih]
  | escaped more ih =>
    simp [readQuoted, ih]

theorem quotes_of_readQuoted {size : Nat} {text : List Char} (read : readQuoted mark text = some (cs, size)) :
    ∃ written after, text = written ++ mark :: after ∧ size = written.length + 1 ∧ Quotes mark cs written := by
  fun_induction readQuoted mark text generalizing cs size with
  | case1 => cases read
  | case2 e rest ih =>
    obtain ⟨⟨inside, length⟩, inner, same⟩ := Option.map_eq_some_iff.mp read
    obtain ⟨written, after, rfl, rfl, quotes⟩ := ih inner
    cases same
    exact ⟨'\\' :: e :: written, after, rfl, rfl, .escaped quotes⟩
  | case3 c rest unescaped closes =>
    cases read
    exact ⟨[], rest, by simp [beq_iff_eq.mp closes], rfl, .nil⟩
  | case4 c rest unescaped open_ ih =>
    obtain ⟨⟨inside, length⟩, inner, same⟩ := Option.map_eq_some_iff.mp read
    obtain ⟨written, after, rfl, rfl, quotes⟩ := ih inner
    cases same
    have bare : c ≠ '\\' := by
      rintro rfl
      -- A backslash with a character after it is read as an escape, and here the closing mark comes after it.
      cases written with
      | nil => exact unescaped mark after rfl rfl
      | cons e written => exact unescaped e (written ++ mark :: after) rfl rfl
    exact ⟨c :: written, after, rfl, rfl, .plain (by simpa using open_) bare quotes⟩

end Quoted

/-! ## Classes of characters -/

section Classes
variable {c : Char}

theorem isAsciiDigit_iff : Text.isAsciiDigit c = true ↔ 48 ≤ c.toNat ∧ c.toNat ≤ 57 := by
  simp only [Text.isAsciiDigit, Bool.and_eq_true, decide_eq_true_eq]
  exact Iff.rfl

theorem isNameStart_iff : isNameStart c = true ↔
    (65 ≤ c.toNat ∧ c.toNat ≤ 90) ∨ (97 ≤ c.toNat ∧ c.toNat ≤ 122) ∨ c.toNat = 95 := by
  have underscore : c = '_' ↔ c.toNat = 95 := ⟨fun same => same ▸ rfl, fun same => Char.toNat_inj.mp same⟩
  have upper : c.isUpper = true ↔ 65 ≤ c.toNat ∧ c.toNat ≤ 90 := decide_eq_true_iff
  have lower : c.isLower = true ↔ 97 ≤ c.toNat ∧ c.toNat ≤ 122 :=
    (Bool.and_eq_true_iff).trans (and_congr decide_eq_true_iff decide_eq_true_iff)
  have letter : c.isAlpha = (c.isUpper || c.isLower) := rfl
  rw [isNameStart, letter, Bool.or_eq_true, Bool.or_eq_true, upper, lower, beq_iff_eq, underscore, or_assoc]

/-- A name goes on with characters that may start one, and with digits. -/
theorem isNameChar_iff : isNameChar c = true ↔ isNameStart c = true ∨ Text.isAsciiDigit c = true := by
  have digit : c.isDigit = Text.isAsciiDigit c := rfl
  simp only [isNameChar, isNameStart, Char.isAlphanum, digit, Bool.or_eq_true]
  exact or_right_comm

/-- All characters of a name may continue one. -/
theorem name_inside {more : List Char} (start : isNameStart c = true) (inside : ∀ d ∈ more, isNameChar d = true) :
    ∀ d ∈ c :: more, isNameChar d = true :=
  List.forall_mem_cons.mpr ⟨isNameChar_iff.mpr (.inl start), inside⟩

theorem isBlank_iff (ascii : c.toNat < 128) : Text.isBlank c = true ↔
    (9 ≤ c.toNat ∧ c.toNat ≤ 13) ∨ (28 ≤ c.toNat ∧ c.toNat ≤ 32) := by
  simp [Text.isBlank, Text.blanks, Text.Ranges.holds]
  omega

theorem nameChar_notBlank (inside : isNameChar c = true) : Text.isBlank c = false := by
  rw [isNameChar_iff, isNameStart_iff, isAsciiDigit_iff] at inside
  rw [Bool.eq_false_iff, ne_eq, isBlank_iff (by omega)]
  omega

theorem digit_notStart (digit : Text.isAsciiDigit c = true) : isNameStart c = false := by
  rw [isAsciiDigit_iff] at digit
  rw [Bool.eq_false_iff, ne_eq, isNameStart_iff]
  omega

/-- The marks are none of the characters that other lexemes start with, nor blanks, nor braces. -/
theorem mark_apart {lexeme : Lexeme} (known : mark? c = some lexeme) :
    Text.isBlank c = false ∧ Text.isAsciiDigit c = false ∧ isNameStart c = false ∧
      c ≠ '"' ∧ c ≠ '\'' ∧ c ≠ '-' ∧ c ≠ '\x7d' := by
  unfold mark? at known
  split at known
  all_goals first | decide | cases known

/-- The marks are neither names nor integers. -/
theorem mark_ne {lexeme : Lexeme} (known : mark? c = some lexeme) :
    (∀ name, lexeme ≠ .ident name) ∧ ∀ n, lexeme ≠ .int n := by
  unfold mark? at known
  split at known <;> cases known <;> simp

/-- A mark has no digits that count, -/
theorem mark_fits {lexeme : Lexeme} (known : mark? c = some lexeme) (word : List Char) : Fits lexeme word := by
  cases lexeme with
  | int n => exact absurd rfl ((mark_ne known).2 n)
  | _ => exact Nat.zero_le _

/-- and nothing goes on with it. -/
theorem mark_ends {lexeme : Lexeme} (known : mark? c = some lexeme) (after : List Char) : Apart lexeme after := by
  cases lexeme with
  | ident name => exact absurd rfl ((mark_ne known).1 name)
  | int n => exact absurd rfl ((mark_ne known).2 n)
  | _ => exact fun _ _ => rfl

end Classes

/-! ## Lexemes -/

section Lexemes
variable {lexeme : Lexeme} {c : Char} {word after : List Char}

theorem Spells.nonempty (spelled : Spells lexeme word) : word ≠ [] := by
  cases spelled with
  | natural nonempty inside => exact nonempty
  | ident start inside => exact List.cons_ne_nil _ _
  | negative nonempty inside => exact List.cons_ne_nil _ _
  | text quote quotes => exact List.cons_ne_nil _ _
  | single known => exact List.cons_ne_nil _ _

/-- A lexeme starts neither with a blank nor with a brace. -/
theorem Spells.head (spelled : Spells lexeme (c :: word)) : Text.isBlank c = false ∧ c ≠ '\x7d' := by
  have name : isNameChar c = true → Text.isBlank c = false ∧ c ≠ '\x7d' := by
    intro inside
    refine ⟨nameChar_notBlank inside, ?_⟩
    rintro rfl
    cases inside
  generalize same : c :: word = whole at spelled
  cases spelled with
  | ident start inside =>
    cases same
    exact name (isNameChar_iff.mpr (.inl start))
  | natural nonempty inside =>
    subst same
    exact name (isNameChar_iff.mpr (.inr (inside c List.mem_cons_self)))
  | negative nonempty inside =>
    cases same
    decide
  | text quote quotes =>
    cases same
    rcases quote with rfl | rfl <;> decide
  | single known =>
    cases same
    have apart := mark_apart known
    exact ⟨apart.1, apart.2.2.2.2.2.2⟩

theorem digits_natural {n : Int} {digits : List Char} (inside : ∀ d ∈ digits, Text.isAsciiDigit d = true) :
    (Lexeme.int n).digits digits = digits.length :=
  List.countP_eq_length.mpr inside

theorem digits_negative {n : Int} {digits : List Char} (inside : ∀ d ∈ digits, Text.isAsciiDigit d = true) :
    (Lexeme.int n).digits ('-' :: digits) = digits.length := by
  have minus : Text.isAsciiDigit '-' = false := by decide
  rw [Lexeme.digits, List.countP_cons_of_neg (by simp [minus]), List.countP_eq_length.mpr inside]

theorem readDecimal_map (digits : List Char) (make : Nat → Lexeme) (size : Nat) :
    ((readDecimal digits).mapError Unread.oversized).map (fun n => (make n, size)) =
      if digits.length ≤ Text.mostDigits then .ok (make (decimalOf digits), size)
      else (.error (.oversized ⟨digits.length⟩) : Except (Unread Expr.Fault) (Lexeme × Nat)) := by
  unfold readDecimal
  split <;> rfl

/-- What spells a lexeme is read as that lexeme, if the text does not go on with it, and counted if that is too much. -/
theorem readLexeme_spelled (spelled : Spells lexeme (c :: word)) (apart : Apart lexeme after) :
    readLexeme c (word ++ after) = if Fits lexeme (c :: word) then .ok (lexeme, word.length)
      else .error (.oversized ⟨lexeme.digits (c :: word)⟩) := by
  generalize same : c :: word = whole at spelled
  cases spelled with
  | ident start inside =>
    cases same
    have run := takeWhile_run inside apart
    have letter : Text.isAsciiDigit c = false := by
      rw [Bool.eq_false_iff]
      intro digit
      rw [digit_notStart digit] at start
      cases start
    have unquoted : c ≠ '"' ∧ c ≠ '\'' ∧ c ≠ '-' := by
      refine ⟨?_, ?_, ?_⟩ <;> rintro rfl <;> cases start
    rw [if_pos (show Fits (.ident _) _ from Nat.zero_le _)]
    simp [readLexeme, unquoted, letter, start, run]
  | natural nonempty inside =>
    subst same
    have digit := inside c List.mem_cons_self
    have run := takeWhile_run (fun d member => inside d (List.mem_cons_of_mem _ member)) apart
    have unquoted : ¬ (c == '"' || c == '\'') = true := by
      intro quote
      rcases (by simpa using quote : c = '"' ∨ c = '\'') with rfl | rfl <;> cases digit
    simp only [readLexeme, if_neg unquoted, if_pos digit, run, Fits, digits_natural inside]
    exact readDecimal_map (c :: word) (fun n => .int n) word.length
  | negative nonempty inside =>
    cases same
    have run := takeWhile_run inside apart
    have minus : Text.isAsciiDigit '-' = false := by decide
    have signed : ('-' == '-' && !word.isEmpty) = true := by simpa using nonempty
    have unquoted : ¬ ('-' == '"' || '-' == '\'') = true := by decide
    simp only [readLexeme, if_neg unquoted, minus, run, if_pos signed, Fits, digits_negative inside]
    exact readDecimal_map word (fun n => .int (-n)) word.length
  | text quote quotes =>
    cases same
    have unescaped : c ≠ '\\' := by rcases quote with rfl | rfl <;> decide
    have read := readQuoted_quotes quotes unescaped after
    have quoted : (c == '"' || c == '\'') = true := by simpa using quote
    rw [if_pos (show Fits (.text _) _ from Nat.zero_le _)]
    simp [readLexeme, quoted, read]
  | single known =>
    cases same
    obtain ⟨-, digit, start, double, single, minus, -⟩ := mark_apart known
    rw [if_pos (mark_fits known _)]
    simp [readLexeme, digit, start, double, single, minus, known]

/-- What can come of reading a lexeme: one is spelled that the text does not go on with, and is read or has too many
digits; a quoted text is not closed; or the first character starts no lexeme. -/
inductive Lexes (c : Char) (rest : List Char) : Except (Unread Expr.Fault) (Lexeme × Nat) → Prop
  | read {lexeme : Lexeme} {word after : List Char} (split : rest = word ++ after) (spelled : Spells lexeme (c :: word))
      (fits : Fits lexeme (c :: word)) (apart : Apart lexeme after) : Lexes c rest (.ok (lexeme, word.length))
  | oversized {lexeme : Lexeme} {word after : List Char} (split : rest = word ++ after)
      (spelled : Spells lexeme (c :: word)) (large : ¬ Fits lexeme (c :: word)) (apart : Apart lexeme after) :
      Lexes c rest (.error (.oversized ⟨lexeme.digits (c :: word)⟩))
  | unclosed (quote : c = '"' ∨ c = '\'') (open_ : readQuoted c rest = none) :
      Lexes c rest (.error (.malformed .unterminatedText))
  | stray (unquoted : ¬ (c = '"' ∨ c = '\'')) (digitless : ¬ Text.isAsciiDigit c = true)
      (unsigned : c = '-' → rest.takeWhile Text.isAsciiDigit = []) (nameless : ¬ isNameStart c = true)
      (unknown : mark? c = none) : Lexes c rest (.error (.malformed (.unrecognized c)))

theorem lexes_of_spelled (spelled : Spells lexeme (c :: word)) (apart : Apart lexeme after) :
    Lexes c (word ++ after) (readLexeme c (word ++ after)) := by
  rw [readLexeme_spelled spelled apart]
  split
  · exact .read rfl spelled ‹_› apart
  · exact .oversized rfl spelled ‹_› apart

theorem readLexeme_lexes (c : Char) (rest : List Char) : Lexes c rest (readLexeme c rest) := by
  have inside (p : Char → Bool) := takeWhile_inside p rest
  have run (p : Char → Bool) : rest.takeWhile p ++ rest.dropWhile p = rest := List.takeWhile_append_dropWhile
  by_cases quote : (c == '"' || c == '\'') = true
  · have mark : c = '"' ∨ c = '\'' := by simpa using quote
    cases inner : readQuoted c rest with
    | none =>
      rw [readLexeme, if_pos quote, inner]
      exact .unclosed mark inner
    | some found =>
      obtain ⟨cs, size⟩ := found
      obtain ⟨written, after, rfl, rfl, quotes⟩ := quotes_of_readQuoted inner
      have apart : Apart (.text (String.ofList cs)) after := fun _ _ => rfl
      have lexes := lexes_of_spelled (.text mark quotes) apart
      rwa [List.append_assoc, List.singleton_append] at lexes
  · by_cases digit : Text.isAsciiDigit c = true
    · have digits : ∀ d ∈ c :: rest.takeWhile Text.isAsciiDigit, Text.isAsciiDigit d = true :=
        List.forall_mem_cons.mpr ⟨digit, inside _⟩
      have lexes := lexes_of_spelled (.natural (List.cons_ne_nil _ _) digits) (head_dropWhile Text.isAsciiDigit rest)
      rwa [run] at lexes
    · by_cases signed : c = '-' ∧ rest.takeWhile Text.isAsciiDigit ≠ []
      · obtain ⟨rfl, nonempty⟩ := signed
        have lexes := lexes_of_spelled (.negative nonempty (inside _)) (head_dropWhile Text.isAsciiDigit rest)
        rwa [run] at lexes
      · by_cases start : isNameStart c = true
        · have lexes := lexes_of_spelled (.ident start (inside _)) (head_dropWhile isNameChar rest)
          rwa [run] at lexes
        · cases known : mark? c with
          | some lexeme =>
            have spelled : Spells lexeme [c] := .single known
            exact lexes_of_spelled spelled (mark_ends known rest)
          | none =>
            have unsigned : c = '-' → rest.takeWhile Text.isAsciiDigit = [] := by simpa using signed
            have signless : ¬ (c == '-' && !(rest.takeWhile Text.isAsciiDigit).isEmpty) = true := by
              simpa using unsigned
            rw [readLexeme, if_neg quote, if_neg digit, if_neg signless, if_neg start, known]
            exact .stray (by simpa using quote) digit unsigned start known

/-- What is read as a lexeme spells it, and the text does not go on with it. -/
theorem spelled_of_readLexeme {rest : List Char} {size : Nat} (read : readLexeme c rest = .ok (lexeme, size)) :
    ∃ word after, rest = word ++ after ∧ size = word.length ∧ Spells lexeme (c :: word) ∧ Fits lexeme (c :: word) ∧
      Apart lexeme after := by
  have lexes := readLexeme_lexes c rest
  rw [read] at lexes
  cases lexes with
  | read split spelled fits apart => exact ⟨_, _, split, rfl, spelled, fits, apart⟩

end Lexemes

end Token
end Colloquy
