import Mathlib.Data.Nat.Digits.Defs
import Colloquy.Proofs.Text.Blank
import Colloquy.Text.Numeral

/-! The texts that write an integer in base ten: white space around an optional sign and digits of any script, with
single underscores between digits. The integer is what the digits are worth by their places, and the sign. It is read
unless there are too many digits. -/
namespace Colloquy.Text

/-- Digits, single underscores between them allowed. -/
inductive Digits : List Char → Prop where
  | one {c : Char} (digit : isDecimal c = true) : Digits [c]
  | next {c : Char} {rest : List Char} (digit : isDecimal c = true) (more : Digits rest) : Digits (c :: rest)
  | joint {c : Char} {rest : List Char} (digit : isDecimal c = true) (more : Digits rest) : Digits (c :: '_' :: rest)

/-- A text that writes an integer. -/
def IsInteger (s : String) : Prop :=
  ∃ before sign digits after, s.toList = before ++ (sign ++ digits) ++ after ∧
    (∀ c ∈ before, isSpace c = true) ∧ (∀ c ∈ after, isSpace c = true) ∧
    (sign = [] ∨ sign = ['+'] ∨ sign = ['-']) ∧ Digits digits

/-- The integer that a text writes: its digits count by their places, the last one for units, and a minus negates. -/
def Writes (s : String) (n : Int) : Prop :=
  ∃ before sign digits after, s.toList = before ++ (sign ++ digits) ++ after ∧
    (∀ c ∈ before, isSpace c = true) ∧ (∀ c ∈ after, isSpace c = true) ∧
    (sign = [] ∨ sign = ['+'] ∨ sign = ['-']) ∧ Digits digits ∧
    n = (if sign = ['-'] then -1 else 1) * (Nat.ofDigits 10 (digits.filterMap digitValue?).reverse : Nat)

/-- How many digits stand in a text. -/
def digitCount (s : String) : Nat := s.toList.countP isDecimal

/-- A text that writes an integer with no more digits than are read. -/
def IsReadable (s : String) : Prop := IsInteger s ∧ digitCount s ≤ mostDigits

/-! ## Digits -/

theorem digitValue_lt {c : Char} {d : Nat} (value : digitValue? c = some d) : d < 10 := by
  obtain ⟨least, found, rfl⟩ := Option.map_eq_some_iff.mp value
  have within := List.find?_some found
  simp only [Bool.and_eq_true, decide_eq_true_eq] at within
  omega

theorem isDecimal_range {c : Char} (digit : isDecimal c = true) :
    ∃ least ∈ zeros, least ≤ c.toNat ∧ c.toNat < least + 10 := by
  obtain ⟨d, value⟩ := Option.isSome_iff_exists.mp digit
  obtain ⟨least, found, -⟩ := Option.map_eq_some_iff.mp value
  refine ⟨least, List.mem_of_find?_eq_some found, ?_⟩
  simpa using List.find?_some found

theorem isDecimal_notSpace {c : Char} (digit : isDecimal c = true) : isSpace c = false := by
  obtain ⟨least, member, lower, upper⟩ := isDecimal_range digit
  have apart : ∀ least ∈ zeros, ∀ range ∈ blanks, range.2 < least ∨ least + 10 ≤ range.1 := by decide
  have visible : isBlank c = false := by
    refine Bool.eq_false_iff.mpr fun blank => ?_
    obtain ⟨range, inBlanks, first, last⟩ := Ranges.holds_iff.mp blank
    have := apart least member range inBlanks
    omega
  simp [isSpace, visible]

theorem isDecimal_ne {c : Char} (digit : isDecimal c = true) : c ≠ '_' ∧ c ≠ '+' ∧ c ≠ '-' := by
  refine ⟨?_, ?_, ?_⟩ <;> rintro rfl <;> revert digit <;> decide

/-- Letters count for eleven and more, so base ten takes decimal digits only. -/
theorem letterDigit_lt_ten {c : Char} {d : Nat} : (letterDigit? c = some d ∧ d < 10) ↔ digitValue? c = some d := by
  unfold letterDigit?
  constructor
  · rintro ⟨found, small⟩
    split at found
    · rename_i value known
      rwa [known]
    · split at found
      · cases found
        omega
      · split at found
        · cases found
          omega
        · cases found
  · intro value
    simp [value, digitValue_lt value]

theorem digits_cons {c : Char} {rest : List Char} : Digits (c :: rest) ↔
    isDecimal c = true ∧ (Digits rest ∨ rest = [] ∨ ∃ more, rest = '_' :: more ∧ Digits more) := by
  constructor
  · intro digits
    cases digits with
    | one digit => exact ⟨digit, .inr (.inl rfl)⟩
    | next digit more => exact ⟨digit, .inl more⟩
    | joint digit more => exact ⟨digit, .inr (.inr ⟨_, rfl, more⟩)⟩
  · rintro ⟨digit, more | rfl | ⟨more, rfl, digits⟩⟩
    · exact .next digit more
    · exact .one digit
    · exact .joint digit digits

theorem digits_joint {rest : List Char} : ¬ Digits ('_' :: rest) := by
  intro digits
  exact (isDecimal_ne (digits_cons.mp digits).1).1 rfl

theorem Digits.nonempty {cs : List Char} (digits : Digits cs) : cs ≠ [] := by cases digits <;> simp

theorem Digits.last {cs : List Char} (digits : Digits cs) : ∀ c, cs.getLast? = some c → isDecimal c = true := by
  induction digits with
  | one digit =>
    intro c found
    cases found
    exact digit
  | next digit more ih =>
    intro c found
    rw [List.getLast?_cons_of_ne_nil more.nonempty] at found
    exact ih c found
  | joint digit more ih =>
    intro c found
    rw [List.getLast?_cons_cons, List.getLast?_cons_of_ne_nil more.nonempty] at found
    exact ih c found

/-- What may stand at some point of a numeral: behind a digit the numeral may end or go on after an underscore. -/
theorem digitsIn_isSome (afterDigit : Bool) (cs : List Char) : (digitsIn 10 afterDigit cs).isSome = true ↔
    Digits cs ∨ (afterDigit = true ∧ (cs = [] ∨ ∃ more, cs = '_' :: more ∧ Digits more)) := by
  induction cs generalizing afterDigit with
  | nil =>
    have none_ : ¬ Digits [] := nofun
    cases afterDigit <;> simp [digitsIn, none_]
  | cons c rest ih =>
    by_cases joint : c = '_'
    · subst joint
      cases afterDigit with
      | false => simp [digitsIn, digits_joint]
      | true => simp [digitsIn, digits_joint, ih]
    · have step : (digitsIn 10 afterDigit (c :: rest)).isSome = true ↔
          isDecimal c = true ∧ (digitsIn 10 true rest).isSome = true := by
        rw [digitsIn]
        · cases value : digitValue? c with
          | none =>
            have silent : isDecimal c = false := by simp [isDecimal, value]
            cases letter : letterDigit? c with
            | none => simp [silent]
            | some d =>
              have large : ¬ d < 10 := by
                intro small
                rw [letterDigit_lt_ten.mp ⟨letter, small⟩] at value
                cases value
              simp [large, silent]
          | some d =>
            obtain ⟨letter, small⟩ := letterDigit_lt_ten.mpr value
            simp [letter, small, isDecimal, value]
        · exact joint
      rw [step, ih, digits_cons]
      simp [joint]

/-! ## Numerals -/

theorem settleBase_ten (cs : List Char) : settleBase 10 cs = some (10, cs) := by
  unfold settleBase
  split
  · rename_i c rest
    split
    · rename_i announced known
      have apart : announced ≠ 10 := by
        unfold announcedBase at known
        split at known
        · cases known
          decide
        · split at known
          · cases known
            decide
          · split at known <;> cases known
            decide
      simp [apart.symm]
    · rfl
  · rfl

/-- The digits are read one by one, and underscores are passed over. -/
theorem digitsIn_values {afterDigit : Bool} {cs : List Char} {values : List Nat}
    (read : digitsIn 10 afterDigit cs = some values) : values = cs.filterMap digitValue? := by
  induction cs generalizing afterDigit values with
  | nil =>
    cases afterDigit <;> cases read
    rfl
  | cons c rest ih =>
    by_cases joint : c = '_'
    · subst joint
      have worthless : digitValue? '_' = none := by decide
      cases afterDigit with
      | false => cases read
      | true => rw [List.filterMap_cons_none worthless, ih read]
    · rw [digitsIn] at read
      · split at read
        · rename_i d letter
          split at read
          · rename_i small
            obtain ⟨more, later, rfl⟩ := Option.map_eq_some_iff.mp read
            rw [List.filterMap_cons_some (letterDigit_lt_ten.mp ⟨letter, small⟩), ih later]
          · cases read
        · cases read
      · exact joint

theorem digitsIn_eq_some {cs : List Char} {values : List Nat} :
    digitsIn 10 false cs = some values ↔ Digits cs ∧ values = cs.filterMap digitValue? := by
  have form := digitsIn_isSome false cs
  simp only [Bool.false_eq_true, false_and, or_false] at form
  constructor
  · intro read
    exact ⟨form.mp (by rw [read]; rfl), digitsIn_values read⟩
  · rintro ⟨digits, rfl⟩
    obtain ⟨values, read⟩ := Option.isSome_iff_exists.mp (form.mpr digits)
    rw [read, digitsIn_values read]

theorem numeralIn_eq (values : List Nat) : numeralIn 10 values = Nat.ofDigits 10 values.reverse := by
  induction values using List.reverseRecOn with
  | nil => rfl
  | append_singleton values last ih =>
    rw [List.reverse_append, List.reverse_singleton, List.singleton_append, Nat.ofDigits_cons, ← ih]
    simp [numeralIn, Nat.add_comm]

/-- A sign is told from the digits that follow it, since it is none. -/
theorem readSign_eq_iff {cs digits : List Char} {negative : Bool} (written : Digits digits) :
    readSign cs = (negative, digits) ↔
      ∃ sign, cs = sign ++ digits ∧ (sign = [] ∨ sign = ['+'] ∨ sign = ['-']) ∧ negative = decide (sign = ['-']) := by
  constructor
  · intro read
    unfold readSign at read
    split at read <;> cases read
    · exact ⟨['-'], rfl, .inr (.inr rfl), rfl⟩
    · exact ⟨['+'], rfl, .inr (.inl rfl), rfl⟩
    · exact ⟨[], rfl, .inl rfl, rfl⟩
  · rintro ⟨sign, rfl, rfl | rfl | rfl, rfl⟩
    · cases digits with
      | nil => cases written
      | cons c rest =>
        obtain ⟨-, plus, minus⟩ := isDecimal_ne (digits_cons.mp written).1
        unfold readSign
        split
        · rename_i same
          cases same
          exact absurd rfl minus
        · rename_i same
          cases same
          exact absurd rfl plus
        · rfl
    · rfl
    · rfl

/-- Neither a sign nor a digit is white space, so trimming leaves a numeral as it is. -/
theorem trimBy_numeral {before sign digits after : List Char} (front : ∀ c ∈ before, isSpace c = true)
    (back : ∀ c ∈ after, isSpace c = true) (signed : sign = [] ∨ sign = ['+'] ∨ sign = ['-'])
    (written : Digits digits) : trimBy isSpace (before ++ (sign ++ digits) ++ after) = sign ++ digits := by
  refine trimBy_around (List.append_ne_nil_of_right_ne_nil _ written.nonempty) front back ?_ ?_
  · intro c head
    rcases signed with rfl | rfl | rfl
    · cases written <;> cases head <;> exact isDecimal_notSpace ‹_›
    · cases head
      decide
    · cases head
      decide
  · intro c last
    rw [List.getLast?_append_of_ne_nil _ written.nonempty] at last
    exact isDecimal_notSpace (written.last c last)

theorem isSpace_undigital {c : Char} (space : isSpace c = true) : ¬ isDecimal c = true := by
  intro digit
  rw [isDecimal_notSpace digit] at space
  cases space

/-- The digits of a numeral are all that stand in its text. -/
theorem digitCount_numeral {s : String} {before sign digits after : List Char}
    (split : s.toList = before ++ (sign ++ digits) ++ after) (front : ∀ c ∈ before, isSpace c = true)
    (back : ∀ c ∈ after, isSpace c = true) (signed : sign = [] ∨ sign = ['+'] ∨ sign = ['-']) :
    digitCount s = (digits.filterMap digitValue?).length := by
  have signless : sign.countP isDecimal = 0 := by rcases signed with rfl | rfl | rfl <;> decide
  have blank {gap : List Char} (spaces : ∀ c ∈ gap, isSpace c = true) : gap.countP isDecimal = 0 :=
    List.countP_eq_zero.mpr fun c member => isSpace_undigital (spaces c member)
  rw [digitCount, split, List.countP_append, List.countP_append, List.countP_append, blank front, blank back, signless,
    List.length_filterMap_eq_countP]
  simp only [Nat.zero_add, Nat.add_zero]
  rfl

theorem fits_ten {count : Nat} : fits 10 count = true ↔ count ≤ mostDigits := by simp [fits]

/-- What reading a text in base ten gives is the integer that it writes, if it has not too many digits. -/
theorem readInteger_eq_some {s : String} {n : Int} :
    readInteger? 10 s = some n ↔ Writes s n ∧ digitCount s ≤ mostDigits := by
  have read : readInteger? 10 s =
      ((digitsIn 10 false (readSign (trimBy isSpace s.toList)).2).filter fun values => fits 10 values.length).map
        fun values =>
          if (readSign (trimBy isSpace s.toList)).1 then -(numeralIn 10 values : Int) else numeralIn 10 values := by
    simp [readInteger?, settleBase_ten]
  have signs {sign : List Char} (number : Nat) :
      (if decide (sign = ['-']) = true then -(number : Int) else number) =
        (if sign = ['-'] then -1 else 1) * (number : Int) := by
    by_cases minus : sign = ['-'] <;> simp [minus]
  rw [read]
  constructor
  · intro found
    obtain ⟨values, fitting, rfl⟩ := Option.map_eq_some_iff.mp found
    obtain ⟨body, few⟩ := Option.filter_eq_some_iff.mp fitting
    rcases apart : readSign (trimBy isSpace s.toList) with ⟨negative, digits⟩
    rw [apart] at body
    obtain ⟨written, rfl⟩ := digitsIn_eq_some.mp body
    obtain ⟨sign, trimmed, signed, rfl⟩ := (readSign_eq_iff written).mp apart
    obtain ⟨before, after, split, front, back⟩ := trimBy_split isSpace s.toList
    rw [trimmed] at split
    refine ⟨⟨before, sign, digits, after, split, front, back, signed, written, by rw [signs, numeralIn_eq]⟩, ?_⟩
    rw [digitCount_numeral split front back signed]
    exact fits_ten.mp few
  · rintro ⟨⟨before, sign, digits, after, split, front, back, signed, written, rfl⟩, few⟩
    rw [digitCount_numeral split front back signed] at few
    have trimmed : trimBy isSpace s.toList = sign ++ digits := by rw [split, trimBy_numeral front back signed written]
    have apart := (readSign_eq_iff written).mpr ⟨sign, trimmed, signed, rfl⟩
    rw [apart, digitsIn_eq_some.mpr ⟨written, rfl⟩, Option.filter_some, if_pos (fits_ten.mpr few), Option.map_some, signs,
      numeralIn_eq]

theorem isInteger_iff {s : String} : IsInteger s ↔ ∃ n, Writes s n := by
  constructor
  · rintro ⟨before, sign, digits, after, split, front, back, signed, written⟩
    exact ⟨_, before, sign, digits, after, split, front, back, signed, written, rfl⟩
  · rintro ⟨n, before, sign, digits, after, split, front, back, signed, written, -⟩
    exact ⟨before, sign, digits, after, split, front, back, signed, written⟩

/-- An integer is read from a text in base ten just if it has the form of one and not too many digits. -/
theorem readInteger_isSome (s : String) : (readInteger? 10 s).isSome = true ↔ IsReadable s := by
  simp only [Option.isSome_iff_exists, readInteger_eq_some, IsReadable, isInteger_iff, exists_and_right]

/-! ## Too many digits -/

theorem digits_of_isDecimal {cs : List Char} (nonempty : cs ≠ []) (decimal : ∀ c ∈ cs, isDecimal c = true) :
    Digits cs := by
  induction cs with
  | nil => exact absurd rfl nonempty
  | cons c rest ih =>
    have digit := decimal c List.mem_cons_self
    by_cases last : rest = []
    · subst last
      exact .one digit
    · exact .next digit (ih last fun d member => decimal d (List.mem_cons_of_mem c member))

/-- As few zeros as are too many. -/
def manyZeros : List Char := List.replicate (mostDigits + 1) '0'

theorem length_manyZeros : manyZeros.length = mostDigits + 1 := List.length_replicate

theorem manyZeros_nonempty : manyZeros ≠ [] := List.cons_ne_nil _ _

theorem eq_zero_of_mem_manyZeros {c : Char} (member : c ∈ manyZeros) : c = '0' := (List.mem_replicate.mp member).2

theorem manyZeros_inside : ∀ c ∈ manyZeros, isAsciiDigit c = true := by
  intro c member
  rw [eq_zero_of_mem_manyZeros member]
  decide

theorem manyZeros_decimal : ∀ c ∈ manyZeros, isDecimal c = true := by
  intro c member
  rw [eq_zero_of_mem_manyZeros member]
  decide

theorem isInteger_manyZeros : IsInteger (String.ofList manyZeros) :=
  ⟨[], [], manyZeros, [], by simp, nofun, nofun, .inl rfl, digits_of_isDecimal manyZeros_nonempty manyZeros_decimal⟩

theorem not_isReadable_manyZeros : ¬ IsReadable (String.ofList manyZeros) := by
  rintro ⟨-, few⟩
  rw [digitCount, String.toList_ofList, List.countP_eq_length.mpr manyZeros_decimal, length_manyZeros] at few
  omega

end Colloquy.Text
