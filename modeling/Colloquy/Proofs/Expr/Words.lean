import Mathlib.Data.Nat.Digits.Defs
import Colloquy.Proofs.Expr.Spelling
import Colloquy.Proofs.Text.Numeral

/-! The words that lexemes stand for. A name and an integer are the longest words of their class at the front of a text;
a quoted text goes up to the first mark of its kind that no backslash takes away. Whatever spells a lexeme, and is kept
apart from what comes after it, is the word of that lexeme; where no lexeme can be read there is no word of any. -/
namespace Colloquy
namespace Token

/-- The word of a name: a letter or an underscore, then any letters, underscores and digits. -/
def IsName (word : List Char) : Prop :=
  ∃ c more, word = c :: more ∧ isNameStart c = true ∧ ∀ d ∈ more, isNameChar d = true

/-- The word of an integer: digits with or without a minus, which count by their places. -/
def Numeral (word : List Char) (n : Int) : Prop :=
  ∃ sign digits, word = sign ++ digits ∧ (sign = [] ∨ sign = ['-']) ∧ digits ≠ [] ∧
    (∀ d ∈ digits, Text.isAsciiDigit d = true) ∧
    n = (if sign = [] then 1 else -1) * (Nat.ofDigits 10 (digits.map fun d => d.toNat - '0'.toNat).reverse : Nat)

/-- No longer word of a class stands at the front of a text. -/
structure Longest (OfClass : List Char → Prop) (text word : List Char) : Prop where
  belongs : OfClass word
  inFront : word <+: text
  most : ∀ other, OfClass other → other <+: text → other.length ≤ word.length

/-- What comes right after these characters is escaped: an odd number of backslashes stands before it. -/
def Escaped (before : List Char) : Prop := (before.reverse.takeWhile (· == '\\')).length % 2 = 1

instance (before : List Char) : Decidable (Escaped before) := inferInstanceAs (Decidable (_ = 1))

/-- No mark in a text closes what was opened before it. -/
def NeverClosed (mark : Char) (text : List Char) : Prop :=
  ∀ before after, text = before ++ mark :: after → Escaped before

/-- What the characters between marks say. -/
def unescaped : List Char → List Char
  | '\\' :: e :: rest => unescape e :: unescaped rest
  | c :: rest => c :: unescaped rest
  | [] => []

/-- The word at the front of a text that a lexeme stands for. -/
inductive Stands (text : List Char) : Lexeme → List Char → Prop where
  | name {word : List Char} (longest : Longest IsName text word) : Stands text (.ident (String.ofList word)) word
  | integer {n : Int} {word : List Char} (written : Numeral word n)
      (longest : Longest (fun other => ∃ m, Numeral other m) text word) : Stands text (.int n) word
  | quoted {mark : Char} {body : List Char} (quote : mark = '"' ∨ mark = '\'') (inside : NeverClosed mark body)
      (closed : ¬ Escaped body) (inFront : mark :: (body ++ [mark]) <+: text) :
      Stands text (.text (String.ofList (unescaped body))) (mark :: (body ++ [mark]))
  | single {c : Char} {lexeme : Lexeme} (known : mark? c = some lexeme) (inFront : [c] <+: text) :
      Stands text lexeme [c]

/-- Why no lexeme is read at the front of a text: a mark opens a text there that is never closed, or a character that
is no such mark starts no word. -/
inductive Unreadable : List Char → Expr.Fault → Prop where
  | unclosed {mark : Char} {rest : List Char} (quote : mark = '"' ∨ mark = '\'') (open_ : NeverClosed mark rest) :
      Unreadable (mark :: rest) .unterminatedText
  | stray {c : Char} {rest : List Char} (unquoted : ¬ (c = '"' ∨ c = '\''))
      (startless : ∀ lexeme word, ¬ Stands (c :: rest) lexeme word) : Unreadable (c :: rest) (.unrecognized c)

theorem Stands.inFront {text word : List Char} {lexeme : Lexeme} (stands : Stands text lexeme word) :
    word <+: text := by
  cases stands with
  | name longest => exact longest.inFront
  | integer written longest => exact longest.inFront
  | quoted quote inside closed inFront => exact inFront
  | single known inFront => exact inFront

/-! ## Longest words -/

section Longest
variable {OfClass : List Char → Prop} {p : Char → Bool} {c : Char} {more after : List Char}

/-- A word is the longest of its class if the text goes on with a character that no word of the class has after its
first one. -/
theorem longest_of_boundary (belongs : OfClass (c :: more))
    (goesOn : ∀ other, OfClass other → ∀ d ∈ other.tail, p d = true)
    (boundary : ∀ d, after.head? = some d → p d = false) : Longest OfClass (c :: more ++ after) (c :: more) := by
  refine ⟨belongs, List.prefix_append _ _, fun other ofClass inFront => ?_⟩
  by_contra longer
  obtain ⟨beyond, rfl⟩ :=
    List.prefix_of_prefix_length_le (List.prefix_append (c :: more) after) inFront (by omega)
  cases beyond with
  | nil => simp at longer
  | cons d beyond =>
    have next : d :: beyond <+: after := (List.prefix_append_right_inj _).mp inFront
    have head : after.head? = some d := by
      obtain ⟨left, rfl⟩ := next
      rfl
    have inside := goesOn _ ofClass d (by simp)
    rw [boundary d head] at inside
    cases inside

theorem name_goesOn {word : List Char} (name : IsName word) : ∀ d ∈ word.tail, isNameChar d = true := by
  obtain ⟨c, more, rfl, -, inside⟩ := name
  exact inside

theorem numeral_goesOn {word : List Char} (number : ∃ n, Numeral word n) :
    ∀ d ∈ word.tail, Text.isAsciiDigit d = true := by
  obtain ⟨n, sign, digits, rfl, rfl | rfl, -, inside, -⟩ := number
  · exact fun d member => inside d (List.mem_of_mem_tail member)
  · exact inside

theorem decimalOf_eq (digits : List Char) :
    decimalOf digits = Nat.ofDigits 10 (digits.map fun d => d.toNat - '0'.toNat).reverse :=
  Text.numeralIn_eq _

end Longest

/-! ## Escapes -/

section Escapes
variable {c e mark : Char} {before body cs rest : List Char}

theorem escaped_nil : ¬ Escaped [] := by decide

theorem escaped_backslash : Escaped ['\\'] := by decide

theorem takeWhile_concat {p : Char → Bool} (cs : List Char) (fails : p c = false) :
    (cs ++ [c]).takeWhile p = cs.takeWhile p := by
  rw [List.takeWhile_append]
  split
  · rename_i whole
    rw [List.takeWhile_cons_of_neg (by simp [fails]), List.append_nil]
    exact ((List.takeWhile_prefix p).eq_of_length whole).symm
  · rfl

/-- A character that is no backslash escapes nothing. -/
theorem escaped_cons (bare : c ≠ '\\') : Escaped (c :: before) ↔ Escaped before := by
  rw [Escaped, Escaped, List.reverse_cons, takeWhile_concat _ (by simpa using bare)]

/-- A backslash and the character after it escape nothing further on. -/
theorem escaped_pair : Escaped ('\\' :: e :: before) ↔ Escaped before := by
  rw [Escaped, Escaped, List.reverse_cons, List.reverse_cons, List.append_assoc, List.takeWhile_append]
  split
  · rename_i whole
    rw [List.length_append, whole]
    by_cases backslash : e = '\\'
    · subst backslash
      exact Eq.congr_left (Nat.add_mod_right _ 2)
    · simp [backslash]
  · rfl

theorem quote_ne (quote : mark = '"' ∨ mark = '\'') : mark ≠ '\\' := by
  rcases quote with rfl | rfl <;> decide

theorem neverClosed_nil : NeverClosed mark [] := fun before after same => by simp at same

/-- A character that neither closes nor escapes anything leaves open what is open after it. -/
theorem neverClosed_cons (inner : c ≠ mark) (bare : rest ≠ [] → c ≠ '\\') (inside : NeverClosed mark rest) :
    NeverClosed mark (c :: rest) := by
  intro before after same
  cases before with
  | nil =>
    cases same
    exact absurd rfl inner
  | cons d before =>
    cases same
    exact (escaped_cons (bare (by simp))).mpr (inside before after rfl)

/-- An escape leaves open what is open after it, even if it is one of the mark. -/
theorem neverClosed_pair (other : mark ≠ '\\') (inside : NeverClosed mark rest) :
    NeverClosed mark ('\\' :: e :: rest) := by
  intro before after same
  rcases before with - | ⟨d, - | ⟨d', before⟩⟩
  · cases same
    exact absurd rfl other
  · cases same
    exact escaped_backslash
  · cases same
    exact escaped_pair.mpr (inside before after rfl)

/-- What is written between marks is closed by neither an escape nor a mark of its own. -/
theorem Quotes.encloses (quotes : Quotes mark cs body) (other : mark ≠ '\\') :
    NeverClosed mark body ∧ ¬ Escaped body := by
  induction quotes with
  | nil => exact ⟨neverClosed_nil, escaped_nil⟩
  | plain inner bare more ih =>
    obtain ⟨inside, closed⟩ := ih
    exact ⟨neverClosed_cons inner (fun _ => bare) inside, fun escaped => closed ((escaped_cons bare).mp escaped)⟩
  | escaped more ih =>
    obtain ⟨inside, closed⟩ := ih
    exact ⟨neverClosed_pair other inside, fun escaped => closed (escaped_pair.mp escaped)⟩

theorem Quotes.unescaped_eq (quotes : Quotes mark cs body) : unescaped body = cs := by
  induction quotes with
  | nil => rfl
  | plain inner bare more ih =>
    rw [unescaped, ih]
    exact fun e rest same => absurd same bare
  | escaped more ih => rw [unescaped, ih]

/-- A text of which no end is read has no mark that closes it. -/
theorem neverClosed_of_readQuoted {text : List Char} (unread : readQuoted mark text = none) (other : mark ≠ '\\') :
    NeverClosed mark text := by
  fun_induction readQuoted mark text with
  | case1 => exact neverClosed_nil
  | case2 e rest ih => exact neverClosed_pair other (ih (Option.map_eq_none_iff.mp unread))
  | case3 => cases unread
  | case4 c rest unescaped open_ ih =>
    refine neverClosed_cons (by simpa using open_) (fun goesOn backslash => ?_) (ih (Option.map_eq_none_iff.mp unread))
    -- A backslash with something after it would have been read as an escape.
    obtain ⟨e, more, rfl⟩ := List.exists_cons_of_ne_nil goesOn
    exact unescaped e more backslash rfl

end Escapes

/-! ## What lexemes stand for -/

section Words
variable {lexeme : Lexeme} {c : Char} {word after rest : List Char}

/-- A lexeme stands for what spells it, if the text does not go on with it. -/
theorem stands_of_spells (spelled : Spells lexeme word) (apart : Apart lexeme after) :
    Stands (word ++ after) lexeme word := by
  cases spelled with
  | ident start inside =>
    exact .name (longest_of_boundary ⟨_, _, rfl, start, inside⟩ (fun other => name_goesOn) apart)
  | natural nonempty inside =>
    obtain ⟨d, digits, rfl⟩ := List.exists_cons_of_ne_nil nonempty
    have written : Numeral (d :: digits) (decimalOf (d :: digits)) :=
      ⟨[], d :: digits, rfl, .inl rfl, nonempty, inside, by simp [decimalOf_eq]⟩
    exact .integer written (longest_of_boundary ⟨_, written⟩ (fun other => numeral_goesOn) apart)
  | @negative digits nonempty inside =>
    have written : Numeral ('-' :: digits) (-(decimalOf digits : Int)) :=
      ⟨['-'], digits, rfl, .inr rfl, nonempty, inside, by simp [decimalOf_eq]⟩
    exact .integer written (longest_of_boundary ⟨_, written⟩ (fun other => numeral_goesOn) apart)
  | text quote quotes =>
    obtain ⟨inside, closed⟩ := quotes.encloses (quote_ne quote)
    rw [← quotes.unescaped_eq]
    exact .quoted quote inside closed (List.prefix_append _ _)
  | single known => exact .single known (List.prefix_append _ _)

/-- A character starts no word that is neither a quote nor a digit nor a letter nor a mark, nor a minus before a
digit. -/
theorem startless (unquoted : ¬ (c = '"' ∨ c = '\'')) (digitless : ¬ Text.isAsciiDigit c = true)
    (unsigned : c = '-' → rest.takeWhile Text.isAsciiDigit = []) (nameless : ¬ isNameStart c = true)
    (unknown : mark? c = none) (stands : Stands (c :: rest) lexeme word) : False := by
  cases stands with
  | name longest =>
    obtain ⟨⟨d, more, rfl, start, -⟩, inFront, -⟩ := longest
    obtain ⟨rfl, -⟩ := List.cons_prefix_cons.mp inFront
    exact nameless start
  | integer written longest =>
    obtain ⟨sign, digits, rfl, signed, nonempty, inside, -⟩ := written
    obtain ⟨d, digits, rfl⟩ := List.exists_cons_of_ne_nil nonempty
    have digit := inside d List.mem_cons_self
    have inFront := longest.inFront
    rcases signed with rfl | rfl
    · obtain ⟨rfl, -⟩ := List.cons_prefix_cons.mp inFront
      exact digitless digit
    · obtain ⟨rfl, left, rfl⟩ := List.cons_prefix_cons.mp inFront
      have run : (d :: (digits ++ left)).takeWhile Text.isAsciiDigit = [] := unsigned rfl
      rw [List.takeWhile_cons_of_pos digit] at run
      cases run
  | quoted quote inside closed inFront =>
    obtain ⟨rfl, -⟩ := List.cons_prefix_cons.mp inFront
    exact unquoted quote
  | single known inFront =>
    obtain ⟨rfl, -⟩ := List.cons_prefix_cons.mp inFront
    rw [unknown] at known
    cases known

theorem unreadable_of_readLexeme {fault : Expr.Fault} (refused : readLexeme c rest = .error (.malformed fault)) :
    Unreadable (c :: rest) fault := by
  have lexes := readLexeme_lexes c rest
  rw [refused] at lexes
  cases lexes with
  | unclosed quote open_ => exact .unclosed quote (neverClosed_of_readQuoted open_ (quote_ne quote))
  | stray unquoted digitless unsigned nameless unknown =>
    exact .stray unquoted fun lexeme word => startless unquoted digitless unsigned nameless unknown

end Words
end Token
end Colloquy
