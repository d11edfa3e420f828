import Mathlib.Data.List.Infix
import Colloquy.Proofs.Expr.Layout
import Colloquy.Proofs.Expr.Sentences

/-! How expressions are written. An expression is well formed when its names are names and its call has an argument.
Any derivation of a well-formed expression can be spelled out, in as many ways as its lexemes can be spelled and laid
out, and in each of them it is read back, unless an integer is spelled with too many digits: then nothing is read.
Nothing but well-formed expressions is ever read, and no integer that needs too many digits. -/
namespace Colloquy

/-! ## Well-formed expressions -/

/-- A name: a letter or an underscore, and then letters, digits and underscores, all of them ASCII. -/
def Token.isName (name : String) : Bool :=
  match name.toList with
  | [] => false
  | c :: more => isNameStart c && more.all isNameChar

/-- A lexeme that stands for something: a name, an integer or a text, not a mark. -/
def Lexeme.isTerm : Lexeme → Bool
  | .ident _ | .int _ | .text _ => true
  | _ => false

/-- The lexemes that a step stands for. -/
def Segment.terms : Segment → List Lexeme
  | field name => [.ident name]
  | index i => [.int i]

/-- The lexemes that a path stands for. -/
def Path.terms (path : Path) : List Lexeme := .ident path.root :: path.steps.flatMap Segment.terms

/-- The lexemes that an operand stands for. -/
def Operand.terms : Operand → List Lexeme
  | int n => [.int n]
  | text s => [.text s]
  | path p => p.terms

/-- The lexemes that an argument stands for, its keyword among them. -/
def Argument.terms : Argument → List Lexeme
  | positional value => value.terms
  | keyword name value => .ident name :: value.terms

/-- The lexemes that several arguments stand for. -/
def Arguments.terms (args : Arguments) : List Lexeme :=
  args.positional.flatMap Operand.terms ++ args.keywords.flatMap fun (name, value) => .ident name :: value.terms

/-- The lexemes that the start of a pipeline stands for. -/
def Primary.terms : Primary → List Lexeme
  | operand value => value.terms
  | call name args => .ident name :: args.terms

/-- The lexemes that a filter stands for, its name among them. -/
def FilterCall.terms (filter : FilterCall) : List Lexeme := .ident filter.name :: filter.args.terms

namespace Expr

/-- The names, integers and texts in an expression. -/
def terms (expr : Expr) : List Lexeme := expr.base.terms ++ expr.filters.flatMap FilterCall.terms

/-- All names are names, and a call has at least one argument; without any it could not be told from a path. -/
structure WellFormed (expr : Expr) : Prop where
  named : ∀ name, .ident name ∈ expr.terms → Token.isName name = true
  applied : ∀ name args, expr.base = .call name args → args.isEmpty = false

/-- No integer in an expression needs more digits than are read. -/
def Bounded (expr : Expr) : Prop := ∀ n : Int, .int n ∈ expr.terms → n.natAbs < 10 ^ Text.mostDigits

/-! ## The terms of a derivation -/

section Terms
variable {term : Lexeme}

theorem mem_argumentsCons {args : Arguments} {first : Argument} :
    term ∈ (args.cons first).terms ↔ term ∈ first.terms ∨ term ∈ args.terms := by
  cases first with
  | positional value => simp [Arguments.cons, Arguments.terms, Argument.terms]
  | keyword key value =>
    simp only [Arguments.cons, Arguments.terms, Argument.terms, List.flatMap_cons, List.mem_append, List.mem_cons]
    exact or_left_comm

variable (isTerm : term.isTerm = true)
include isTerm

/-- No term is a mark. -/
theorem term_ne : term ≠ .dollar ∧ term ≠ .dot ∧ term ≠ .leftBracket ∧ term ≠ .rightBracket ∧ term ≠ .pipe ∧
    term ≠ .comma ∧ term ≠ .equals := by
  refine ⟨?_, ?_, ?_, ?_, ?_, ?_, ?_⟩ <;> rintro rfl <;> cases isTerm

theorem mem_step (tree : StepTree) : term ∈ tree.word ↔ term ∈ tree.segment.terms := by
  cases tree <;> simp [StepTree.word, StepTree.segment, Segment.terms, term_ne isTerm]

theorem mem_path (tree : PathTree) : term ∈ tree.word ↔ term ∈ tree.path.terms := by
  cases dollar : tree.dollar <;>
    simp [PathTree.word, PathTree.path, Path.terms, dollar, mem_step isTerm, List.flatMap_map, term_ne isTerm]

theorem mem_operand (tree : OperandTree) : term ∈ tree.word ↔ term ∈ tree.operand.terms := by
  cases tree with
  | path p => exact mem_path isTerm p
  | _ => simp [OperandTree.word, OperandTree.operand, Operand.terms]

theorem mem_argument (tree : ArgumentTree) : term ∈ tree.word ↔ term ∈ tree.argument.terms := by
  obtain ⟨keyword, value, comma⟩ := tree
  cases keyword <;> cases comma <;>
    simp [ArgumentTree.word, keywordWord, ArgumentTree.argument, Argument.terms, mem_operand isTerm, term_ne isTerm]

theorem mem_arguments (trees : List ArgumentTree) :
    term ∈ trees.flatMap ArgumentTree.word ↔ term ∈ (argumentsOf trees).terms := by
  induction trees with
  | nil => simp [argumentsOf, Arguments.none, Arguments.terms]
  | cons tree rest ih =>
    rw [List.flatMap_cons, List.mem_append, mem_argument isTerm, ih, argumentsOf_cons, mem_argumentsCons]

/-- The terms of an expression are those of any derivation of it. -/
theorem mem_tree (tree : Tree) : term ∈ tree.word ↔ term ∈ tree.expr.terms := by
  have base : term ∈ tree.base.word ↔ term ∈ tree.base.primary.terms := by
    cases tree.base with
    | operand value => exact mem_operand isTerm value
    | call called first more => simp [PrimaryTree.word, PrimaryTree.primary, Primary.terms, ← mem_arguments isTerm]
  have filter (tree : FilterTree) : term ∈ tree.word ↔ term ∈ tree.call.terms := by
    simp [FilterTree.word, FilterTree.call, FilterCall.terms, ← mem_arguments isTerm, term_ne isTerm]
  simp [Tree.word, Tree.expr, terms, base, filter, List.flatMap_map]

end Terms

/-! ## A derivation for each expression -/

/-- A derivation of a step. -/
def StepTree.ofSegment : Segment → StepTree
  | .field name => point name
  | .index i => item i

/-- A derivation of an operand. -/
def OperandTree.ofOperand : Operand → OperandTree
  | .int n => int n
  | .text s => text s
  | .path p => path ⟨false, p.root, p.steps.map StepTree.ofSegment⟩

/-- A derivation of arguments: those by position first, no commas. -/
def argumentTrees (args : Arguments) : List ArgumentTree :=
  args.positional.map (fun value => ⟨none, .ofOperand value, false⟩) ++
    args.keywords.map fun (name, value) => ⟨some name, .ofOperand value, false⟩

theorem operand_ofOperand (value : Operand) : (OperandTree.ofOperand value).operand = value := by
  have segment (step : Segment) : (StepTree.ofSegment step).segment = step := by cases step <;> rfl
  cases value with
  | path p => simp [OperandTree.ofOperand, OperandTree.operand, PathTree.path, Function.comp_def, segment]
  | _ => rfl

theorem argumentsOf_trees (args : Arguments) : argumentsOf (argumentTrees args) = args := by
  obtain ⟨positional, keywords⟩ := args
  induction positional with
  | nil =>
    induction keywords with
    | nil => rfl
    | cons first rest ih =>
      change argumentsOf (⟨some first.1, .ofOperand first.2, false⟩ :: argumentTrees ⟨[], rest⟩) = _
      rw [argumentsOf_cons, ih, ArgumentTree.argument, operand_ofOperand]
      rfl
  | cons first rest ih =>
    change argumentsOf (⟨none, .ofOperand first, false⟩ :: argumentTrees ⟨rest, keywords⟩) = _
    rw [argumentsOf_cons, ih, ArgumentTree.argument, operand_ofOperand]
    rfl

/-- An expression whose call has an argument has a derivation. -/
theorem exists_tree {expr : Expr} (applied : ∀ name args, expr.base = .call name args → args.isEmpty = false) :
    ∃ tree : Tree, tree.expr = expr := by
  obtain ⟨base, filters⟩ := expr
  have primary : ∃ tree : PrimaryTree, tree.primary = base := by
    cases base with
    | operand value => exact ⟨.operand (.ofOperand value), by rw [PrimaryTree.primary, operand_ofOperand]⟩
    | call name args =>
      cases trees : argumentTrees args with
      | nil =>
        have empty := argumentsOf_trees args
        rw [trees] at empty
        subst empty
        cases applied name _ rfl
      | cons first more => exact ⟨.call name first more, by rw [PrimaryTree.primary, ← trees, argumentsOf_trees]⟩
  obtain ⟨tree, rfl⟩ := primary
  refine ⟨⟨tree, filters.map fun filter => ⟨filter.name, argumentTrees filter.args⟩⟩, ?_⟩
  simp [Tree.expr, FilterTree.call, Function.comp_def, argumentsOf_trees]

theorem tree_applied (tree : Tree) (name : String) (args : Arguments) (call : tree.expr.base = .call name args) :
    args.isEmpty = false := by
  obtain ⟨base, filters⟩ := tree
  cases base with
  | operand value => cases call
  | call called first more =>
    cases call
    rw [argumentsOf_cons]
    cases first.argument with
    | positional value => rfl
    | keyword key value => exact Bool.and_false _

end Expr

/-! ## A spelling for each lexeme -/

namespace Token

theorem isName_ofList {c : Char} {more : List Char} :
    isName (String.ofList (c :: more)) = true ↔ isNameStart c = true ∧ ∀ d ∈ more, isNameChar d = true := by
  simp [isName]

theorem isName_of_spelled {name : String} {word : List Char} (spelled : Spells (.ident name) word) :
    isName name = true := by
  cases spelled with
  | ident start inside => exact isName_ofList.mpr ⟨start, inside⟩
  | single known => exact absurd rfl ((mark_ne known).1 name)

theorem decimalOf_snoc (digits : List Char) (c : Char) :
    decimalOf (digits ++ [c]) = 10 * decimalOf digits + (c.toNat - '0'.toNat) := by
  simp [decimalOf, Text.numeral]

/-- A number is less than the power of ten that its digits reach. -/
theorem decimalOf_lt {digits : List Char} (inside : ∀ d ∈ digits, Text.isAsciiDigit d = true) :
    decimalOf digits < 10 ^ digits.length := by
  induction digits using List.reverseRecOn with
  | nil => decide
  | append_singleton digits last ih =>
    have earlier := ih fun d member => inside d (List.mem_append_left _ member)
    have small := isAsciiDigit_iff.mp (inside last (by simp))
    have zero : '0'.toNat = 48 := rfl
    rw [decimalOf_snoc, List.length_append, List.length_singleton, Nat.pow_succ]
    omega

/-- A number can be written, and with no more digits than it needs. -/
theorem exists_digits (n : Nat) : ∃ digits, digits ≠ [] ∧ (∀ d ∈ digits, Text.isAsciiDigit d = true) ∧
    decimalOf digits = n ∧ ∀ count, 0 < count → n < 10 ^ count → digits.length ≤ count := by
  have single (d : Nat) (small : d < 10) :
      Text.isAsciiDigit (Char.ofNat (48 + d)) = true ∧ (Char.ofNat (48 + d)).toNat - '0'.toNat = d := by
    revert d
    decide
  induction n using Nat.strongRecOn with
  | ind n ih =>
    by_cases small : n < 10
    · obtain ⟨digit, value⟩ := single n small
      refine ⟨[Char.ofNat (48 + n)], List.cons_ne_nil _ _, by simpa using digit, ?_, fun count positive _ => positive⟩
      rw [← List.nil_append [_], decimalOf_snoc, value]
      exact Nat.zero_add n
    · obtain ⟨digits, nonempty, inside, value, few⟩ := ih (n / 10) (by omega)
      obtain ⟨digit, last⟩ := single (n % 10) (by omega)
      refine ⟨digits ++ [Char.ofNat (48 + n % 10)], by simp, ?_, ?_, fun count positive bound => ?_⟩
      · intro d member
        rcases List.mem_append.mp member with before | final
        · exact inside d before
        · rwa [List.mem_singleton.mp final]
      · rw [decimalOf_snoc, value, last]
        omega
      · rw [List.length_append, List.length_singleton]
        obtain ⟨count, rfl⟩ := Nat.exists_eq_succ_of_ne_zero (Nat.pos_iff_ne_zero.mp positive)
        rw [Nat.pow_succ] at bound
        have more : 0 < count := by
          refine Nat.pos_of_ne_zero ?_
          rintro rfl
          omega
        have := few count more (by omega)
        omega

/-- An integer is spelled with few enough digits just if it does not need more. -/
theorem Spells.bounded {n : Int} {word : List Char} (spelled : Spells (.int n) word) (fits : Fits (.int n) word) :
    n.natAbs < 10 ^ Text.mostDigits := by
  have bound {digits : List Char} (inside : ∀ d ∈ digits, Text.isAsciiDigit d = true)
      (few : digits.length ≤ Text.mostDigits) : decimalOf digits < 10 ^ Text.mostDigits :=
    Nat.lt_of_lt_of_le (decimalOf_lt inside) (Nat.pow_le_pow_right (by decide) few)
  cases spelled with
  | natural nonempty inside =>
    rw [Fits, digits_natural inside] at fits
    simpa using bound inside fits
  | negative nonempty inside =>
    rw [Fits, digits_negative inside] at fits
    simpa using bound inside fits
  | single known => exact absurd rfl ((mark_ne known).2 n)

/-- Any text can be written between either kind of marks. -/
theorem exists_quotes {mark : Char} (quote : mark = '"' ∨ mark = '\'') (cs : List Char) :
    ∃ written, Quotes mark cs written := by
  induction cs with
  | nil => exact ⟨[], .nil⟩
  | cons c rest ih =>
    obtain ⟨written, quotes⟩ := ih
    by_cases bare : c ≠ mark ∧ c ≠ '\\'
    · exact ⟨c :: written, .plain bare.1 bare.2 quotes⟩
    · have itself : unescape c = c := by
        rcases Decidable.or_iff_not_not_and_not.mpr bare with rfl | rfl
        · rcases quote with rfl | rfl <;> rfl
        · rfl
      have escaped : Quotes mark (unescape c :: rest) ('\\' :: c :: written) := .escaped quotes
      rw [itself] at escaped
      exact ⟨_, escaped⟩

/-- A lexeme can be spelled unless it is to be a name and is none; and with few enough digits unless it needs more. -/
theorem exists_spelling {lexeme : Lexeme} (named : ∀ name, lexeme = .ident name → isName name = true) :
    ∃ word, Spells lexeme word ∧
      ((∀ n : Int, lexeme = .int n → n.natAbs < 10 ^ Text.mostDigits) → Fits lexeme word) := by
  have mark (c : Char) (known : mark? c = some lexeme) : ∃ word, Spells lexeme word ∧
      ((∀ n : Int, lexeme = .int n → n.natAbs < 10 ^ Text.mostDigits) → Fits lexeme word) :=
    ⟨[c], .single known, fun _ => mark_fits known [c]⟩
  cases lexeme with
  | ident name =>
    have valid := named name rfl
    have same : name = String.ofList name.toList := by simp
    rw [same] at valid ⊢
    cases chars : name.toList with
    | nil =>
      rw [chars] at valid
      cases valid
    | cons c more =>
      rw [chars] at valid
      obtain ⟨start, inside⟩ := isName_ofList.mp valid
      exact ⟨_, .ident start inside, fun _ => Nat.zero_le _⟩
  | int n =>
    obtain ⟨digits, nonempty, inside, value, few⟩ := exists_digits n.natAbs
    have fits (bounded : ∀ m : Int, Lexeme.int n = .int m → m.natAbs < 10 ^ Text.mostDigits) :
        digits.length ≤ Text.mostDigits := few _ (by decide) (bounded n rfl)
    rcases Int.natAbs_eq n with same | same
    · refine ⟨digits, ?_, fun bounded => ?_⟩
      · rw [same, ← value]
        exact .natural nonempty inside
      · rw [Fits, digits_natural inside]
        exact fits bounded
    · refine ⟨'-' :: digits, ?_, fun bounded => ?_⟩
      · rw [same, ← value]
        exact .negative nonempty inside
      · rw [Fits, digits_negative inside]
        exact fits bounded
  | text s =>
    obtain ⟨written, quotes⟩ := exists_quotes (.inl rfl) s.toList
    have spelled := Spells.text (.inl rfl) quotes
    rw [String.ofList_toList] at spelled
    exact ⟨_, spelled, fun _ => Nat.zero_le _⟩
  | dollar => exact mark '$' rfl
  | dot => exact mark '.' rfl
  | leftBracket => exact mark '[' rfl
  | rightBracket => exact mark ']' rfl
  | pipe => exact mark '|' rfl
  | comma => exact mark ',' rfl
  | equals => exact mark '=' rfl

section Layouts
variable {Allowed : Lexeme → List Char → Prop}

/-- Lexemes that can be spelled can be laid out, with a blank after each of them. -/
theorem exists_laidOut {word : List Lexeme}
    (spelled : ∀ lexeme ∈ word, ∃ written, Spells lexeme written ∧ Allowed lexeme written) (position : Nat) :
    ∃ tokens text, Expr.lexemes tokens = word ∧ LaidOut Allowed position tokens text := by
  induction word generalizing position with
  | nil => exact ⟨[], [], rfl, .done (by simp)⟩
  | cons lexeme rest ih =>
    obtain ⟨written, first, allowed⟩ := spelled lexeme List.mem_cons_self
    obtain ⟨tokens, text, rfl, laid⟩ :=
      ih (fun other member => spelled other (List.mem_cons_of_mem _ member)) (position + written.length + 1)
    have blank : Text.isBlank ' ' = true := by decide
    have gapless : ∀ c ∈ [], Text.isBlank c = true := by simp
    exact ⟨_, _, rfl, .next gapless first allowed (apart_of_blank blank text) (laid.after_blank blank)⟩

theorem LaidOut.spelled {position : Nat} {tokens : List Token} {text : List Char}
    (laid : LaidOut Allowed position tokens text) :
    ∀ lexeme ∈ Expr.lexemes tokens, ∃ written, Spells lexeme written ∧ Allowed lexeme written := by
  induction laid with
  | done blank => simp
  | next blank spelled allowed apart more ih =>
    intro lexeme member
    rcases List.mem_cons.mp member with rfl | later
    · exact ⟨_, spelled, allowed⟩
    · exact ih lexeme later

end Layouts

end Token

/-! ## Writing and reading -/

namespace Expr

/-- The texts that spell out a derivation: its lexemes, each in some spelling, laid out in some way. -/
def Tree.Spells (tree : Tree) (text : List Char) : Prop :=
  ∃ tokens, lexemes tokens = tree.word ∧ Token.LaidOut Token.Any 0 tokens text

/-- The texts that write a derivation: they spell it out, no integer with more digits than are read. -/
def Tree.Writes (tree : Tree) (text : List Char) : Prop :=
  ∃ tokens, lexemes tokens = tree.word ∧ Token.Layout 0 tokens text

section Written
variable {tree : Tree} {text : List Char}

/-- If a derivation stands for something well formed, its lexemes can be spelled. -/
theorem Tree.lexeme_spelling {lexeme : Lexeme} (formed : tree.expr.WellFormed) (member : lexeme ∈ tree.word) :
    ∃ written, Token.Spells lexeme written ∧
      ((∀ n : Int, lexeme = .int n → n.natAbs < 10 ^ Text.mostDigits) → Token.Fits lexeme written) := by
  refine Token.exists_spelling ?_
  rintro name rfl
  exact formed.named name ((mem_tree rfl tree).mp member)

/-- A derivation can be spelled out just if what it stands for is well formed. -/
theorem Tree.exists_spells_iff (tree : Tree) : (∃ text, tree.Spells text) ↔ tree.expr.WellFormed := by
  constructor
  · rintro ⟨text, tokens, word, laid⟩
    refine ⟨fun name member => ?_, tree_applied tree⟩
    rw [← mem_tree rfl, ← word] at member
    obtain ⟨written, spelled, -⟩ := laid.spelled _ member
    exact Token.isName_of_spelled spelled
  · intro formed
    have spelled : ∀ lexeme ∈ tree.word, ∃ written, Token.Spells lexeme written ∧ True := by
      intro lexeme member
      obtain ⟨written, spelled, -⟩ := Tree.lexeme_spelling formed member
      exact ⟨written, spelled, trivial⟩
    obtain ⟨tokens, text, word, laid⟩ := Token.exists_laidOut spelled 0
    exact ⟨text, tokens, word, laid⟩

theorem Tree.Writes.spells (writes : tree.Writes text) : tree.Spells text := by
  obtain ⟨tokens, word, laid⟩ := writes
  exact ⟨tokens, word, laid.weaken fun _ _ _ => trivial⟩

/-- A derivation can be written just if it can be spelled out and no integer needs too many digits. -/
theorem Tree.exists_writes_iff (tree : Tree) :
    (∃ text, tree.Writes text) ↔ tree.expr.WellFormed ∧ tree.expr.Bounded := by
  constructor
  · rintro ⟨text, writes⟩
    refine ⟨tree.exists_spells_iff.mp ⟨text, writes.spells⟩, fun n member => ?_⟩
    obtain ⟨tokens, word, laid⟩ := writes
    rw [← mem_tree rfl, ← word] at member
    obtain ⟨written, spelled, fits⟩ := laid.spelled _ member
    exact spelled.bounded fits
  · rintro ⟨formed, bounded⟩
    have spelled : ∀ lexeme ∈ tree.word, ∃ written, Token.Spells lexeme written ∧ Token.Fits lexeme written := by
      intro lexeme member
      obtain ⟨written, spelled, fits⟩ := Tree.lexeme_spelling formed member
      refine ⟨written, spelled, fits ?_⟩
      rintro n rfl
      exact bounded n ((mem_tree rfl tree).mp member)
    obtain ⟨tokens, text, word, laid⟩ := Token.exists_laidOut spelled 0
    exact ⟨text, tokens, word, laid⟩

theorem parse_writes (writes : tree.Writes text) : parse (String.ofList text) = .ok tree.expr := by
  obtain ⟨tokens, word, laid⟩ := writes
  have read := Token.scan_layout laid ((0 : Nat) - 2) []
  rw [parse, String.toList_ofList, Region.read, read]
  exact heldBy_ok.mpr (ofRegion_tree word.symm)

/-- What spells out a derivation and does not write it has an integer with too many digits, and is not read. -/
theorem parse_spells (spells : tree.Spells text) (large : ¬ tree.Writes text) :
    ∃ numeral : Text.Oversize, Text.mostDigits < numeral.digits ∧
      parse (String.ofList text) = .error (.oversized numeral) := by
  obtain ⟨tokens, word, laid⟩ := spells
  rcases laid.layout_or_oversized with layout | ⟨numeral, many, refused⟩
  · exact absurd ⟨tokens, word, layout⟩ large
  · refine ⟨numeral, many, ?_⟩
    rw [parse, String.toList_ofList, Region.read, refused]
    rfl

end Written

/-- What is read has been written, up to the first closing braces in the text. -/
theorem writes_of_parse {source : String} {expr : Expr} (read : parse source = .ok expr) :
    ∃ (tree : Tree) (text after : List Char), source.toList ++ ['\x7d', '\x7d'] = text ++ '\x7d' :: '\x7d' :: after ∧
      tree.Writes text ∧ tree.expr = expr := by
  obtain ⟨region, scanned, read⟩ := eq_ok_of_bind read
  obtain ⟨text, after, same, laid, -⟩ := Token.layout_of_scan scanned
  obtain ⟨tree, word, rfl⟩ := ofRegion_sound (heldBy_ok.mp read)
  exact ⟨tree, text, after, same, ⟨region.tokens, word.symm, laid⟩, rfl⟩

theorem exists_parse_iff (expr : Expr) : (∃ source, parse source = .ok expr) ↔ expr.WellFormed ∧ expr.Bounded := by
  constructor
  · rintro ⟨source, read⟩
    obtain ⟨tree, text, -, -, writes, rfl⟩ := writes_of_parse read
    exact tree.exists_writes_iff.mp ⟨text, writes⟩
  · rintro ⟨formed, bounded⟩
    obtain ⟨tree, rfl⟩ := exists_tree formed.applied
    obtain ⟨text, writes⟩ := tree.exists_writes_iff.mpr ⟨formed, bounded⟩
    exact ⟨String.ofList text, parse_writes writes⟩

/-- What can be read is exactly the well-formed expressions whose integers do not need too many digits. A derivation of a
well-formed expression can always be spelled out; however it is written, the same expression is read back, and if an
integer in it has too many digits, it is refused for that. -/
theorem parse_printable (expr : Expr) :
    ((∃ source, parse source = .ok expr) ↔ expr.WellFormed ∧ expr.Bounded) ∧
    ∀ tree : Tree, tree.expr = expr → (expr.WellFormed → ∃ text, tree.Spells text) ∧
      (expr.WellFormed ∧ expr.Bounded → ∃ text, tree.Writes text) ∧
      (∀ text, tree.Writes text → parse (String.ofList text) = .ok expr) ∧
      ∀ text, tree.Spells text → ¬ tree.Writes text → ∃ numeral : Text.Oversize,
        Text.mostDigits < numeral.digits ∧ parse (String.ofList text) = .error (.oversized numeral) := by
  refine ⟨exists_parse_iff expr, ?_⟩
  rintro tree rfl
  exact ⟨tree.exists_spells_iff.mpr, tree.exists_writes_iff.mpr, fun text => parse_writes, fun text => parse_spells⟩

/-- A call with a repeated keyword on both sides of a positional argument, whose text has an escaped mark and closing
braces in it; and a zero written with too many digits. -/
theorem parse_printable_call : (∃ tree : Tree,
    tree.Writes "say n=-2, 'it\\'s \x7d\x7d' n = x".toList ∧
    parse (String.ofList "say n=-2, 'it\\'s \x7d\x7d' n = x".toList) =
      .ok ⟨.call "say" ⟨[.text "it's \x7d\x7d"], [("n", .int (-2)), ("n", .path ⟨"x", []⟩)]⟩, []⟩) ∧
    ∃ (tree : Tree) (text : List Char) (numeral : Text.Oversize), tree.Spells text ∧ ¬ tree.Writes text ∧
      Text.mostDigits < numeral.digits ∧ parse (String.ofList text) = .error (.oversized numeral) := by
  let tree : Tree := ⟨.call "say" ⟨some "n", .int (-2), true⟩
    [⟨none, .text "it's \x7d\x7d", false⟩, ⟨some "n", .path ⟨false, "x", []⟩, false⟩], []⟩
  let tokens : List Token := [⟨.ident "say", 0⟩, ⟨.ident "n", 4⟩, ⟨.equals, 5⟩, ⟨.int (-2), 6⟩, ⟨.comma, 8⟩,
    ⟨.text "it's \x7d\x7d", 10⟩, ⟨.ident "n", 21⟩, ⟨.equals, 23⟩, ⟨.ident "x", 25⟩]
  have scanned : Region.read 0 ("say n=-2, 'it\\'s \x7d\x7d' n = x".toList ++ ['\x7d', '\x7d']) = .ok ⟨tokens, 26⟩ := by
    decide +kernel
  have writes : tree.Writes "say n=-2, 'it\\'s \x7d\x7d' n = x".toList := by
    obtain ⟨text, after, same, laid, close⟩ := Token.layout_of_scan scanned
    have length : "say n=-2, 'it\\'s \x7d\x7d' n = x".toList.length = text.length := by
      rw [← Nat.zero_add text.length, ← close]
      decide +kernel
    rw [List.append_inj_left same length]
    exact ⟨tokens, by decide, laid⟩
  have spells : Tree.Spells ⟨.operand (.int (Token.decimalOf Text.manyZeros)), []⟩ Text.manyZeros := by
    have gapless : ∀ c ∈ [], Text.isBlank c = true := by simp
    have apart (lexeme : Lexeme) : Token.Apart lexeme [] := by rintro c ⟨⟩
    have laid : Token.LaidOut Token.Any 0 _ _ :=
      .next gapless (.natural Text.manyZeros_nonempty Text.manyZeros_inside) trivial (apart _) (.done gapless)
    rw [List.nil_append, List.append_nil] at laid
    exact ⟨_, rfl, laid⟩
  have large : ¬ Tree.Writes ⟨.operand (.int (Token.decimalOf Text.manyZeros)), []⟩ Text.manyZeros := by
    intro writes
    have read := parse_writes writes
    rw [parse, String.toList_ofList, Region.read_manyZeros] at read
    cases read
  obtain ⟨numeral, many, refused⟩ := ((parse_printable _).2 _ rfl).2.2.2 _ spells large
  exact ⟨⟨tree, writes, ((parse_printable _).2 tree rfl).2.2.1 _ writes⟩, _, _, numeral, spells, large, many, refused⟩

/-- A power of ten with one digit too many, as an index: the path is well formed, and no text is read as it. -/
theorem parse_unprintable : (Expr.ofPath ⟨"x", [.index (10 ^ Text.mostDigits)]⟩).WellFormed ∧
    ¬ ∃ source, parse source = .ok (.ofPath ⟨"x", [.index (10 ^ Text.mostDigits)]⟩) := by
  have terms (k : Int) : (Expr.ofPath ⟨"x", [.index k]⟩).terms = [.ident "x", .int k] := rfl
  constructor
  · refine ⟨fun name member => ?_, nofun⟩
    rw [terms] at member
    obtain rfl : name = "x" := by simpa using member
    decide
  · rw [exists_parse_iff]
    rintro ⟨-, bounded⟩
    have least := bounded (10 ^ Text.mostDigits) (by simp [terms])
    have base : (10 : Int).natAbs = 10 := rfl
    rw [Int.natAbs_pow, base] at least
    exact Nat.lt_irrefl _ least

end Expr
end Colloquy
