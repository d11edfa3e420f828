import Colloquy.Expr.Fragment
import Colloquy.Proofs.Expr.Printing

/-! References in texts. A reference is read from its own characters alone; all that matters of what comes after it is
that a bare path does not go on there. So it is read again wherever these characters stand, and cutting a text takes one
of five steps: the text ends, a literal character is put on the run, a reference is taken off, a region is broken, or a
bare path has an index with too many digits. -/
namespace Colloquy.Fragment
open Token

/-! ## Bare paths -/

/-- A text begins as another one does, or else with no character that could belong to a name. -/
def Resembles (tail left : List Char) : Prop :=
  tail.head? = left.head? ∨ ∀ c, tail.head? = some c → isNameChar c = false

theorem resembles_cons (c : Char) (tail left : List Char) : Resembles (c :: tail) (c :: left) := .inl rfl

theorem Resembles.append {tail left : List Char} (resembles : Resembles tail left) (same : List Char) :
    Resembles (same ++ tail) (same ++ left) := by
  cases same with
  | nil => exact resembles
  | cons c rest => exact .inl rfl

/-- A reader takes a word off the front, whatever comes next, as long as that resembles what it left. -/
structure TakesOff {α : Type} (reader : List Char → Option (α × List Char)) (found : α) (word left : List Char) :
    Prop where
  braceless : '\x7b' ∉ word
  again : ∀ tail, Resembles tail left → reader (word ++ tail) = some (found, tail)

section Bare
variable {cs left : List Char}

theorem Resembles.boundary {p : Char → Bool} {tail : List Char} (resembles : Resembles tail left)
    (inside : ∀ c, p c = true → isNameChar c = true) (stops : ∀ c, left.head? = some c → p c = false) :
    ∀ c, tail.head? = some c → p c = false := by
  intro c head
  rcases resembles with same | other
  · exact stops c (same ▸ head)
  · rw [Bool.eq_false_iff]
    intro member
    have outside := other c head
    rw [inside c member] at outside
    cases outside

theorem braceless_takeWhile {p : Char → Bool} (cs : List Char) (outside : p '\x7b' = false) :
    '\x7b' ∉ cs.takeWhile p := by
  intro member
  rw [takeWhile_inside p cs _ member] at outside
  cases outside

theorem readName_takesOff {name : String} (read : readName cs = some (name, left)) :
    ∃ word, cs = word ++ left ∧ TakesOff readName name word left := by
  unfold readName at read
  split at read
  · rename_i c rest
    split at read
    · rename_i start
      cases read
      have whole : rest = rest.takeWhile isNameChar ++ rest.dropWhile isNameChar := List.takeWhile_append_dropWhile.symm
      refine ⟨c :: rest.takeWhile isNameChar, congrArg (c :: ·) whole, ?_, ?_⟩
      · intro member
        rcases List.mem_cons.mp member with rfl | inner
        · cases start
        · exact braceless_takeWhile rest rfl inner
      · intro tail resembles
        have inside := takeWhile_inside isNameChar rest
        have stops := resembles.boundary (fun _ => id) (head_dropWhile isNameChar rest)
        rw [List.cons_append, readName]
        simp only [start, ↓reduceIte, takeWhile_run inside stops, dropWhile_run inside stops]
    · cases read
  · cases read

/-- What starts with a name does not start with an integer. -/
theorem readIndex_of_readName {found : String × List Char} (read : readName cs = some found) : readIndex cs = none := by
  unfold readName at read
  split at read
  · rename_i c rest
    split at read
    · rename_i start
      have digitless : Text.isAsciiDigit c = false := by
        rw [Bool.eq_false_iff]
        intro digit
        rw [digit_notStart digit] at start
        cases start
      have unsigned : c ≠ '-' := by
        rintro rfl
        cases start
      simp [readIndex, unsigned, digitless]
    · cases read
  · cases read

theorem readIndex_takesOff {i : Except Text.Oversize Int} (read : readIndex cs = some (i, left)) :
    ∃ word, cs = word ++ left ∧ TakesOff readIndex i word left := by
  have digits (body tail : List Char) (resembles : Resembles tail (body.dropWhile Text.isAsciiDigit)) :
      (body.takeWhile Text.isAsciiDigit ++ tail).takeWhile Text.isAsciiDigit = body.takeWhile Text.isAsciiDigit ∧
        (body.takeWhile Text.isAsciiDigit ++ tail).dropWhile Text.isAsciiDigit = tail := by
    have inside := takeWhile_inside Text.isAsciiDigit body
    have stops := resembles.boundary (fun c digit => isNameChar_iff.mpr (.inr digit)) (head_dropWhile _ body)
    exact ⟨takeWhile_run inside stops, dropWhile_run inside stops⟩
  unfold readIndex at read
  split at read
  rename_i negative body sign
  split at read
  · cases read
  · rename_i number nonempty
    cases read
    have whole : body = body.takeWhile Text.isAsciiDigit ++ body.dropWhile Text.isAsciiDigit :=
      List.takeWhile_append_dropWhile.symm
    have braceless := braceless_takeWhile (p := Text.isAsciiDigit) body rfl
    split at sign
    · cases sign
      refine ⟨'-' :: body.takeWhile Text.isAsciiDigit, congrArg ('-' :: ·) whole, by simpa using braceless, ?_⟩
      intro tail resembles
      obtain ⟨same, rest⟩ := digits body tail resembles
      rw [List.cons_append, readIndex]
      simp only [same, rest]
    · rename_i unsigned
      cases sign
      refine ⟨cs.takeWhile Text.isAsciiDigit, whole, braceless, ?_⟩
      intro tail resembles
      obtain ⟨same, rest⟩ := digits cs tail resembles
      have unsigned : ∀ rest, cs.takeWhile Text.isAsciiDigit ++ tail ≠ '-' :: rest := by
        intro rest minus
        rw [minus] at same
        exact nonempty same.symm
      rw [readIndex]
      simp only [same, rest]
      exact unsigned

theorem readStep_takesOff {step : Except Text.Oversize Segment} (read : readStep cs = some (step, left)) :
    ∃ word, cs = word ++ left ∧ TakesOff readStep step word left := by
  unfold readStep at read
  split at read
  · rename_i rest
    obtain ⟨⟨name, after⟩, inner, same⟩ := Option.map_eq_some_iff.mp read
    cases same
    obtain ⟨word, rfl, braceless, again⟩ := readName_takesOff inner
    refine ⟨'.' :: word, rfl, ?_, ?_⟩
    · simpa using braceless
    · intro tail resembles
      rw [List.cons_append, readStep, again tail resembles]
      rfl
  · rename_i rest
    split at read
    · rename_i i after inner
      cases read
      obtain ⟨word, rfl, braceless, again⟩ := readIndex_takesOff inner
      refine ⟨'[' :: (word ++ [']']), by simp, ?_, ?_⟩
      · simpa using braceless
      · intro tail _
        rw [List.cons_append, List.append_assoc, List.singleton_append, readStep,
          again _ (resembles_cons ']' tail left)]
        rfl
    · split at read
      · rename_i name after inner
        cases read
        obtain ⟨word, rfl, braceless, again⟩ := readName_takesOff inner
        refine ⟨'[' :: (word ++ [']']), by simp, ?_, ?_⟩
        · simpa using braceless
        · intro tail _
          have named := again _ (resembles_cons ']' tail left)
          rw [List.cons_append, List.append_assoc, List.singleton_append, readStep, readIndex_of_readName named, named]
          rfl
      · cases read
  · cases read

/-- Whether a step begins does not depend on what comes after a brace. -/
theorem readStep_brace (cs tail : List Char) : readStep (cs ++ '\x7b' :: tail) = none ↔ readStep cs = none := by
  have brace : ∀ c, ('\x7b' :: tail).head? = some c → isNameChar c = false := by
    rintro c ⟨⟩
    rfl
  have nothing : ∀ c, ([] : List Char).head? = some c → isNameChar c = false := by
    rintro c ⟨⟩
  constructor
  · intro stepless
    cases read : readStep cs with
    | none => rfl
    | some found =>
      obtain ⟨step, left⟩ := found
      obtain ⟨word, rfl, -, again⟩ := readStep_takesOff read
      have near : Resembles (left ++ '\x7b' :: tail) (left ++ []) := Resembles.append (.inr brace) left
      rw [List.append_nil] at near
      have further := again _ near
      rw [← List.append_assoc, stepless] at further
      cases further
  · intro stepless
    cases read : readStep (cs ++ '\x7b' :: tail) with
    | none => rfl
    | some found =>
      obtain ⟨step, left⟩ := found
      obtain ⟨word, same, braceless, again⟩ := readStep_takesOff read
      -- The brace is not in the word, so all of the word comes before it.
      rcases List.append_eq_append_iff.mp same with ⟨beyond, rfl, brace⟩ | ⟨left', rfl, rfl⟩
      · cases beyond with
        | nil =>
          have short := again [] (.inr nothing)
          rw [List.append_nil, List.append_nil, stepless] at short
          cases short
        | cons c beyond =>
          cases brace
          exact absurd (by simp) braceless
      · have short := again left' (by simpa using Resembles.append (.inr nothing) left')
        rw [stepless] at short
        cases short

theorem readSteps_none (stepless : readStep cs = none) : readSteps cs = .ok ([], cs) := by
  rw [readSteps]
  split <;> simp_all

theorem readSteps_error {numeral : Text.Oversize} (first : readStep cs = some (.error numeral, left)) :
    readSteps cs = .error numeral := by
  rw [readSteps]
  split <;> simp_all

/-- Steps are read one by one. -/
theorem readSteps_ok {step : Segment} (first : readStep cs = some (.ok step, left)) :
    readSteps cs = (readSteps left).map fun (more, after) => (step :: more, after) := by
  rw [readSteps]
  split <;> simp_all

theorem readSteps_takesOff {steps : List Segment} (read : readSteps cs = .ok (steps, left)) :
    ∃ word, cs = word ++ left ∧ readStep left = none ∧
      ∀ tail, Resembles tail left → readStep tail = none → readSteps (word ++ tail) = .ok (steps, tail) := by
  fun_induction readSteps cs generalizing steps left with
  | case1 cs stepless =>
    cases read
    refine ⟨[], rfl, stepless, fun tail _ ended => ?_⟩
    exact readSteps_none ended
  | case2 cs numeral rest first => cases read
  | case3 cs step rest first ih =>
    obtain ⟨⟨more, after⟩, later, same⟩ := eq_ok_of_map read
    cases same
    obtain ⟨word, rfl, stepless, again⟩ := ih later
    obtain ⟨start, rfl, -, takes⟩ := readStep_takesOff first
    refine ⟨start ++ word, by rw [List.append_assoc], stepless, fun tail resembles ended => ?_⟩
    have near := resembles.append word
    rw [List.append_assoc, readSteps_ok (takes _ near), again tail resembles ended]
    rfl

theorem readBare_takesOff {path : Path} (read : readBare cs = some (.ok (path, left))) :
    ∃ word, cs = word ++ left ∧ readStep left = none ∧
      ∀ tail, Resembles tail left → readStep tail = none → readBare (word ++ tail) = some (.ok (path, tail)) := by
  obtain ⟨⟨name, rest⟩, named, stepped⟩ := Option.map_eq_some_iff.mp read
  obtain ⟨⟨steps, after⟩, stepped, same⟩ := eq_ok_of_map stepped
  cases same
  obtain ⟨start, rfl, -, takes⟩ := readName_takesOff named
  obtain ⟨word, split, stepless, again⟩ := readSteps_takesOff stepped
  refine ⟨start ++ word, by rw [List.append_assoc, ← split], stepless, fun tail resembles ended => ?_⟩
  have near := resembles.append word
  rw [← split] at near
  rw [readBare, List.append_assoc, takes _ near, Option.map_some]
  simp only [again tail resembles ended]
  rfl

end Bare

/-! ## References -/

/-- Whether a character cannot be literal where the given one comes next: braces open a region, and a dollar sign before
a name a bare path. -/
def opens (c : Char) (next : Option Char) : Bool :=
  (c == '\x7b' && next == some '\x7b') || (c == '$' && next.any isNameStart)

theorem opens_none (c : Char) : opens c none = false := by
  simp [opens]

/-- A word is a reference to an expression, before what is left of the text. -/
inductive Refers : Expr → List Char → List Char → Prop where
  | region {tree : Expr.Tree} {text left : List Char} (writes : tree.Writes text) :
      Refers tree.expr ('\x7b' :: '\x7b' :: (text ++ ['\x7d', '\x7d'])) left
  | bare {path : Path} {word left : List Char} (read : readBare (word ++ left) = some (.ok (path, left))) :
      Refers (.ofPath path) ('$' :: word) left

/-- A reference is one before any other text, too, where its path does not go on. -/
theorem Refers.elsewhere {expr : Expr} {word left tail : List Char} (refers : Refers expr word left)
    (resembles : Resembles tail left) (ends : readStep left = none → readStep tail = none) : Refers expr word tail := by
  cases refers with
  | region writes => exact .region writes
  | bare read =>
    obtain ⟨start, same, stepless, again⟩ := readBare_takesOff read
    obtain rfl := List.append_cancel_right same
    exact .bare (again tail resembles (ends stepless))

theorem Refers.alone {expr : Expr} {word left : List Char} (refers : Refers expr word left) : Refers expr word [] := by
  refine refers.elsewhere (.inr ?_) fun _ => rfl
  rintro c ⟨⟩

/-- A reference does not depend on what comes after an opening brace, nor on that brace. -/
theorem Refers.before_brace {expr : Expr} {word left tail : List Char}
    (refers : Refers expr word (left ++ '\x7b' :: tail)) :
    Refers expr word left ∧ ∀ other, Refers expr word (left ++ '\x7b' :: other) := by
  constructor
  · refine refers.elsewhere ?_ (readStep_brace left tail).mp
    have nothing : Resembles [] ('\x7b' :: tail) := .inr (by rintro c ⟨⟩)
    simpa using nothing.append left
  · intro other
    have brace : Resembles ('\x7b' :: other) ('\x7b' :: tail) := .inl rfl
    refine refers.elsewhere (brace.append left) ?_
    rw [readStep_brace, readStep_brace]
    exact id

/-- The region whose inside starts at some offset cannot be read, or holds no expression. -/
def Broken (start : Nat) (cs : List Char) (reason : Unread Expr.Failure) : Prop :=
  (Region.read start cs).bind Expr.heldBy = .error reason

theorem readBare_eq_none (cs : List Char) : readBare cs = none ↔ cs.head?.any isNameStart = false := by
  unfold readBare readName
  cases cs with
  | nil => simp
  | cons c rest => cases start : isNameStart c <;> simp [start]

theorem writes_of_region {start : Nat} {cs : List Char} {region : Region} {expr : Expr}
    (read : Region.read start cs = .ok region) (holds : Expr.heldBy region = .ok expr) :
    ∃ (tree : Expr.Tree) (text after : List Char), cs = text ++ '\x7d' :: '\x7d' :: after ∧ tree.Writes text ∧
      tree.expr = expr ∧ region.close = start + text.length := by
  obtain ⟨text, after, rfl, laid, close⟩ := layout_of_scan read
  obtain ⟨tree, word, rfl⟩ := Expr.ofRegion_sound (Expr.heldBy_ok.mp holds)
  obtain ⟨moved, same, laid⟩ := laid.anywhere 0
  exact ⟨tree, text, after, rfl, ⟨moved, same.trans word.symm, laid⟩, rfl, close⟩

theorem region_of_writes {tree : Expr.Tree} {text : List Char} (writes : tree.Writes text) (start : Nat)
    (after : List Char) : ∃ region, Region.read start (text ++ '\x7d' :: '\x7d' :: after) = .ok region ∧
      Expr.heldBy region = .ok tree.expr ∧ region.close = start + text.length := by
  obtain ⟨tokens, word, laid⟩ := writes
  obtain ⟨moved, same, laid⟩ := laid.anywhere start
  exact ⟨_, scan_layout laid _ after, Expr.heldBy_ok.mpr (Expr.ofRegion_tree (word.symm.trans same.symm)), rfl⟩

/-! ## One step of cutting -/

section Cutting
variable {expr : Expr} {c : Char} {word left rest : List Char} (position : Nat) (run : List Char)

theorem cut_nil : cut position run [] = .ok (flush run []) := by rw [cut]

theorem cut_literal (literal : opens c rest.head? = false) :
    cut position run (c :: rest) = cut (position + 1) (c :: run) rest := by
  simp only [opens, Bool.or_eq_false_iff] at literal
  rw [cut]
  simp only [literal.1, Bool.false_eq_true, ↓reduceIte]
  split
  · rename_i dollar
    have none : readBare rest = none := by
      rw [readBare_eq_none]
      simpa [dollar] using literal.2
    rw [none]
  · rfl

theorem cut_reference (refers : Refers expr word left) : cut position run (word ++ left) =
    (cut (position + word.length) [] left).map fun more =>
      flush run (.reference expr (String.ofList word) position :: more) := by
  cases refers with
  | @region tree text _ writes =>
    obtain ⟨region, read, holds, close⟩ := region_of_writes writes (position + 2) left
    have size : region.stop - position = (text ++ ['\x7d', '\x7d']).length + 2 := by
      rw [Region.stop, close, List.length_append, List.length_cons, List.length_singleton]
      omega
    have whole : text ++ '\x7d' :: '\x7d' :: left = text ++ ['\x7d', '\x7d'] ++ left := by simp
    rw [whole] at read
    generalize text ++ ['\x7d', '\x7d'] = inner at read size ⊢
    rw [List.cons_append, List.cons_append, cut]
    simp only [beq_self_eq_true, List.head?_cons, Bool.and_self, ↓reduceIte, List.tail_cons, read, holds, size]
    simp
  | @bare path word _ read =>
    rw [List.cons_append, cut]
    simp [read, Nat.add_comm]

theorem cut_broken {reason : Unread Expr.Failure} (broken : Broken (position + 2) rest reason) :
    cut position run ('\x7b' :: '\x7b' :: rest) = .error reason := by
  rw [cut]
  simp only [beq_self_eq_true, List.head?_cons, Bool.and_self, ↓reduceIte, List.tail_cons]
  cases read : Region.read (position + 2) rest with
  | error other => simpa [Broken, read, Except.bind] using broken
  | ok region =>
    have holds : Expr.heldBy region = .error reason := by simpa [Broken, read, Except.bind] using broken
    simp only [holds]

theorem cut_oversized {numeral : Text.Oversize} (read : readBare rest = some (.error numeral)) :
    cut position run ('$' :: rest) = .error (.oversized numeral) := by
  rw [cut]
  simp [read]

end Cutting

/-- How a text is cut, step by step: it is at its end, or it begins with a literal character, with a reference, with a
region that is broken or with a bare path that has too many digits. -/
theorem cut_induction {motive : Nat → List Char → List Char → Prop} (done : ∀ position run, motive position run [])
    (literal : ∀ position run c rest, opens c rest.head? = false → motive (position + 1) (c :: run) rest →
      motive position run (c :: rest))
    (reference : ∀ position run expr word left, Refers expr word left → motive (position + word.length) [] left →
      motive position run (word ++ left))
    (broken : ∀ position run rest reason, Broken (position + 2) rest reason →
      motive position run ('\x7b' :: '\x7b' :: rest))
    (oversized : ∀ position run rest numeral, readBare rest = some (.error numeral) → motive position run ('$' :: rest))
    (position : Nat) (run cs : List Char) : motive position run cs := by
  have region {c : Char} {rest : List Char} (braces : (c == '\x7b' && rest.head? == some '\x7b') = true) :
      c = '\x7b' ∧ rest = '\x7b' :: rest.tail := by
    simp only [Bool.and_eq_true, beq_iff_eq] at braces
    obtain ⟨tail, rfl⟩ := List.head?_eq_some_iff.mp braces.2
    exact ⟨braces.1, rfl⟩
  -- The function goes on from an offset; each case says which characters lie before it.
  fun_induction cut position run cs with
  | case1 position run => exact done position run
  | case2 position run c rest braces reason unread =>
    obtain ⟨rfl, whole⟩ := region braces
    rw [whole]
    exact broken position run rest.tail reason (by rw [Broken, unread]; rfl)
  | case3 position run c rest braces region' read reason unheld =>
    obtain ⟨rfl, whole⟩ := region braces
    rw [whole]
    exact broken position run rest.tail reason (by rw [Broken, read]; exact unheld)
  | case4 position run c rest braces region' read expr holds size source ih =>
    obtain ⟨rfl, whole⟩ := region braces
    obtain ⟨tree, text, after, same, writes, rfl, close⟩ := writes_of_region read holds
    have split : rest = '\x7b' :: (text ++ ['\x7d', '\x7d']) ++ after := by
      rw [whole, same]
      simp
    have length : size = ('\x7b' :: '\x7b' :: (text ++ ['\x7d', '\x7d'])).length := by
      simp only [size, Region.stop, close, List.length_cons, List.length_append, List.length_nil]
      omega
    have remains : rest.drop (size - 1) = after := by
      rw [length, List.length_cons, Nat.add_sub_cancel, split, List.drop_left]
    rw [remains, length] at ih
    rw [split]
    exact reference position run tree.expr _ after (.region writes) ih
  | case5 position run c rest unbraced dollar numeral read =>
    obtain rfl : c = '$' := by simpa using dollar
    exact oversized position run rest numeral read
  | case6 position run c rest unbraced dollar path left read size source ih =>
    obtain rfl : c = '$' := by simpa using dollar
    obtain ⟨word, rfl, -, -⟩ := readBare_takesOff read
    have length : size = ('$' :: word).length := by
      simp only [size, List.length_cons, List.length_append]
      omega
    have remains : (word ++ left).drop (size - 1) = left := by
      rw [length, List.length_cons, Nat.add_sub_cancel, List.drop_left]
    rw [remains, length] at ih
    exact reference position run (.ofPath path) ('$' :: word) left (.bare read) ih
  | case7 position run c rest unbraced dollar unread ih =>
    refine literal position run c rest ?_ ih
    rw [readBare_eq_none] at unread
    rw [opens, Bool.eq_false_iff.mpr unbraced, unread, Bool.and_false]
    rfl
  | case8 position run c rest unbraced unsigned ih =>
    refine literal position run c rest ?_ ih
    rw [opens, Bool.eq_false_iff.mpr unbraced, Bool.eq_false_iff.mpr unsigned]
    rfl

end Colloquy.Fragment
