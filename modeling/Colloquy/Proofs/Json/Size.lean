import Mathlib.Algebra.GroupWithZero.Nat
import Mathlib.Data.List.Infix
import Colloquy.Json.Reader
import Colloquy.Outline

/-! How much text JSON holds. All the texts in the data that a JSON text writes are together shorter than the text
itself, since each token is as long as what it holds and longer: so opening a text again and again comes to an end. -/
namespace Colloquy.Json

/-- The number of characters in the texts of some data, the names of members apart. -/
def size (value : Json) : Nat := (Outline.ofJson value).textSize

theorem size_list (items : List Json) : size (.list items) = (items.map size).sum := by
  have listed : ∀ items, Outline.itemsSize (Outline.ofItems items) = (items.map size).sum := by
    intro items
    induction items with
    | nil => rfl
    | cons item rest ih => simp [Outline.ofItems, Outline.itemsSize, ih, size]
  exact listed items

theorem size_object (fields : List (String × Json)) :
    size (.object fields) = (fields.map fun entry => size entry.2).sum := by
  have listed : ∀ fields, Outline.fieldsSize (Outline.ofFields fields) =
      (fields.map fun entry : String × Json => size entry.2).sum := by
    intro fields
    induction fields with
    | nil => rfl
    | cons entry rest ih => simp [Outline.ofFields, Outline.fieldsSize, ih, size]
  exact listed fields

/-! ## Tokens -/

/-- The number of characters in the text of a token. -/
def Token.size : Token → Nat
  | .scalar value => value.size
  | _ => 0

theorem length_flush (pending : Option Nat) (done : List Char) :
    (readText.flush pending done).length = done.length + if pending.isSome then 1 else 0 := by
  unfold readText.flush
  split <;> rfl

/-- A text is shorter than its spelling: an escape is longer than the character that it writes, and so are the two
halves of a pair. -/
theorem readText_size {pending : Option Nat} {done cs rest : List Char} {s : String}
    (read : readText pending done cs = some (s, rest)) :
    s.length + rest.length < done.length + (if pending.isSome then 1 else 0) + cs.length := by
  fun_induction readText pending done cs with
  | case1 | case2 | case8 | case11 => cases read
  | case10 =>
    cases read
    simp only [String.length_ofList, List.length_reverse, length_flush, List.length_cons]
    omega
  | case3 _ _ _ _ _ _ _ _ _ _ ih | case4 _ _ _ _ _ _ _ _ _ _ _ ih | case5 _ _ _ _ _ _ _ _ _ _ _ ih
  | case6 _ _ _ _ _ _ _ _ _ ih | case7 _ _ _ _ _ _ _ _ _ ih =>
    have shorter := ih read
    simp only [List.length_cons, Option.isSome_some, Option.isSome_none, Bool.false_eq_true, if_true, if_false]
      at shorter ⊢
    omega
  | case9 _ _ _ _ _ _ _ ih | case12 _ _ _ _ _ _ _ _ ih =>
    have shorter := ih read
    simp only [List.length_cons, length_flush, Option.isSome_none, Bool.false_eq_true, if_false] at shorter ⊢
    omega

theorem readWhole_shorter {cs digits rest : List Char} (read : readWhole cs = some (digits, rest)) :
    rest.length < cs.length := by
  unfold readWhole at read
  split at read
  · cases read
    simp
  · split at read
    · cases read
      exact Nat.lt_succ_of_le (List.dropWhile_sublist _).length_le
    · cases read
  · cases read

theorem readFraction_le (cs : List Char) : (readFraction cs).2.length ≤ cs.length := by
  unfold readFraction
  split
  · split
    · exact Nat.le_refl _
    · exact Nat.le_succ_of_le (List.dropWhile_sublist _).length_le
  · exact Nat.le_refl _

theorem readExponent_le (cs : List Char) : (readExponent cs).2.length ≤ cs.length := by
  unfold readExponent
  split
  · rename_i e rest
    split
    · split
      rename_i down body signed
      have inside : body.length ≤ rest.length := by split at signed <;> cases signed <;> simp
      have shorter := (List.dropWhile_sublist (l := body) Text.isAsciiDigit).length_le
      split
      · exact Nat.le_refl _
      · simp only [List.length_cons]
        omega
    · exact Nat.le_refl _
  · exact Nat.le_refl _

/-- A number is at least one character long, and holds no text. -/
theorem readNumber_shorter {cs rest : List Char} {value : Json} (read : readNumber cs = some (value, rest)) :
    rest.length < cs.length ∧ value.size = 0 := by
  unfold readNumber at read
  split at read
  rename_i negative body signed
  have inside : body.length ≤ cs.length := by split at signed <;> cases signed <;> simp
  obtain ⟨⟨whole, behind⟩, found, made⟩ := Option.map_eq_some_iff.mp read
  have started := readWhole_shorter found
  have fraction := readFraction_le behind
  have exponent := readExponent_le (readFraction behind).2
  simp only [Prod.mk.injEq] at made
  obtain ⟨rfl, rfl⟩ := made
  refine ⟨by omega, ?_⟩
  simp only [Numeral.value]
  split <;> rfl

/-- A word is at least one character long, and holds no text. -/
theorem readWord_shorter {cs rest : List Char} {value : Json} (more : cs ≠ [])
    (read : readWord cs = some (value, rest)) : rest.length < cs.length ∧ value.size = 0 := by
  obtain ⟨⟨word, named⟩, member, found⟩ := List.exists_of_findSome?_eq_some read
  have listed : ∀ entry ∈ words, 0 < entry.1.length ∧ entry.2.size = 0 := by
    simp only [words, List.forall_mem_cons]
    decide
  obtain ⟨long, free⟩ := listed _ member
  obtain ⟨-, same⟩ := Option.ite_none_right_eq_some.mp found
  cases same
  have := List.length_pos_of_ne_nil more
  refine ⟨?_, free⟩
  simp only [List.length_drop] at long ⊢
  omega

/-- A token is longer than the text that it holds. -/
theorem readToken_size {cs rest : List Char} {token : Token} (more : cs ≠ [])
    (read : readToken cs = some (token, rest)) : token.size + rest.length < cs.length := by
  unfold readToken at read
  split at read
  case h_7 =>
    obtain ⟨⟨s, behind⟩, found, made⟩ := Option.map_eq_some_iff.mp read
    cases made
    have shorter := readText_size found
    simp only [Token.size, size, Outline.ofJson, Outline.textSize, List.length_cons, List.length_nil,
      Option.isSome_none, Bool.false_eq_true, if_false] at shorter ⊢
    omega
  case h_8 =>
    obtain ⟨⟨value, behind⟩, found, made⟩ := Option.map_eq_some_iff.mp read
    have small : behind.length < cs.length ∧ value.size = 0 := by
      rcases Option.or_eq_some_iff.mp found with word | ⟨-, number⟩
      · exact readWord_shorter more word
      · exact readNumber_shorter number
    cases made
    simp only [Token.size]
    omega
  all_goals
    cases read
    simp [Token.size]

theorem tokensWithin_size {budget : Nat} {cs : List Char} {tokens : List Token}
    (read : tokensWithin budget cs = some tokens) : (tokens.map Token.size).sum + tokens.length ≤ cs.length := by
  fun_induction tokensWithin budget cs generalizing tokens with
  | case1 => cases read; simp
  | case2 => cases read
  | case3 budget c rest gap ih => exact Nat.le_succ_of_le (ih read)
  | case4 => cases read
  | case5 budget c rest gap token behind found ih =>
    obtain ⟨more, later, rfl⟩ := Option.map_eq_some_iff.mp read
    have := readToken_size (List.cons_ne_nil c rest) found
    have := ih later
    simp only [List.map_cons, List.sum_cons, List.length_cons] at *
    omega

/-! ## Nesting -/

/-- The number of characters in the texts of a list or object that is still open. -/
def Frame.size : Frame → Nat
  | .list items => (items.map Json.size).sum
  | .object fields _ => (fields.map fun entry => entry.2.size).sum

/-- The number of characters in the texts of several that are still open. -/
def openSize (frames : List Frame) : Nat := (frames.map Frame.size).sum

theorem openSize_cons (frame : Frame) (rest : List Frame) : openSize (frame :: rest) = frame.size + openSize rest := rfl

/-- The number of characters in the texts that were read so far. -/
def Progress.size (p : Progress) : Nat := openSize p.frames + (p.result.map Json.size).getD 0

theorem size_open (frames : List Frame) (await : Await) : Progress.size ⟨frames, await, none⟩ = openSize frames := rfl

theorem deliver_size (frames : List Frame) (value : Json) :
    (Progress.deliver frames value).size = openSize frames + value.size := by
  cases frames with
  | nil => rfl
  | cons frame rest =>
    cases frame <;> simp only [Progress.deliver, size_open, openSize_cons, Frame.size, List.map_cons, List.sum_cons] <;>
      omega

theorem put_size (fields : Fields Json) (name : String) (value : Json) :
    ((fields.put name value).map fun entry => entry.2.size).sum ≤
      (fields.map fun entry => entry.2.size).sum + value.size := by
  induction fields with
  | nil => simp [Fields.put]
  | cons entry rest ih =>
    obtain ⟨key, old⟩ := entry
    unfold Fields.put
    split <;> simp only [List.map_cons, List.sum_cons] <;> omega

/-- Only the last of several members of one name is kept. -/
theorem ofPairs_size (fields : List (String × Json)) :
    ((Fields.ofPairs fields).map fun entry => entry.2.size).sum ≤ (fields.map fun entry => entry.2.size).sum := by
  have merged : ∀ start : Fields Json, ((start.merge fields).map fun entry => entry.2.size).sum ≤
      (start.map fun entry => entry.2.size).sum + (fields.map fun entry => entry.2.size).sum := by
    induction fields with
    | nil => simp [Fields.merge]
    | cons entry rest ih =>
      intro start
      have first := put_size start entry.1 entry.2
      have others := ih (start.put entry.1 entry.2)
      have head : start.merge (entry :: rest) = (start.put entry.1 entry.2).merge rest := rfl
      rw [head, List.map_cons, List.sum_cons]
      omega
  simpa [Fields.ofPairs] using merged []

/-- A token adds no more than its own text. -/
theorem step_size {p next : Progress} {token : Token} (stepped : p.step token = some next) :
    next.size ≤ openSize p.frames + token.size := by
  obtain ⟨frames, await, result⟩ := p
  unfold Progress.step at stepped
  split at stepped
  case h_16 => cases stepped
  -- A value is delivered to the innermost that is open.
  case h_1 | h_2 =>
    cases stepped
    exact Nat.le_of_eq (deliver_size ..)
  case h_7 | h_8 | h_14 =>
    rename_i opened
    cases stepped
    simp only at opened
    rw [deliver_size, opened, openSize_cons]
    simp only [Frame.size, size_list, size_object, List.map_nil, List.sum_nil, List.map_reverse, List.sum_reverse]
    omega
  case h_15 fields name frames _ opened =>
    cases stepped
    simp only at opened
    have kept := ofPairs_size fields.reverse
    rw [List.map_reverse, List.sum_reverse] at kept
    rw [deliver_size, opened, openSize_cons, Frame.size, size_object]
    omega
  -- What is open stays as it is, or an empty one is opened.
  case h_3 | h_4 | h_5 | h_6 | h_11 =>
    cases stepped
    simp [size_open, openSize_cons, Frame.size]
  case h_9 | h_10 | h_12 | h_13 =>
    rename_i opened
    cases stepped
    simp only at opened
    simp only [size_open, opened, openSize_cons, Frame.size]
    omega

theorem steps_size {tokens : List Token} {p finish : Progress} (stepped : tokens.foldlM Progress.step p = some finish) :
    finish.size ≤ p.size + (tokens.map Token.size).sum := by
  induction tokens generalizing p with
  | nil =>
    cases stepped
    simp
  | cons token rest ih =>
    rw [List.foldlM_cons] at stepped
    obtain ⟨next, first, others⟩ := Option.bind_eq_some_iff.mp stepped
    have one := step_size first
    have more := ih others
    simp only [List.map_cons, List.sum_cons, Progress.size] at one more ⊢
    omega

/-- The data that a text writes hold less text than the text is long. -/
theorem read?_size {s : String} {value : Json} (read : read? s = some value) : value.size < s.length := by
  obtain ⟨found, spelled, rest⟩ := Option.bind_eq_some_iff.mp read
  obtain ⟨finish, stepped, last⟩ := Option.bind_eq_some_iff.mp rest
  have texts := tokensWithin_size spelled
  have held := steps_size stepped
  have more : 0 < found.length := by
    cases found with
    | nil =>
      cases stepped
      cases last
    | cons token rest => simp
  have start : Progress.size ⟨[], .value, none⟩ = 0 := rfl
  rw [start] at held
  simp only [Progress.size, last, Option.map_some, Option.getD_some] at held
  rw [String.length_toList] at texts
  omega

end Colloquy.Json
