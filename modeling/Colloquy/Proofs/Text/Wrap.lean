import Mathlib.Data.List.Basic
import Colloquy.Text.Blank
import Colloquy.Text.Wrap

/-! Wrapping a paragraph neither loses, repeats nor moves a character that can be seen. Cutting a text into chunks and
filling lines with them keep every character; only the breaks, the indentation and the width of tabs are new, and these
are blank. -/
namespace Colloquy.Text

/-- The characters of a text that are not blank. -/
def visible (cs : List Char) : List Char := cs.filter fun c => !isBlank c

@[simp] theorem visible_nil : visible [] = [] := rfl

theorem visible_append (first second : List Char) : visible (first ++ second) = visible first ++ visible second :=
  List.filter_append ..

theorem visible_cons (c : Char) (rest : List Char) : visible (c :: rest) = visible [c] ++ visible rest :=
  visible_append [c] rest

theorem visible_blank {c : Char} (blank : isBlank c = true) : visible [c] = [] := by simp [visible, blank]

theorem visible_eq_nil {cs : List Char} (blank : ∀ c ∈ cs, isBlank c = true) : visible cs = [] := by
  simpa [visible] using blank

theorem visible_flatten (parts : List (List Char)) : visible parts.flatten = (parts.map visible).flatten :=
  List.filter_flatten ..

theorem visible_flatMap (parts : List (List Char)) (extended : List Char → List Char)
    (same : ∀ part ∈ parts, visible (extended part) = visible part) :
    visible (parts.flatMap extended) = visible parts.flatten := by
  rw [List.flatMap_def, visible_flatten, visible_flatten, List.map_map]
  exact congrArg List.flatten (List.map_congr_left same)

theorem visible_replicate (n : Nat) : visible (List.replicate n ' ') = [] :=
  visible_eq_nil fun c member => by rw [List.eq_of_mem_replicate member]; decide

/-- Blank text between the parts does not show. -/
theorem visible_intercalate {gap : List Char} (blank : ∀ c ∈ gap, isBlank c = true) (parts : List (List Char)) :
    visible (gap.intercalate parts) = visible parts.flatten := by
  induction parts with
  | nil => rfl
  | cons part rest ih =>
    cases rest with
    | nil => simp
    | cons next rest =>
      rw [List.intercalate_cons_cons, visible_append, visible_append, visible_eq_nil blank, ih, List.append_nil,
        ← visible_append]
      rfl

namespace Wrap

/-! ## Chunks -/

theorem isGap_isBlank {c : Char} (gap : isGap c = true) : isBlank c = true := by
  simp only [isGap, Bool.or_eq_true, beq_iff_eq] at gap
  rcases gap with ((((rfl | rfl) | rfl) | rfl) | rfl) | rfl <;> decide

/-- Blanks become spaces. -/
theorem visible_spaced (column : Nat) (cs : List Char) : visible (spaced column cs) = visible cs := by
  induction cs generalizing column with
  | nil => rfl
  | cons c rest ih =>
    rw [spaced, visible_cons c rest]
    split
    · rename_i tab
      rw [beq_iff_eq.mp tab, visible_append, visible_replicate, ih]
      rfl
    · split
      · rename_i lineEnd
        have blank : isBlank c = true := isGap_isBlank (by revert lineEnd; simp [isGap]; tauto)
        rw [visible_cons, visible_blank blank, ih]
        rfl
      · rw [visible_cons, ih]
        split
        · rename_i gap
          rw [visible_blank (isGap_isBlank gap)]
          rfl
        · rfl

theorem flatten_chunksAfter (past cs : List Char) : (chunksAfter past cs).flatten = cs := by
  fun_induction chunksAfter past cs with
  | case1 => rfl
  | case2 past c rest size chunk ih => rw [List.flatten_cons, ih, List.take_append_drop]

/-! ## Lines -/

/-- How much is left to be put on lines: all characters, and all chunks. A line takes one or the other. -/
def pending (chunks : List (List Char)) : Nat := chunks.flatten.length + chunks.length

/-- A line and what is left after it are all of the chunks. -/
structure Filled (chunks : List (List Char)) (line : List Char) (left : List (List Char)) : Prop where
  whole : line ++ left.flatten = chunks.flatten
  fewer : pending left ≤ pending chunks

/-- Chunks are put on a line up to the first that does not fit, and each of them is left out afterwards. -/
theorem takeFitting_filled (room : Nat) (chunks : List (List Char)) :
    Filled chunks (takeFitting room chunks).1 (takeFitting room chunks).2 ∧
      ((takeFitting room chunks).1 ≠ [] → pending (takeFitting room chunks).2 < pending chunks) ∧
      ∀ word rest, (takeFitting room chunks).2 = word :: rest → room < (takeFitting room chunks).1.length + word.length := by
  induction chunks generalizing room with
  | nil => exact ⟨⟨rfl, Nat.le_refl _⟩, by simp [takeFitting], nofun⟩
  | cons chunk rest ih =>
    by_cases fits : chunk.length ≤ room
    · obtain ⟨⟨whole, fewer⟩, -, stopped⟩ := ih (room - chunk.length)
      have taken : takeFitting room (chunk :: rest) = (chunk ++ (takeFitting (room - chunk.length) rest).1,
          (takeFitting (room - chunk.length) rest).2) := by simp [takeFitting, fits]
      have less : pending (takeFitting room (chunk :: rest)).2 < pending (chunk :: rest) := by
        rw [taken]
        simp only [pending, List.flatten_cons, List.length_append, List.length_cons] at fewer ⊢
        omega
      refine ⟨⟨by rw [taken, List.append_assoc, whole, List.flatten_cons], Nat.le_of_lt less⟩, fun _ => less, ?_⟩
      intro word others found
      rw [taken] at found ⊢
      have := stopped word others found
      rw [List.length_append]
      omega
    · have taken : takeFitting room (chunk :: rest) = ([], chunk :: rest) := by simp [takeFitting, fits]
      rw [taken]
      refine ⟨⟨rfl, Nat.le_refl _⟩, fun some => absurd rfl some, ?_⟩
      rintro word others ⟨⟩
      simpa using fits

theorem breakAt_pos {room : Nat} (word : List Char) (some : 0 < room) : 0 < breakAt room word := by
  simp only [breakAt]
  split <;> omega

/-- Breaking a word moves its first characters to the line. -/
theorem Filled.broken {chunks rest : List (List Char)} {line word : List Char} (filled : Filled chunks line (word :: rest))
    (size : Nat) : Filled chunks (line ++ word.take size) (word.drop size :: rest) := by
  obtain ⟨whole, fewer⟩ := filled
  refine ⟨?_, Nat.le_trans ?_ fewer⟩
  · rw [← whole, List.flatten_cons, List.flatten_cons, List.append_assoc, ← List.append_assoc (word.take size),
      List.take_append_drop]
  · simp [pending]

/-- A line takes a chunk, or at least one character of a chunk that fits on no line, so the lines come to an end. -/
theorem takeLine_filled (width : Nat) {chunks : List (List Char)} (some : chunks ≠ []) :
    Filled chunks (takeLine width chunks).1 (takeLine width chunks).2 ∧
      pending (takeLine width chunks).2 < pending chunks := by
  obtain ⟨filled, progress, stopped⟩ := takeFitting_filled width chunks
  rcases taken : takeFitting width chunks with ⟨line, left⟩
  rw [taken] at filled progress stopped
  cases left with
  | nil =>
    have line : takeLine width chunks = (line, []) := by simp [takeLine, taken]
    rw [line]
    refine ⟨filled, ?_⟩
    have := List.length_pos_of_ne_nil some
    simp only [pending, List.flatten_nil, List.length_nil]
    omega
  | cons word rest =>
    have narrow := stopped word rest rfl
    by_cases long : width < word.length
    · -- On an empty line there is room for a character of the word at least.
      obtain ⟨size, room, cut⟩ : ∃ size, (line = [] → 0 < size) ∧
          takeLine width chunks = (line ++ word.take size, word.drop size :: rest) := by
        refine ⟨breakAt (if (width == 0) = true then 1 else width - line.length) word, fun empty => ?_, ?_⟩
        · refine breakAt_pos word ?_
          rw [empty, List.length_nil]
          split
          · omega
          · rename_i wide
            have : width ≠ 0 := fun none => wide (beq_iff_eq.mpr none)
            omega
        · simp only [takeLine, taken, long, if_true]
      rw [cut]
      refine ⟨filled.broken size, ?_⟩
      by_cases empty : line = []
      · refine Nat.lt_of_lt_of_le ?_ filled.fewer
        have := room empty
        simp only [pending, List.flatten_cons, List.length_append, List.length_cons, List.length_drop]
        omega
      · exact Nat.lt_of_le_of_lt (by simp [pending]) (progress empty)
    · have kept : takeLine width chunks = (line, word :: rest) := by simp [takeLine, taken, long]
      rw [kept]
      refine ⟨filled, progress fun empty => ?_⟩
      rw [empty] at narrow
      simp at narrow
      omega

/-- With as many lines as there are characters and chunks, nothing is left over. -/
theorem flatten_linesWithin {later budget width : Nat} {chunks : List (List Char)} (enough : pending chunks ≤ budget) :
    (linesWithin later budget width chunks).flatten = chunks.flatten := by
  induction budget generalizing width chunks with
  | zero =>
    cases chunks with
    | nil => rfl
    | cons chunk rest => simp [pending] at enough
  | succ budget ih =>
    cases chunks with
    | nil => rfl
    | cons chunk rest =>
      obtain ⟨⟨whole, -⟩, progress⟩ := takeLine_filled width (List.cons_ne_nil chunk rest)
      rw [linesWithin, List.flatten_cons, ih (by omega), whole]
      simp

theorem flatten_lines (first later : Nat) (chunks : List (List Char)) :
    (lines first later chunks).flatten = chunks.flatten := flatten_linesWithin (Nat.le_refl _)

/-- Wrapping keeps all that can be seen of a paragraph. -/
theorem visible_fill {width : Int} {indent : Nat} {paragraph filled : List Char}
    (wrapped : fill width indent paragraph = .ok filled) : visible filled = visible paragraph := by
  have whole : visible (chunks (spaced 0 paragraph)).flatten = visible paragraph := by
    rw [chunks, flatten_chunksAfter, visible_spaced]
  unfold fill at wrapped
  split at wrapped
  · cases wrapped
  · simp only at wrapped
    split at wrapped
    · rename_i none
      cases wrapped
      rw [← whole, List.isEmpty_iff.mp none]
      rfl
    · split at wrapped
      · cases wrapped
      · rw [← whole, ← flatten_lines (width.toNat - indent) (width.toNat - indent - 1)]
        split at wrapped
        · rename_i none
          cases wrapped
          rw [none]
          rfl
        · rename_i first rest found
          cases wrapped
          rw [found, List.flatten_cons, visible_append, visible_append, visible_append, visible_replicate]
          congr 1
          refine visible_flatMap rest _ fun line _ => ?_
          have margin : visible ('\n' :: ' ' :: List.replicate indent ' ') = [] := by
            rw [visible_cons, visible_cons ' ', visible_replicate]
            decide
          rw [visible_append, margin, List.nil_append]

end Wrap
end Colloquy.Text
