import Colloquy.Proofs.Text.Blank
import Colloquy.Text.Dedent

/-! What moving a paragraph to the left and trimming it take away. Nothing but blank characters goes, so that a text with
something on it keeps something. -/
namespace Colloquy.Text

/-! ## Common starts -/

theorem commonStart_isPrefix (a b : List Char) : commonStart a b <+: a ∧ commonStart a b <+: b := by
  induction a generalizing b with
  | nil => exact ⟨List.nil_prefix, List.nil_prefix⟩
  | cons c a ih =>
    cases b with
    | nil => exact ⟨List.nil_prefix, List.nil_prefix⟩
    | cons d b =>
      by_cases same : c = d
      · subst same
        simp [commonStart, ih b]
      · simp [commonStart, same]

theorem commonStartOf_isPrefix {texts : List (List Char)} {shared : List Char}
    (common : commonStartOf texts = some shared) : ∀ text ∈ texts, shared <+: text := by
  induction texts generalizing shared with
  | nil => simp
  | cons first rest ih =>
    intro text member
    unfold commonStartOf at common
    split at common
    · rename_i none_
      cases common
      cases rest with
      | nil =>
        obtain rfl := List.mem_singleton.mp member
        exact List.prefix_refl _
      | cons second more =>
        unfold commonStartOf at none_
        split at none_ <;> cases none_
    · rename_i others later
      cases common
      rcases List.mem_cons.mp member with rfl | inRest
      · exact (commonStart_isPrefix _ _).1
      · exact (commonStart_isPrefix _ _).2.trans (ih later text inRest)

/-- The margin is the start of the indentation of every line with something on it. -/
theorem margin_isPrefix {lines : List (List Char)} {line : List Char} (member : line ∈ lines)
    (written : line.all isIndent = false) : margin lines <+: line.takeWhile isIndent := by
  unfold margin
  cases common : commonStartOf ((lines.filter fun line => !line.all isIndent).map (List.takeWhile isIndent)) with
  | none => exact List.nil_prefix
  | some shared =>
    refine commonStartOf_isPrefix common _ (List.mem_map_of_mem ?_)
    simp [member, written]

/-! ## What is left of a text -/

theorem mem_intercalate {α : Type} {separator c : α} (apart : c ≠ separator) (parts : List (List α)) :
    c ∈ [separator].intercalate parts ↔ ∃ part ∈ parts, c ∈ part := by
  induction parts with
  | nil => simp
  | cons first rest ih =>
    cases rest with
    | nil => simp
    | cons second more =>
      rw [List.intercalate_cons_cons, List.mem_append, List.mem_append, ih]
      simp [apart]

theorem isIndent_isBlank {c : Char} (indent : isIndent c = true) : isBlank c = true := by
  simp only [isIndent, Bool.or_eq_true, beq_iff_eq] at indent
  rcases indent with rfl | rfl <;> decide

/-- A character that is not blank outlives the removal of the margin. -/
theorem mem_drop_margin {lines : List (List Char)} {line : List Char} {c : Char} (member : line ∈ lines)
    (written : line.all isIndent = false) (visible : isBlank c = false) (inLine : c ∈ line) :
    c ∈ line.drop (margin lines).length := by
  have split : c ∈ line.take (margin lines).length ∨ c ∈ line.drop (margin lines).length := by
    rwa [← List.mem_append, List.take_append_drop]
  refine split.resolve_left fun inMargin => ?_
  have inside := margin_isPrefix member written
  have whole : margin lines <+: line := inside.trans (List.takeWhile_prefix _)
  rw [← List.prefix_iff_eq_take.mp whole] at inMargin
  have indent := List.mem_takeWhile_imp (inside.subset inMargin)
  rw [isIndent_isBlank indent] at visible
  cases visible

theorem mem_dedent {s : String} {c : Char} (visible : isBlank c = false) :
    c ∈ (dedent s).toList ↔ c ∈ s.toList := by
  have apart : c ≠ '\n' := by
    rintro rfl
    revert visible
    decide
  have lines : c ∈ s.toList ↔ ∃ line ∈ s.toList.splitOn '\n', c ∈ line := by
    rw [← mem_intercalate apart, List.intercalate_splitOn]
  rw [lines, dedent, String.toList_ofList, mem_intercalate apart]
  constructor
  · rintro ⟨part, member, inPart⟩
    obtain ⟨line, inLines, rfl⟩ := List.mem_map.mp member
    refine ⟨line, inLines, ?_⟩
    split at inPart
    · cases inPart
    · exact List.mem_of_mem_drop inPart
  · rintro ⟨line, inLines, inLine⟩
    have written : line.all isIndent = false := by
      rw [List.all_eq_false]
      refine ⟨c, inLine, fun indent => ?_⟩
      rw [isIndent_isBlank indent] at visible
      cases visible
    refine ⟨_, List.mem_map_of_mem inLines, ?_⟩
    simp only [written, Bool.false_eq_true, ↓reduceIte]
    exact mem_drop_margin inLines written visible inLine

/-- Nothing is left of a paragraph that was moved to the left and trimmed just if nothing is written on it. -/
theorem trim_dedent_isEmpty (s : String) :
    (trim (dedent s)).isEmpty = true ↔ ∀ c ∈ s.toList, isBlank c = true := by
  rw [String.isEmpty_iff, ← String.toList_inj, trim, String.toList_ofList]
  change trimBy isBlank (dedent s).toList = [] ↔ _
  rw [trimBy_eq_nil]
  constructor
  · intro blank c member
    by_contra visible
    exact visible (blank c ((mem_dedent (Bool.eq_false_iff.mpr visible)).mpr member))
  · intro blank c member
    by_contra visible
    exact visible (blank c ((mem_dedent (Bool.eq_false_iff.mpr visible)).mp member))

end Colloquy.Text
