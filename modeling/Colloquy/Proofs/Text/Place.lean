import Colloquy.Text.Lines

/-! What the place of an offset says. It leads back to the offset through the lengths of the lines before it, and of two
offsets in a text the smaller has the earlier place. -/
namespace Colloquy.Text

/-- The lines of a text, which end with line feeds; the last one does not end. -/
def feedLines (cs : List Char) : List (List Char) := cs.splitOn '\n'

/-- How many characters the first lines of a text take, each with the feed that ends it. -/
def extent (cs : List Char) (count : Nat) : Nat := (((feedLines cs).take count).flatMap (· ++ ['\n'])).length

/-- An earlier line, or the same line and an earlier column. -/
def Place.Precedes (first second : Place) : Prop :=
  first.line < second.line ∨ (first.line = second.line ∧ first.column < second.column)

/-- A place that leads to an offset of a text: lines and columns are counted from one, the column is that of a character
of the line or of the feed that ends it, and the lines before it take all the characters before its first column. -/
structure Place.LeadsTo (place : Place) (cs : List Char) (offset : Nat) : Prop where
  line_pos : 1 ≤ place.line
  column_pos : 1 ≤ place.column
  column_le : ∃ line, (feedLines cs)[(place.line - 1).toNat]? = some line ∧ place.column - 1 ≤ line.length
  offset_eq : (offset : Int) = extent cs (place.line - 1).toNat + (place.column - 1)

theorem feedLines_cons (c : Char) (cs : List Char) :
    feedLines (c :: cs) = if c = '\n' then [] :: feedLines cs else (feedLines cs).modifyHead (c :: ·) := by
  simp [feedLines, List.splitOn, List.splitOnP_cons_eq_if_modifyHead]

theorem lineStart_cons (c : Char) (cs : List Char) :
    lineStart (c :: cs) = if c = '\n' ∨ 0 < lineStart cs then lineStart cs + 1 else 0 := by
  have short : (cs.reverse.takeWhile (· != '\n')).length ≤ cs.reverse.length := (List.takeWhile_sublist _).length_le
  rw [List.length_reverse] at short
  unfold lineStart
  rw [List.reverse_cons, List.takeWhile_append, List.length_reverse, List.length_cons]
  by_cases all : (cs.reverse.takeWhile (· != '\n')).length = cs.length
  · by_cases feed : c = '\n' <;> simp [all, feed]
  · rw [if_neg all, if_pos (.inr (by omega))]
    omega

/-- The line in which a text is cut in two: the lines before it are as many as there are feeds in the first part, and
take what comes before the line. -/
theorem feedLines_append (part rest : List Char) :
    ∃ before line after, feedLines (part ++ rest) = before ++ line :: after ∧ before.length = part.count '\n' ∧
      (before.flatMap (· ++ ['\n'])).length = lineStart part ∧ part.length ≤ lineStart part + line.length := by
  induction part with
  | nil =>
    cases lines : feedLines rest with
    | nil => exact absurd lines (List.splitOn_ne_nil _ _)
    | cons line after => exact ⟨[], line, after, lines, rfl, rfl, Nat.zero_le _⟩
  | cons c part ih =>
    obtain ⟨before, line, after, lines, count, sum, within⟩ := ih
    rw [List.cons_append, feedLines_cons, lines, lineStart_cons]
    by_cases feed : c = '\n'
    · rw [if_pos feed, if_pos (.inl feed)]
      refine ⟨[] :: before, line, after, rfl, ?_, ?_, ?_⟩
      · simp [feed, count]
      · simp [← sum, Nat.add_comm]
      · rw [List.length_cons]
        omega
    · rw [if_neg feed]
      cases before with
      | nil =>
        have first : lineStart part = 0 := sum.symm
        rw [if_neg (by simp [feed, first])]
        refine ⟨[], c :: line, after, rfl, ?_, rfl, ?_⟩
        · simpa [feed] using count
        · simp only [List.length_cons]
          omega
      | cons first others =>
        have later : 0 < lineStart part := by
          rw [← sum, List.flatMap_cons, List.length_append, List.length_append, List.length_singleton]
          omega
        rw [if_pos (.inr later)]
        refine ⟨(c :: first) :: others, line, after, rfl, ?_, ?_, ?_⟩
        · simpa [feed] using count
        · rw [← sum]
          simp only [List.flatMap_cons, List.length_append, List.length_cons]
          omega
        · rw [List.length_cons]
          omega

theorem lineStart_eq (part rest : List Char) : lineStart part = extent (part ++ rest) (part.count '\n') := by
  obtain ⟨before, line, after, lines, count, sum, -⟩ := feedLines_append part rest
  rw [extent, lines, ← count, List.take_left, sum]

section Places
variable (source : String) (offset : Nat)

theorem place_line : (place source offset).line = (source.toList.take offset).count '\n' + 1 := by
  have positive : ¬ (offset : Int) < 0 := by omega
  simp only [place, before, if_neg positive, Int.toNat_natCast]

theorem place_column : (place source offset).column =
    offset - extent source.toList ((source.toList.take offset).count '\n') + 1 := by
  have positive : ¬ (offset : Int) < 0 := by omega
  have start := lineStart_eq (source.toList.take offset) (source.toList.drop offset)
  rw [List.take_append_drop] at start
  simp only [place, before, if_neg positive, Int.toNat_natCast, start]

end Places

section Order
variable {source : String} {offset other : Nat}

theorem place_leadsTo (within : offset ≤ source.length) : (place source offset).LeadsTo source.toList offset := by
  obtain ⟨before, line, after, lines, count, sum, inside⟩ :=
    feedLines_append (source.toList.take offset) (source.toList.drop offset)
  have start := lineStart_eq (source.toList.take offset) (source.toList.drop offset)
  rw [List.take_append_drop] at lines start
  have length : (source.toList.take offset).length = offset := by
    rw [List.length_take, String.length_toList]
    omega
  have least : lineStart (source.toList.take offset) ≤ offset := by
    rw [lineStart, length]
    exact Nat.sub_le ..
  have index : ((place source offset).line - 1).toNat = (source.toList.take offset).count '\n' := by
    rw [place_line]
    omega
  refine ⟨?_, ?_, ⟨line, ?_, ?_⟩, ?_⟩
  · rw [place_line]
    omega
  · rw [place_column]
    omega
  · rw [index, lines, ← count, List.getElem?_append_right (Nat.le_refl _), Nat.sub_self, List.getElem?_cons_zero]
  · rw [place_column]
    omega
  · rw [index, place_column]
    omega

/-- Of two offsets in a text the smaller has the earlier place. -/
theorem place_precedes (smaller : offset < other) : (place source offset).Precedes (place source other) := by
  have fewer : (source.toList.take offset).count '\n' ≤ (source.toList.take other).count '\n' :=
    (List.take_sublist_take_left (Nat.le_of_lt smaller)).count_le _
  rw [Place.Precedes, place_line, place_line, place_column, place_column]
  rcases Nat.lt_or_eq_of_le fewer with less | same
  · left
    omega
  · right
    rw [same]
    omega

theorem Place.Precedes.ne {first second : Place} (precedes : first.Precedes second) : first ≠ second := by
  rintro rfl
  rcases precedes with line | ⟨-, column⟩
  · exact Int.lt_irrefl _ line
  · exact Int.lt_irrefl _ column

/-- Different offsets have different places. -/
theorem place_injective (same : place source offset = place source other) : offset = other := by
  rcases Nat.lt_trichotomy offset other with smaller | equal | larger
  · exact absurd same (place_precedes smaller).ne
  · exact equal
  · exact absurd same.symm (place_precedes larger).ne

end Order

end Colloquy.Text
