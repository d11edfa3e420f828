import Mathlib.Data.List.DropRight
import Colloquy.Text.Blank

/-! What trimming takes away: the longest runs at the ends whose characters all satisfy a test. -/
namespace Colloquy.Text
variable {p : Char → Bool} {before body after cs : List Char}

/-- A text is what trimming leaves of it between two runs that satisfy the test. -/
theorem trimBy_split (p : Char → Bool) (cs : List Char) :
    ∃ before after, cs = before ++ trimBy p cs ++ after ∧ (∀ c ∈ before, p c = true) ∧ ∀ c ∈ after, p c = true := by
  refine ⟨cs.takeWhile p, ((cs.dropWhile p).reverse.takeWhile p).reverse, ?_, fun c => List.mem_takeWhile_imp,
    fun c member => List.mem_takeWhile_imp (List.mem_reverse.mp member)⟩
  rw [trimBy, List.append_assoc, ← List.reverse_append, List.takeWhile_append_dropWhile, List.reverse_reverse,
    List.takeWhile_append_dropWhile]

theorem trimBy_eq_nil : trimBy p cs = [] ↔ ∀ c ∈ cs, p c = true := by
  refine ⟨fun trimmed => ?_, trimBy_eq_nil_of_all⟩
  obtain ⟨before, after, split, front, back⟩ := trimBy_split p cs
  rw [trimmed, List.append_nil] at split
  rw [split]
  intro c member
  rcases List.mem_append.mp member with inFront | inBack
  · exact front c inFront
  · exact back c inBack

theorem dropWhile_stop {run : List Char} (first : ∀ c, run.head? = some c → p c = false) : run.dropWhile p = run := by
  cases run with
  | nil => rfl
  | cons c more => exact List.dropWhile_cons_of_neg (by simp [first c rfl])

/-- A run that starts and ends with characters which fail the test stops the trimming on both sides. -/
theorem trimBy_around (nonempty : body ≠ []) (front : ∀ c ∈ before, p c = true) (back : ∀ c ∈ after, p c = true)
    (first : ∀ c, body.head? = some c → p c = false) (last : ∀ c, body.getLast? = some c → p c = false) :
    trimBy p (before ++ body ++ after) = body := by
  have starts : ∀ c, (body ++ after).head? = some c → p c = false := by
    intro c head
    rw [List.head?_append_of_ne_nil _ nonempty] at head
    exact first c head
  have ends : ∀ c, body.reverse.head? = some c → p c = false := by
    intro c head
    rw [List.head?_reverse] at head
    exact last c head
  have behind : ∀ c ∈ after.reverse, p c = true := fun c member => back c (List.mem_reverse.mp member)
  rw [trimBy, List.append_assoc, List.dropWhile_append_of_pos front, dropWhile_stop starts, List.reverse_append,
    List.dropWhile_append_of_pos behind, dropWhile_stop ends, List.reverse_reverse]

end Colloquy.Text
