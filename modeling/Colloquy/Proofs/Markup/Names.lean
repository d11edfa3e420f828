import Colloquy.Markup.Content
import Colloquy.Proofs.Markup.Tree

/-! Names in markup. A name is read from exactly the characters that make it up, wherever it is followed by a character
that does not continue it. The name of a thing in a namespace is no such name: it cannot be read back. -/
namespace Colloquy.Markup

/-- The characters of a name without a colon. -/
def IsName : List Char → Prop
  | [] => False
  | c :: rest => isNameStart c = true ∧ ∀ d ∈ rest, isNameChar d = true

/-- A name that is written with its namespace in front of it. -/
def InSpace (name : String) : Prop := ∃ uri base, name = expandedName uri base

/-- Characters that stand around names. -/
def marks : List Char := ['<', '>', '/', '!', '?', '=', '\'', '"', '&', ';', '#', '[', '\x7b', ' ', '\t', '\n', '\r']

theorem marks_apart : ∀ c ∈ marks, isNameStart c = false ∧ isNameChar c = false ∧ c ≠ ':' := by
  have checked : marks.all (fun c => !isNameStart c && (!isNameChar c && c != ':')) = true := by decide
  intro c mark
  have here := List.all_eq_true.mp checked c mark
  simpa using here

theorem isNameStart_ne {c d : Char} (start : isNameStart c = true) (mark : d ∈ marks) : c ≠ d := by
  rintro rfl
  rw [(marks_apart c mark).1] at start
  cases start

/-- A character after which a name has ended. -/
def EndsName (after : List Char) : Prop := ∀ c, after.head? = some c → c ∈ marks

theorem EndsName.boundary {after : List Char} (ends : EndsName after) :
    ∀ c, after.head? = some c → isNameChar c = false :=
  fun c head => (marks_apart c (ends c head)).2.1

section Written
variable {word after : List Char}

theorem name_written (named : IsName word) (ends : EndsName after) :
    name (word ++ after) = .ok (String.ofList word, after) := by
  cases word with
  | nil => cases named
  | cons c rest =>
    obtain ⟨start, inside⟩ := named
    have run := takeWhile_run inside ends.boundary
    have left := dropWhile_run inside ends.boundary
    simp only [List.cons_append, name, start, ↓reduceIte, run, left]

theorem qualified_refused {c : Char} (mark : c ∈ marks) (rest : List Char) :
    ∃ stop, qualified (c :: rest) = .error stop := by
  simp only [qualified, name, (marks_apart c mark).1, Bool.false_eq_true, ↓reduceIte, stopAt]
  exact ⟨_, rfl⟩

theorem qualified_written (named : IsName word) (ends : EndsName after) :
    qualified (word ++ after) = .ok (⟨none, String.ofList word⟩, after) := by
  rw [qualified, name_written named ends]
  cases after with
  | nil => rfl
  | cons c rest =>
    have other := (marks_apart c (ends c rfl)).2.2
    split
    · rename_i stop failed
      cases failed
    · rename_i first rest found
      cases found
      exact absurd rfl other
    · rename_i first rest found
      cases found
      rfl

theorem closingName_written (named : IsName word) (ends : EndsName after) :
    closingName (word ++ after) = .ok (String.ofList word, after) := by
  cases word with
  | nil => cases named
  | cons c rest =>
    obtain ⟨start, inside⟩ := named
    have within : ∀ d ∈ rest, (isNameChar d || d == ':') = true := by
      intro d member
      simp [inside d member]
    have boundary : ∀ d, after.head? = some d → (isNameChar d || d == ':') = false := by
      intro d head
      simp [ends.boundary d head, (marks_apart d (ends d head)).2.2]
    have run := takeWhile_run within boundary
    have left := dropWhile_run within boundary
    simp only [List.cons_append, closingName, start, ↓reduceIte, run, left]

end Written

section Read
variable {cs rest : List Char}

theorem name_isName {found : String} (read : name cs = .ok (found, rest)) : IsName found.toList := by
  unfold name at read
  split at read
  · cases read
  · split at read
    · rename_i start
      cases read
      rw [String.toList_ofList]
      exact ⟨start, takeWhile_inside isNameChar _⟩
    · cases read

theorem qualified_isName {q : QName} (read : qualified cs = .ok (q, rest)) : IsName q.base.toList := by
  unfold qualified at read
  split at read
  · cases read
  · split at read
    · cases read
    · cases read
    · rename_i second
      cases read
      exact name_isName second
  · rename_i first
    cases read
    exact name_isName first

end Read

/-- No name is in a namespace: that would begin with a brace. -/
theorem IsName.not_inSpace {name : String} (named : IsName name.toList) : ¬ InSpace name := by
  rintro ⟨uri, base, rfl⟩
  have begins : (expandedName uri base).toList = '\x7b' :: (uri ++ "\x7d" ++ base).toList := by
    simp [expandedName]
  rw [begins] at named
  exact absurd named.1 (by decide)

end Colloquy.Markup
