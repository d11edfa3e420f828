import Mathlib.Data.List.Forall2
import Colloquy.Config.Load

/-! Keys that stand in a place of their own. Such a key is moved to the settings of its provider before anything is
checked, so that what is checked is the mapping that a reader would have written in the first place; whatever has no such
key is checked as it is. Only where the providers cannot be taken for a mapping is something else than a list of issues
the result. -/
namespace Colloquy

theorem Value.eq_text_iff {value : Value} {s : String} :
    value.eq (.text s) = true ↔ value = .text s ∨ value = .safe s := by
  cases value <;> simp [Value.eq, Value.magnitude?]

theorem Value.text_eq_iff {value : Value} {s : String} :
    (Value.text s).eq value = true ↔ value = .text s ∨ value = .safe s := by
  cases value <;> simp [Value.eq, Value.magnitude?, @eq_comm _ s]

theorem Value.safe_eq (s : String) (value : Value) : (Value.safe s).eq value = (Value.text s).eq value := by
  cases value <;> simp [Value.eq, Value.magnitude?]

namespace Setting

/-! ## Names that are texts -/

theorem sameName_text_iff {key : Setting} {s : String} :
    sameName key (text s) = true ↔ key = text s ∨ key = .leaf (.safe s) := by
  cases key <;> simp [sameName, text, Value.eq_text_iff]

theorem text_sameName_iff {name : Setting} {s : String} :
    sameName (text s) name = true ↔ name = text s ∨ name = .leaf (.safe s) := by
  cases name <;> simp [sameName, text, Value.text_eq_iff]

@[simp] theorem text_sameName_text (s t : String) : sameName (text s) (text t) = (s == t) := by
  rw [Bool.eq_iff_iff, text_sameName_iff, beq_iff_eq]
  simp [text, eq_comm]

/-- A key that is the same as a text is the same as all that the text is the same as. -/
theorem sameName_congr {key : Setting} {s : String} (same : sameName key (text s) = true) (name : Setting) :
    sameName key name = sameName (text s) name := by
  rcases sameName_text_iff.mp same with rfl | rfl
  · rfl
  · cases name <;> simp [sameName, text, Value.safe_eq]

/-- A key that is not the same as a text is the same as nothing that the text is the same as. -/
theorem sameName_of_not {key name : Setting} {s : String} (differs : sameName key (text s) = false)
    (same : sameName (text s) name = true) : sameName key name = false := by
  rcases text_sameName_iff.mp same with rfl | rfl
  · exact differs
  · cases key with
    | leaf value => cases value <;> simp_all [sameName, text, Value.eq, Value.magnitude?]
    | _ => rfl

section Entries

variable {α : Type}

@[simp] theorem valueUnder_nil (name : Setting) : valueUnder ([] : List (Setting × α)) name = none := rfl

theorem valueUnder_cons (key : Setting) (value : α) (rest : List (Setting × α)) (name : Setting) :
    valueUnder ((key, value) :: rest) name = if sameName key name then some value else valueUnder rest name := by
  simp only [valueUnder, List.find?_cons]
  split <;> simp_all

theorem valueUnder_put (entries : List (Setting × α)) (name : String) (value : α) (other : Setting) :
    valueUnder (put entries (text name) value) other =
      if sameName (text name) other then some value else valueUnder entries other := by
  induction entries with
  | nil => simp [put, valueUnder_cons]
  | cons entry rest ih =>
    obtain ⟨key, old⟩ := entry
    rw [put]
    split
    · rename_i same
      rw [valueUnder_cons, valueUnder_cons, sameName_congr same]
      split <;> rfl
    · rename_i differs
      rw [valueUnder_cons, valueUnder_cons, ih]
      by_cases same : sameName (text name) other = true
      · simp [same, sameName_of_not (Bool.not_eq_true _ ▸ differs) same]
      · simp [same]

theorem valueUnder_drop (entries : List (Setting × α)) (name : String) (other : Setting) :
    valueUnder (drop entries (text name)) other =
      if sameName (text name) other then none else valueUnder entries other := by
  induction entries with
  | nil => simp [drop]
  | cons entry rest ih =>
    obtain ⟨key, value⟩ := entry
    unfold drop at ih ⊢
    rw [List.filter_cons]
    split
    · rename_i differs
      rw [valueUnder_cons, valueUnder_cons, ih]
      by_cases same : sameName (text name) other = true
      · simp [same, sameName_of_not (by simpa using differs) same]
      · simp [same]
    · rename_i kept
      have same : sameName key (text name) = true := by simpa using kept
      rw [ih, valueUnder_cons, sameName_congr same]
      split <;> rfl

theorem names_put (entries : List (Setting × α)) (name : Setting) (value : α) :
    (put entries name value).map Prod.fst =
      if (valueUnder entries name).isSome then entries.map Prod.fst else entries.map Prod.fst ++ [name] := by
  induction entries with
  | nil => rfl
  | cons entry rest ih =>
    obtain ⟨key, old⟩ := entry
    rw [put, valueUnder_cons]
    split
    · rfl
    · rw [List.map_cons, ih]
      split <;> rfl

theorem names_drop (entries : List (Setting × α)) (name : Setting) :
    (drop entries name).map Prod.fst = (entries.map Prod.fst).filter fun key => !sameName key name := by
  simp [drop, List.filter_map, Function.comp_def]

/-- A value under a name, unless there is one. -/
def putNew (entries : List (Setting × α)) (name : Setting) (value : α) : List (Setting × α) :=
  if (valueUnder entries name).isNone then put entries name value else entries

theorem put_of_valueUnder {entries : List (Setting × α)} {name : Setting} {value : α}
    (held : valueUnder entries name = some value) : put entries name value = entries := by
  induction entries with
  | nil => cases held
  | cons entry rest ih =>
    obtain ⟨key, old⟩ := entry
    rw [valueUnder_cons] at held
    rw [put]
    split at held
    · cases held
      rw [if_pos ‹_›]
    · rw [if_neg ‹_›, ih held]

/-- Writing back what is there writes nothing. -/
theorem put_getD (entries : List (Setting × α)) (name : Setting) (value : α) :
    put entries name ((valueUnder entries name).getD value) = putNew entries name value := by
  unfold putNew
  cases held : valueUnder entries name with
  | none => rfl
  | some old => exact put_of_valueUnder held

end Entries

/-! ## What takes the place of a mapping -/

/-- A pair, which is a sequence of a name and the value under it. -/
def Pairs (pair : Setting) (entry : Setting × Setting) : Prop :=
  pair.collect = .ok [entry.1, entry.2] ∧ entry.1.isName = true

/-- The mapping that entries make one after the other, a later one in place of an earlier. -/
def gather (before entries : List (Setting × Setting)) : List (Setting × Setting) :=
  entries.foldl (fun all entry => put all entry.1 entry.2) before

/-- The entries in a place for a mapping: those of the mapping there, those that a sequence of pairs writes, and none
where nothing is or what counts as false. -/
inductive Holds : Option Setting → List (Setting × Setting) → Prop
  | nothing : Holds none []
  | mapping (entries : List (Setting × Setting)) : Holds (some (.mapping entries)) entries
  | untrue {setting : Setting} : setting.isTrue = false → Holds (some setting) []
  | pairs {setting : Setting} {pairs : List Setting} {entries : List (Setting × Setting)} :
    (∀ own, setting ≠ .mapping own) → setting.isTrue = true → setting.collect = .ok pairs →
    List.Forall₂ Pairs pairs entries → Holds (some setting) (gather [] entries)

theorem entriesOf_eq_ok_iff {i : Nat} {before after : List (Setting × Setting)} {pairs : List Setting} :
    entriesOf i before pairs = .ok after ↔ ∃ entries, List.Forall₂ Pairs pairs entries ∧ after = gather before entries := by
  induction pairs generalizing i before with
  | nil => simp [entriesOf, gather, eq_comm]
  | cons pair rest ih =>
    rw [entriesOf]
    constructor
    · intro read
      cases found : pair.collect with
      | error cause => rw [found] at read; cases read
      | ok parts =>
        rw [found] at read
        match parts, read with
        | [name, value], read =>
          by_cases named : name.isName = true
          · obtain ⟨entries, others, rfl⟩ := ih.mp (by simpa [bind, Except.bind, named] using read)
            exact ⟨(name, value) :: entries, .cons ⟨found, named⟩ others, rfl⟩
          · simp [bind, Except.bind, named] at read
        | [], read | [_], read | _ :: _ :: _ :: _, read => cases read
    · rintro ⟨_, pairs, rfl⟩
      cases pairs with
      | cons here others =>
        obtain ⟨found, named⟩ := here
        simpa [found, bind, Except.bind, named] using ih.mpr ⟨_, others, rfl⟩

theorem entriesOr_of_other {setting : Setting} (other : ∀ own, setting ≠ .mapping own) :
    entriesOr (some setting) =
      if setting.isTrue then (do entriesOf 0 [] (← setting.collect)) else .ok [] := by
  cases setting with
  | mapping own => exact absurd rfl (other own)
  | _ => rfl

theorem entriesOr_eq_ok_iff {given : Option Setting} {entries : List (Setting × Setting)} :
    entriesOr given = .ok entries ↔ Holds given entries := by
  constructor
  · intro read
    cases given with
    | none =>
      cases read
      exact .nothing
    | some setting =>
      by_cases own : ∃ own, setting = .mapping own
      · obtain ⟨own, rfl⟩ := own
        cases read
        exact .mapping _
      · have other := not_exists.mp own
        rw [entriesOr_of_other other] at read
        split at read
        · rename_i counts
          cases collected : setting.collect with
          | error cause =>
            rw [collected] at read
            cases read
          | ok pairs =>
            rw [collected] at read
            obtain ⟨written, all, rfl⟩ := entriesOf_eq_ok_iff.mp read
            exact .pairs other counts collected all
        · cases read
          exact .untrue (Bool.eq_false_iff.mpr ‹_›)
  · intro held
    cases held with
    | nothing => rfl
    | mapping => rfl
    | @untrue setting untrue =>
      by_cases own : ∃ own, setting = .mapping own
      · obtain ⟨own, rfl⟩ := own
        cases own with
        | nil => rfl
        | cons => cases untrue
      · rw [entriesOr_of_other (not_exists.mp own), untrue]
        rfl
    | pairs other counts collected all =>
      rw [entriesOr_of_other other, counts, collected]
      exact entriesOf_eq_ok_iff.mpr ⟨_, all, rfl⟩

end Setting
end Colloquy
