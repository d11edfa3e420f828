import Mathlib.Data.List.Basic
import Mathlib.Data.List.Induction
import Colloquy.Fields

/-! Writing several entries into a map. Whatever is written in between, a name has in the end the last value that was
written under it, or the one that it had before. The names stand in the order in which they were first written. -/
namespace Colloquy.Fields
variable {α β : Type} {fields more : Fields α} {name : String} {value : α}

/-- The last value that some entries give to a name. -/
def last? (entries : List (String × α)) (name : String) : Option α :=
  ((entries.filter fun entry => entry.1 == name).getLast?).map Prod.snd

theorem last?_cons (entry : String × α) (rest : List (String × α)) (name : String) :
    last? (entry :: rest) name = (last? rest name).or (if entry.1 = name then some entry.2 else none) := by
  unfold last?
  by_cases same : entry.1 = name
  · rw [List.filter_cons_of_pos (by simpa using same), List.getLast?_cons, if_pos same]
    cases (rest.filter fun entry => entry.1 == name).getLast? <;> rfl
  · rw [List.filter_cons_of_neg (by simpa using same), if_neg same, Option.or_none]

theorem last?_append (first second : List (String × α)) (name : String) :
    last? (first ++ second) name = (last? second name).or (last? first name) := by
  unfold last?
  rw [List.filter_append, List.getLast?_append]
  cases (second.filter fun entry => entry.1 == name).getLast? <;> rfl

theorem mem_of_last? {entries : List (String × α)} (found : last? entries name = some value) :
    (name, value) ∈ entries := by
  obtain ⟨entry, isLast, rfl⟩ := Option.map_eq_some_iff.mp found
  obtain ⟨member, same⟩ := List.mem_filter.mp (List.mem_of_getLast? isLast)
  obtain rfl := beq_iff_eq.mp same
  exact member

theorem exists_last? {entries : List (String × α)} (present : name ∈ names entries) :
    ∃ value, last? entries name = some value := by
  obtain ⟨entry, member, rfl⟩ := List.mem_map.mp present
  have kept : entry ∈ entries.filter fun other => other.1 == entry.1 := List.mem_filter.mpr ⟨member, by simp⟩
  obtain ⟨last, isLast⟩ := List.getLast?_isSome.mpr (List.ne_nil_of_mem kept) |> Option.isSome_iff_exists.mp
  exact ⟨last.2, by rw [last?, isLast]; rfl⟩

theorem last?_eq_none {entries : List (String × α)} (absent : name ∉ names entries) : last? entries name = none := by
  cases found : last? entries name with
  | none => rfl
  | some value => exact absurd (List.mem_map.mpr ⟨_, mem_of_last? found, rfl⟩) absent

theorem last?_map (f : α → β) (entries : List (String × α)) (name : String) :
    last? (entries.map fun entry => (entry.1, f entry.2)) name = (last? entries name).map f := by
  simp [last?, List.filter_map, Function.comp_def, List.getLast?_map, Option.map_map]

theorem last?_eq_none_iff {entries : List (String × α)} : last? entries name = none ↔ name ∉ names entries := by
  constructor
  · intro none present
    obtain ⟨value, found⟩ := exists_last? present
    rw [none] at found
    cases found
  · exact last?_eq_none

/-- What is under a name after several entries were written. -/
theorem get?_merge (fields : Fields α) (more : List (String × α)) (name : String) :
    (fields.merge more).get? name = (last? more name).or (fields.get? name) := by
  induction more generalizing fields with
  | nil => rfl
  | cons entry rest ih =>
    have head : fields.merge (entry :: rest) = (fields.put entry.1 entry.2).merge rest := rfl
    rw [head, ih, last?_cons, get?_put, Option.or_assoc]
    by_cases same : entry.1 = name
    · rw [if_pos same, if_pos same]
      rfl
    · rw [if_neg same, if_neg same]
      rfl

theorem get?_ofPairs (entries : List (String × α)) (name : String) : (ofPairs entries).get? name = last? entries name := by
  rw [ofPairs, get?_merge, get?_nil, Option.or_none]

/-- Writing the entries of several lists, one after another. -/
theorem foldl_merge (items : List β) (entries : β → List (String × α)) (fields : Fields α) :
    items.foldl (fun fields item => fields.merge (entries item)) fields = fields.merge (items.flatMap entries) := by
  rw [merge, List.foldl_flatMap]
  rfl

theorem mem_of_get? (found : fields.get? name = some value) : (name, value) ∈ fields := by
  induction fields with
  | nil => cases found
  | cons entry rest ih =>
    obtain ⟨key, first⟩ := entry
    unfold get? at found
    split at found
    · rename_i same
      cases found
      rw [beq_iff_eq.mp same]
      exact List.mem_cons_self
    · exact List.mem_cons_of_mem _ (ih found)

theorem mem_put {entry : String × α} (member : entry ∈ fields.put name value) :
    entry ∈ fields ∨ entry = (name, value) := by
  induction fields with
  | nil => simpa [put] using member
  | cons first rest ih =>
    obtain ⟨key, old⟩ := first
    unfold put at member
    split at member
    · rename_i same
      rcases List.mem_cons.mp member with rfl | member
      · exact .inr (by rw [beq_iff_eq.mp same])
      · exact .inl (List.mem_cons_of_mem _ member)
    · rcases List.mem_cons.mp member with rfl | member
      · exact .inl List.mem_cons_self
      · rcases ih member with member | same
        · exact .inl (List.mem_cons_of_mem _ member)
        · exact .inr same

theorem mem_merge {entry : String × α} (member : entry ∈ fields.merge more) : entry ∈ fields ∨ entry ∈ more := by
  induction more generalizing fields with
  | nil => exact .inl member
  | cons first rest ih =>
    have onward : entry ∈ (fields.put first.1 first.2).merge rest := member
    rcases ih onward with put | later
    · rcases mem_put put with old | rfl
      · exact .inl old
      · exact .inr List.mem_cons_self
    · exact .inr (List.mem_cons_of_mem _ later)

theorem names_cons (key : String) (value : α) (rest : Fields α) : names ((key, value) :: rest) = key :: names rest := rfl

theorem names_put_eq : (fields.put name value).names =
    if name ∈ fields.names then fields.names else fields.names ++ [name] := by
  induction fields with
  | nil => rfl
  | cons first rest ih =>
    obtain ⟨key, old⟩ := first
    by_cases same : key = name
    · simp [put, same, names_cons]
    · simp only [put, beq_iff_eq, same, if_false, names_cons, ih, List.mem_cons, Ne.symm same, false_or]
      by_cases known : name ∈ names rest
      · simp [known]
      · simp [known]

theorem names_put_nodup (distinct : fields.names.Nodup) : (fields.put name value).names.Nodup := by
  rw [names_put_eq]
  split
  · exact distinct
  · next unknown =>
    refine List.nodup_append.mpr ⟨distinct, by simp, fun old known new here same => unknown ?_⟩
    rwa [← List.mem_singleton.mp here, ← same]

theorem names_put {other : String} : other ∈ (fields.put name value).names ↔ other ∈ fields.names ∨ other = name := by
  rw [names_put_eq]
  by_cases known : name ∈ fields.names
  · rw [if_pos known]
    exact ⟨.inl, fun here => here.elim id fun same => same ▸ known⟩
  · rw [if_neg known]
    simp

/-- The names in a map after several entries were written. -/
theorem names_merge {other : String} : other ∈ (fields.merge more).names ↔ other ∈ fields.names ∨ other ∈ more.names := by
  induction more generalizing fields with
  | nil => simp [merge, names]
  | cons first rest ih =>
    have head : fields.merge (first :: rest) = (fields.put first.1 first.2).merge rest := rfl
    rw [head, ih, names_put]
    simp only [names, List.map_cons, List.mem_cons, or_assoc]

theorem names_merge_nodup (distinct : fields.names.Nodup) : (fields.merge more).names.Nodup := by
  induction more generalizing fields with
  | nil => exact distinct
  | cons first rest ih => exact ih (names_put_nodup distinct)

/-- A name that is written behind others is new or changes nothing. -/
theorem eraseDups_concat (names : List String) (last : String) :
    (names ++ [last]).eraseDups = if last ∈ names then names.eraseDups else names.eraseDups ++ [last] := by
  rw [List.eraseDups_append]
  by_cases known : last ∈ names
  · simp [List.removeAll, known]
  · simp [List.removeAll, known, List.eraseDups_cons]

theorem eraseDups_nodup (names : List String) : names.eraseDups.Nodup := by
  induction names using List.reverseRecOn with
  | nil => simp
  | append_singleton names last ih =>
    rw [eraseDups_concat]
    split
    · exact ih
    · rename_i new
      rw [List.nodup_append]
      refine ⟨ih, by simp, fun name member other same => ?_⟩
      rw [List.mem_singleton.mp same]
      rintro rfl
      exact new (List.mem_eraseDups.mp member)

/-- Of several names only the first appearances count, whatever comes after them. -/
theorem eraseDups_append_congr {first second : List String} (same : first.eraseDups = second.eraseDups)
    (more : List String) : (first ++ more).eraseDups = (second ++ more).eraseDups := by
  induction more using List.reverseRecOn with
  | nil => rwa [List.append_nil, List.append_nil]
  | append_singleton more last ih =>
    have known : last ∈ first ↔ last ∈ second := by rw [← List.mem_eraseDups, same, List.mem_eraseDups]
    rw [← List.append_assoc, ← List.append_assoc, eraseDups_concat, eraseDups_concat, ih]
    simp only [List.mem_append, known]

theorem eraseDups_append_eraseDups (first more : List String) :
    (first ++ more.eraseDups).eraseDups = (first ++ more).eraseDups := by
  induction more using List.reverseRecOn with
  | nil => rfl
  | append_singleton more last ih =>
    rw [eraseDups_concat, ← List.append_assoc, eraseDups_concat]
    by_cases known : last ∈ more
    · rw [if_pos known, if_pos (List.mem_append_right _ known), ih]
    · rw [if_neg known, ← List.append_assoc, eraseDups_concat, ih]
      simp only [List.mem_append, List.mem_eraseDups]

/-- Names may be left out where they are repeated within their own list. -/
theorem eraseDups_flatMap (items : List β) (listed : β → List String) :
    (items.flatMap fun item => (listed item).eraseDups).eraseDups = (items.flatMap listed).eraseDups := by
  induction items using List.reverseRecOn with
  | nil => rfl
  | append_singleton items last ih =>
    rw [List.flatMap_append, List.flatMap_append, List.flatMap_singleton, List.flatMap_singleton,
      eraseDups_append_eraseDups, eraseDups_append_congr ih]

theorem ofPairs_concat (pairs : List (String × α)) (last : String × α) :
    ofPairs (pairs ++ [last]) = (ofPairs pairs).put last.1 last.2 := by
  simp [ofPairs, merge]

/-- The names of a map that was written from pairs, in the order in which they first appeared. -/
theorem names_ofPairs (pairs : List (String × α)) : (ofPairs pairs).names = (pairs.map Prod.fst).eraseDups := by
  induction pairs using List.reverseRecOn with
  | nil => rfl
  | append_singleton pairs last ih =>
    rw [ofPairs_concat, names_put_eq, ih, List.map_append, List.map_singleton, eraseDups_concat]
    simp only [List.mem_eraseDups]

theorem has_iff : fields.has name = true ↔ name ∈ fields.names := by
  constructor
  · intro present
    obtain ⟨value, found⟩ := Option.isSome_iff_exists.mp present
    exact List.mem_map.mpr ⟨_, mem_of_get? found, rfl⟩
  · intro member
    induction fields with
    | nil => cases member
    | cons first rest ih =>
      obtain ⟨key, old⟩ := first
      by_cases same : key = name
      · simp [has, get?, same]
      · have later := ih ((List.mem_cons.mp member).resolve_left (Ne.symm same))
        simpa [has, get?, same] using later

theorem get?_eq_some_iff :
    fields.get? name = some value ↔ ∃ early late, fields = early ++ (name, value) :: late ∧ name ∉ names early := by
  constructor
  · intro found
    induction fields with
    | nil => cases found
    | cons entry rest ih =>
      obtain ⟨key, first⟩ := entry
      by_cases same : key = name
      · simp only [get?, same, beq_self_eq_true, ↓reduceIte, Option.some.injEq] at found
        exact ⟨[], rest, by rw [same, found]; rfl, List.not_mem_nil⟩
      · simp only [get?, beq_eq_false_iff_ne.mpr same, Bool.false_eq_true, ↓reduceIte] at found
        obtain ⟨early, late, rfl, first⟩ := ih found
        exact ⟨(key, _) :: early, late, rfl, fun member => (List.mem_cons.mp member).elim (Ne.symm same) first⟩
  · rintro ⟨early, late, rfl, first⟩
    induction early with
    | nil => simp [get?]
    | cons entry rest ih =>
      obtain ⟨key, other⟩ := entry
      obtain ⟨apart, others⟩ := not_or.mp (mt List.mem_cons.mpr first)
      simp [get?, Ne.symm apart, ih others]

theorem get?_eq_none_iff : fields.get? name = none ↔ name ∉ fields.names := by
  rw [← Option.not_isSome_iff_eq_none, ← has, has_iff]

theorem get?_of_mem (distinct : fields.names.Nodup) (member : (name, value) ∈ fields) :
    fields.get? name = some value := by
  induction fields with
  | nil => cases member
  | cons first rest ih =>
    obtain ⟨key, old⟩ := first
    obtain ⟨new, others⟩ := List.nodup_cons.mp distinct
    rcases List.mem_cons.mp member with same | later
    · cases same
      simp [get?]
    · have apart : key ≠ name := by
        rintro rfl
        exact new (List.mem_map.mpr ⟨_, later, rfl⟩)
      simp [get?, apart, ih others later]

/-- In a map with distinct names every entry is the last one of its name. -/
theorem last?_of_distinct (distinct : fields.names.Nodup) (name : String) : last? fields name = fields.get? name := by
  cases found : last? fields name with
  | some value => exact (get?_of_mem distinct (mem_of_last? found)).symm
  | none =>
    cases held : fields.get? name with
    | none => rfl
    | some value =>
      obtain ⟨last, isLast⟩ := exists_last? (List.mem_map.mpr ⟨_, mem_of_get? held, rfl⟩)
      rw [found] at isLast
      cases isLast

/-- A map with distinct names is told by its names and what is under each. -/
theorem entries_of_distinct (distinct : fields.names.Nodup) :
    (fields.names.filterMap fun name => (fields.get? name).map (name, ·)) = fields := by
  induction fields with
  | nil => rfl
  | cons first rest ih =>
    obtain ⟨key, value⟩ := first
    obtain ⟨new, others⟩ := List.nodup_cons.mp distinct
    have onward : ∀ name ∈ names rest,
        (get? ((key, value) :: rest) name).map (name, ·) = (get? rest name).map (name, ·) := by
      intro name member
      have apart : key ≠ name := by
        rintro rfl
        exact new member
      simp [get?, apart]
    rw [names_cons, List.filterMap_cons, List.filterMap_congr onward]
    simp [get?, ih others]

/-- The map that pairs write: of each name the last value, the names in the order in which they first appear. -/
theorem ofPairs_eq (pairs : List (String × α)) :
    ofPairs pairs = (names pairs).eraseDups.filterMap fun name => (last? pairs name).map (name, ·) := by
  have names : (ofPairs pairs).names = (names pairs).eraseDups := names_ofPairs pairs
  have distinct : (ofPairs pairs).names.Nodup := names ▸ eraseDups_nodup _
  rw [← entries_of_distinct distinct, names]
  simp only [get?_ofPairs]

theorem put_new (new : name ∉ fields.names) (value : α) : fields.put name value = fields ++ [(name, value)] := by
  induction fields with
  | nil => rfl
  | cons first rest ih =>
    obtain ⟨key, old⟩ := first
    simp only [names_cons, List.mem_cons, not_or] at new
    rw [put, if_neg (by simpa using Ne.symm new.1), ih new.2, List.cons_append]

/-- A map with distinct names is written by its own entries. -/
theorem ofPairs_of_distinct (distinct : fields.names.Nodup) : ofPairs fields = fields := by
  induction fields using List.reverseRecOn with
  | nil => rfl
  | append_singleton fields last ih =>
    rw [names, List.map_append, List.nodup_append] at distinct
    obtain ⟨others, -, apart⟩ := distinct
    have new : last.1 ∉ names fields := fun member => apart _ member last.1 (by simp) rfl
    rw [ofPairs_concat, ih others, put_new new]

end Colloquy.Fields
