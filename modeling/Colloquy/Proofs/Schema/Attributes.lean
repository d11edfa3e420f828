import Colloquy.Proofs.Schema.Wire

/-! Where the attributes of a declaration are sent. Of a scalar they all stand beside its type; of an array of scalars
the limits on its length stand at the array and all others at its items. None is sent twice and none is lost: a limit is
sent as the integer that it writes, any other attribute as it is written, and besides these a level sends only what it
says itself. -/
namespace Colloquy.Schema
open Colloquy.Markup

/-- An attribute that restricts the values: it says neither what the element is for, nor its description, nor its
type. -/
def Restricts (name : String) : Prop := name ∉ structuralNames ∧ name ∉ descriptionNames ∧ name ≠ "type"

/-- What is sent for the value of an attribute. -/
inductive SentAs (name value : String) : Json → Prop where
  | limit {n : Int} (limit : name ∈ limitNames) (writes : Text.Writes value n) : SentAs name value (.int n)
  | text (other : name ∉ limitNames) : SentAs name value (.text value)

/-- What a level says by itself: its type, its description and the values that it allows. -/
def ownEntries (kind : String) (description : Option String) (values : List String) : Fields Json :=
  ("type", .text kind) :: member "description" description .text ++
    member "enum" (if values.isEmpty then none else some values) textList

/-- The type of a scalar, or that of the items of an array. -/
def scalarKind (e : Element) : String := ((kindOf e).bind nonEmpty).getD "string"

/-- What is sent for a level: one entry for each restricting attribute that belongs there, and what the level says by
itself where no such attribute takes its name. -/
structure Carries (e : Element) (belongs : String → Prop) (own fields : Fields Json) : Prop where
  distinct : fields.names.Nodup
  each : ∀ name value, (name, value) ∈ e.attributes → Restricts name → belongs name →
    ∃ sent, SentAs name value sent ∧ (name, sent) ∈ fields
  kept : ∀ entry ∈ own, (Restricts entry.1 → belongs entry.1 → e.has entry.1 = false) → entry ∈ fields
  only : ∀ entry ∈ fields, entry ∈ own ∨ ∃ value, (entry.1, value) ∈ e.attributes ∧ Restricts entry.1 ∧
    belongs entry.1 ∧ SentAs entry.1 value entry.2

/-! ## What is read -/

section Reading
variable {tag : String} {attributes : Fields String}

theorem limit_eq_ok {name value : String} {n : Int} : limit tag name value = .ok n ↔
    Text.Writes value n ∧ Text.digitCount value ≤ Text.mostDigits := by
  rw [← Text.readInteger_eq_some, limit]
  cases Text.readInteger? 10 value <;> simp

/-- The limits that were read are those of the attributes, each the integer that is written there. -/
theorem mem_limitsOf {limits : Fields Int} (read : limitsOf tag attributes = .ok limits) {name : String} {n : Int} :
    (name, n) ∈ limits ↔ ∃ value, (name, value) ∈ attributes ∧ Text.Writes value n := by
  induction attributes generalizing limits with
  | nil =>
    cases read
    simp
  | cons entry rest ih =>
    obtain ⟨key, written⟩ := entry
    simp only [limitsOf, List.mapM_cons] at read
    obtain ⟨first, here, others⟩ := eq_ok_of_bind read
    obtain ⟨m, reads, rfl⟩ := eq_ok_of_map here
    obtain ⟨more, later, made⟩ := eq_ok_of_bind others
    cases made
    obtain ⟨writes, few⟩ := limit_eq_ok.mp reads
    simp only [List.mem_cons, Prod.mk.injEq, ih later]
    constructor
    · rintro (⟨rfl, rfl⟩ | ⟨value, member, also⟩)
      · exact ⟨written, .inl ⟨rfl, rfl⟩, writes⟩
      · exact ⟨value, .inr member, also⟩
    · rintro ⟨value, ⟨rfl, rfl⟩ | member, also⟩
      · have same := Text.readInteger_eq_some.mpr ⟨also, few⟩
        rw [Text.readInteger_eq_some.mpr ⟨writes, few⟩] at same
        exact .inl ⟨rfl, (Option.some.inj same).symm⟩
      · exact .inr ⟨value, member, also⟩

theorem restricts_iff {name : String} {skipped : List String} :
    describesLeaf skipped name = true ↔ Restricts name ∧ name ∉ skipped := by
  simp [describesLeaf, Restricts, and_assoc]

end Reading

/-! ## What is written over what -/

section Writing
variable {own : Fields Json} {extra : Fields String} {limits : Fields Int}

/-- What is sent for a level: what it says by itself, over which texts and then limits are written. -/
def written (own : Fields Json) (extra : Fields String) (limits : Fields Int) : Fields Json :=
  (own.merge (extra.map fun (name, value) => (name, .text value))).merge (limits.map fun (name, n) => (name, .int n))

theorem names_written (distinct : own.names.Nodup) : (written own extra limits).names.Nodup :=
  Fields.names_merge_nodup (Fields.names_merge_nodup distinct)

theorem get?_written (single : extra.names.Nodup) (once : limits.names.Nodup) (name : String) :
    (written own extra limits).get? name =
      ((limits.get? name).map .int).or (((extra.get? name).map .text).or (own.get? name)) := by
  rw [written, Fields.get?_merge, Fields.get?_merge]
  refine congrArg₂ Option.or ?_ (congrArg (Option.or · _) ?_)
  · exact (Fields.last?_map _ limits name).trans (by rw [Fields.last?_of_distinct once])
  · exact (Fields.last?_map _ extra name).trans (by rw [Fields.last?_of_distinct single])

theorem mem_written {entry : String × Json} (member : entry ∈ written own extra limits) :
    entry ∈ own ∨ (∃ value, (entry.1, value) ∈ extra ∧ entry.2 = .text value) ∨
      ∃ n, (entry.1, n) ∈ limits ∧ entry.2 = .int n := by
  rcases Fields.mem_merge member with member | limit
  · rcases Fields.mem_merge member with own | passed
    · exact .inl own
    · obtain ⟨⟨name, value⟩, present, rfl⟩ := List.mem_map.mp passed
      exact .inr (.inl ⟨value, present, rfl⟩)
  · obtain ⟨⟨name, n⟩, present, rfl⟩ := List.mem_map.mp limit
    exact .inr (.inr ⟨n, present, rfl⟩)

/-- A level carries the attributes that belong there if its limits and its texts are those of these attributes. -/
theorem carries_written {e : Element} {belongs : String → Prop} (distinct : own.names.Nodup)
    (single : extra.names.Nodup) (once : limits.names.Nodup)
    (limited : ∀ name n, (name, n) ∈ limits ↔
      ∃ value, (name, value) ∈ e.attributes ∧ (Restricts name ∧ belongs name) ∧ name ∈ limitNames ∧ Text.Writes value n)
    (read : ∀ name value, (name, value) ∈ e.attributes → Restricts name → belongs name → name ∈ limitNames →
      ∃ n, Text.Writes value n)
    (passed : ∀ name value, (name, value) ∈ extra ↔
      (name, value) ∈ e.attributes ∧ (Restricts name ∧ belongs name) ∧ name ∉ limitNames) :
    Carries e belongs own (written own extra limits) := by
  refine ⟨names_written distinct, fun name value member restricts here => ?_, fun entry member free => ?_,
    fun entry member => ?_⟩
  · by_cases limit : name ∈ limitNames
    · obtain ⟨n, writes⟩ := read name value member restricts here limit
      refine ⟨.int n, .limit limit writes, Fields.mem_of_get? ?_⟩
      have found := Fields.get?_of_mem once ((limited name n).mpr ⟨value, member, ⟨restricts, here⟩, limit, writes⟩)
      rw [get?_written single once, found]
      rfl
    · refine ⟨.text value, .text limit, Fields.mem_of_get? ?_⟩
      have found := Fields.get?_of_mem single ((passed name value).mpr ⟨member, ⟨restricts, here⟩, limit⟩)
      have absent : limits.get? name = none := by
        refine Fields.get?_eq_none_iff.mpr fun known => ?_
        obtain ⟨⟨name, n⟩, present, rfl⟩ := List.mem_map.mp known
        obtain ⟨-, -, -, other, -⟩ := (limited name n).mp present
        exact limit other
      rw [get?_written single once, absent, found]
      rfl
  · obtain ⟨name, sent⟩ := entry
    have apart {value : String} (member : (name, value) ∈ e.attributes) (restricts : Restricts name)
        (here : belongs name) : False := by
      have present : e.has name = true := Fields.has_iff.mpr (List.mem_map.mpr ⟨_, member, rfl⟩)
      rw [free restricts here] at present
      cases present
    have noLimit : limits.get? name = none := by
      refine Fields.get?_eq_none_iff.mpr fun known => ?_
      obtain ⟨⟨name, n⟩, present, rfl⟩ := List.mem_map.mp known
      obtain ⟨value, among, ⟨restricts, here⟩, -⟩ := (limited name n).mp present
      exact apart among restricts here
    have noText : extra.get? name = none := by
      refine Fields.get?_eq_none_iff.mpr fun known => ?_
      obtain ⟨⟨name, value⟩, present, rfl⟩ := List.mem_map.mp known
      obtain ⟨among, ⟨restricts, here⟩, -⟩ := (passed name value).mp present
      exact apart among restricts here
    refine Fields.mem_of_get? ?_
    rw [get?_written single once, noLimit, noText, Fields.get?_of_mem distinct member]
    rfl
  · obtain ⟨name, sent⟩ := entry
    rcases mem_written member with here | ⟨value, present, rfl⟩ | ⟨n, present, rfl⟩
    · exact .inl here
    · obtain ⟨among, ⟨restricts, here⟩, other⟩ := (passed name value).mp present
      exact .inr ⟨value, among, restricts, here, .text other⟩
    · obtain ⟨value, among, ⟨restricts, here⟩, limit, writes⟩ := (limited name n).mp present
      exact .inr ⟨value, among, restricts, here, .limit limit writes⟩

end Writing

/-! ## Scalars and arrays of scalars -/

/-- Choosing entries leaves their names distinct. -/
theorem names_filter_nodup {entries : Fields String} (distinct : entries.names.Nodup) (keeps : String × String → Bool) :
    (Fields.names (entries.filter keeps)).Nodup :=
  distinct.sublist (List.filter_sublist.map _)

theorem names_ownEntries (kind : String) (description : Option String) (values : List String) :
    (ownEntries kind description values).names.Nodup := by
  unfold ownEntries
  cases description <;> by_cases none : values.isEmpty = true <;> simp [none, member, Fields.names]

theorem leaf_toWire (kind : String) (description : Option String) (options : Option (List String))
    (limits : Fields Int) (extra : Fields String) :
    ({ ofKind kind with description, options, limits, extra } : Schema).toWire = .object (written
      (("type", .text kind) :: member "description" description .text ++ member "enum" options textList) extra limits) := by
  rw [toWire.eq_def]
  cases description <;> rfl

theorem array_toWire (description : Option String) (items : Schema) (limits : Fields Int) :
    ({ ofKind "array" with description, items := some items, limits } : Schema).toWire = .object (written
      (ownEntries "array" description [] ++ [("items", items.toWire)]) [] limits) := by
  rw [toWire.eq_def]
  cases description <;> rfl

/-- A leaf carries the attributes that are not skipped. -/
theorem leaf_carries {e : Element} {kind : String} {description : Option String} {skipped : List String}
    {schema : Schema} (distinct : (Fields.names e.attributes).Nodup)
    (found : leaf e.tag e.attributes e.children kind description skipped = .ok schema) :
    ∃ fields, schema.toWire = .object fields ∧
      Carries e (· ∉ skipped) (ownEntries kind description (valuesOf e)) fields := by
  obtain ⟨limits, read, made⟩ := eq_ok_of_bind found
  cases made
  rw [optionsIn_eq]
  refine ⟨_, leaf_toWire .., ?_⟩
  have own := names_filter_nodup distinct fun entry => describesLeaf skipped entry.1
  refine carries_written (names_ownEntries kind description (valuesOf e)) (names_filter_nodup own _) ?_ ?_ ?_ ?_
  · rw [limitsOf_names read]
    exact names_filter_nodup own _
  · intro name n
    rw [mem_limitsOf read]
    simp only [List.mem_filter, List.contains_iff_mem, restricts_iff, and_assoc]
  · intro name value member restricts kept limit
    refine Text.isInteger_iff.mp (limitsOf_isOk.mp (isOk_iff.mpr ⟨limits, read⟩) name value ?_).1
    simpa [restricts_iff, limit] using ⟨member, restricts, kept⟩
  · intro name value
    simp only [List.mem_filter, restricts_iff, and_assoc, Bool.not_eq_true', List.contains_eq_mem,
      decide_eq_false_iff_not]

/-- The limits of an array that an element has as attributes. -/
theorem mem_arrayLimits {e : Element} (distinct : (Fields.names e.attributes).Nodup) {name value : String} :
    (name, value) ∈ (arrayLimitNames.filterMap fun name => (e.get? name).map fun value => (name, value)) ↔
      name ∈ arrayLimitNames ∧ (name, value) ∈ e.attributes := by
  have found : e.get? name = some value ↔ (name, value) ∈ e.attributes :=
    ⟨Fields.mem_of_get?, Fields.get?_of_mem distinct⟩
  simp only [List.mem_filterMap, Option.map_eq_some_iff, Prod.mk.injEq, ← found]
  constructor
  · rintro ⟨name, limit, value, here, rfl, rfl⟩
    exact ⟨limit, here⟩
  · rintro ⟨limit, here⟩
    exact ⟨name, limit, value, here, rfl, rfl⟩

/-- An array carries the limits on its length. -/
theorem array_carries {e : Element} {items : Schema} {limits : Fields Int}
    (distinct : (Fields.names e.attributes).Nodup)
    (read : limitsOf e.tag (arrayLimitNames.filterMap fun name => (e.get? name).map fun value => (name, value)) =
      .ok limits) :
    Carries e (· ∈ arrayLimitNames)
      (ownEntries "array" (descriptionOf e.attributes) [] ++ [("items", items.toWire)])
      (written (ownEntries "array" (descriptionOf e.attributes) [] ++ [("items", items.toWire)]) [] limits) := by
  have restricts : ∀ name ∈ arrayLimitNames, Restricts name ∧ name ∈ limitNames := by
    unfold Restricts
    decide
  refine carries_written ?_ List.nodup_nil ?_ ?_ ?_ ?_
  · cases descriptionOf e.attributes <;> simp [ownEntries, member, Fields.names]
  · rw [limitsOf_names read]
    cases shortest : e.get? "minItems" <;> cases longest : e.get? "maxItems" <;>
      simp [arrayLimitNames, Fields.names, shortest, longest]
  · intro name n
    simp only [mem_limitsOf read, mem_arrayLimits distinct]
    constructor
    · rintro ⟨value, ⟨limit, member⟩, writes⟩
      exact ⟨value, member, ⟨(restricts name limit).1, limit⟩, (restricts name limit).2, writes⟩
    · rintro ⟨value, member, ⟨-, limit⟩, -, writes⟩
      exact ⟨value, ⟨limit, member⟩, writes⟩
  · intro name value member _ limit _
    exact Text.isInteger_iff.mp (limitsOf_isOk.mp (isOk_iff.mpr ⟨limits, read⟩) name value
      ((mem_arrayLimits distinct).mpr ⟨limit, member⟩)).1
  · intro name value
    simp only [List.not_mem_nil, false_iff]
    rintro ⟨-, ⟨-, limit⟩, other⟩
    exact other (restricts name limit).2

theorem nonEmpty_idem (kind : Option String) : ((kind.bind nonEmpty).bind nonEmpty) = kind.bind nonEmpty := by
  cases kind with
  | none => rfl
  | some kind => by_cases empty : kind = "" <;> simp [nonEmpty, empty]

/-- Every restricting attribute of a scalar, or of an array of scalars, is sent exactly once, as what it writes: of a
scalar beside its type, of an array at the array if it limits its length and at the items otherwise. A description is
sent at the outer level only. -/
theorem ofElement_sends (e : Element) (schema : Schema) (distinct : (Fields.names e.attributes).Nodup)
    (scalar : ¬ StandsForObject e) (accepted : ofElement e = .ok schema) :
    ∃ fields : Fields Json, schema.toWire = .object fields ∧
      (e.has "array" = false →
        Carries e (fun _ => True) (ownEntries (scalarKind e) (descriptionOf e.attributes) (valuesOf e)) fields) ∧
      (e.has "array" = true → ∃ items : Fields Json,
        Carries e (· ∈ arrayLimitNames)
          (ownEntries "array" (descriptionOf e.attributes) [] ++ [("items", .object items)]) fields ∧
        Carries e (· ∉ arrayLimitNames) (ownEntries (scalarKind e) none (valuesOf e)) items) := by
  have plain := mt (standsForObject_iff e).mp scalar
  cases array : e.get? "array" with
  | none =>
    rw [ofElement_plain array, if_neg plain] at accepted
    obtain ⟨fields, sent, carries⟩ := leaf_carries distinct accepted
    simp only [has_eq, array]
    refine ⟨fields, sent, fun _ => ?_, nofun⟩
    simpa [scalarKind] using carries
  | some value =>
    rw [ofElement_array array, if_neg plain] at accepted
    obtain ⟨items, found, rest⟩ := eq_ok_of_bind accepted
    obtain ⟨limits, read, made⟩ := eq_ok_of_bind rest
    cases made
    obtain ⟨inner, sent, carries⟩ := leaf_carries distinct found
    have kind : scalarKind e = (kindOf e).getD "string" := by
      have named : kindOf e = (some value).bind nonEmpty := by simp only [kindOf, array, Option.bind_some]
      rw [scalarKind, named, nonEmpty_idem]
    have outer := @array_carries e items limits distinct read
    rw [sent] at outer
    rw [kind, array_toWire, sent]
    exact ⟨_, rfl, by simp [has_eq, array], fun _ => ⟨inner, outer, carries⟩⟩

/-- Steps: their number is limited at the array, each of them at the items. -/
theorem ofElement_sends_steps :
    let steps : Element := ⟨"p", [("name", "steps"), ("array", "string"), ("minItems", "1"), ("maxLength", " 8_0 "),
      ("pattern", "[a-z]+"), ("d", "Steps")], []⟩
    let schema : Schema := { ofKind "array" with
      description := some "Steps"
      limits := [("minItems", 1)]
      items := some { ofKind "string" with limits := [("maxLength", 80)], extra := [("pattern", "[a-z]+")] } }
    ((Fields.names steps.attributes).Nodup ∧ ¬ StandsForObject steps ∧ ofElement steps = .ok schema) ∧
      ∃ fields items : Fields Json, schema.toWire = .object fields ∧
        Carries steps (· ∈ arrayLimitNames)
          (ownEntries "array" (some "Steps") [] ++ [("items", .object items)]) fields ∧
        Carries steps (· ∉ arrayLimitNames) (ownEntries "string" none []) items := by
  intro steps schema
  have distinct : (Fields.names steps.attributes).Nodup := by decide
  have scalar : ¬ StandsForObject steps := by
    rw [← standsForObject_iff]
    decide
  have accepted : ofElement steps = .ok schema := by rfl
  obtain ⟨fields, sent, -, array⟩ := ofElement_sends steps schema distinct scalar accepted
  obtain ⟨items, outer, inner⟩ := array rfl
  exact ⟨⟨distinct, scalar, accepted⟩, fields, items, sent, outer, inner⟩

end Colloquy.Schema
