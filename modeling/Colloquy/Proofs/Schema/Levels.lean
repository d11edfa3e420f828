import Colloquy.Proofs.Schema.Declared

/-! What a declared schema says at every level: of an array, of its items, and of every property of an object. Which of
these an element declares is said of its attributes and children alone. Reading fails just if some limit that is looked
at writes no integer, also that of a property which a later one of the same name replaces. -/
namespace Colloquy.Schema
open Colloquy.Markup

/-! ## Declarations -/

/-- The children that declare the properties of an element, in order. -/
def propertiesOf (e : Element) : List Element := e.elements.filter isProperty

/-- The name of the property that an element declares. -/
def nameOf (e : Element) : String := (e.get? "name").getD ""

/-- Of the children that declare a property of one name, the last. -/
def lastProperty? (e : Element) (name : String) : Option Element :=
  ((propertiesOf e).filter fun child => nameOf child == name).getLast?

/-- The allowed values that the children of an element list, in order. -/
def valuesOf (e : Element) : List String := (e.elements.filter isOption).map fun child => (child.get? "value").getD ""

/-- What a schema is in the declaration of an element: all that the element declares, or the items of an array. -/
inductive Place where
  | whole
  | items

/-- The schemas in one that an element declares, each with the element that declares it and its place there. The items
of an array belong to the element of the array, a property to the last child of its name. -/
inductive Level (root : Element) (schema : Schema) : Element → Place → Schema → Prop where
  | root : Level root schema root .whole schema
  | items {e : Element} {array inner : Schema} (outer : Level root schema e .whole array)
      (found : array.items = some inner) : Level root schema e .items inner
  | property {e child : Element} {place : Place} {object inner : Schema} {properties : List (String × Schema)}
      {name : String} (outer : Level root schema e place object) (declared : object.properties = some properties)
      (found : (name, inner) ∈ properties) (last : lastProperty? e name = some child) :
      Level root schema child .whole inner

/-- What holds of a schema at one level. It has properties just if it is an object's, items just if it is an array's.
Properties are those of the children, by first appearance, each as its last declaration says; the required ones are those
that some child requires. Only a leaf has allowed values, all that are listed. Numeric limits and what is passed through
are kept apart, and what describes the declaration itself is not among them. -/
structure Conforms (e : Element) (place : Place) (schema : Schema) : Prop where
  object : schema.properties.isSome = true ↔ schema.kind = "object"
  array : schema.items.isSome = true ↔ place = .whole ∧ e.has "array" = true
  names : ∀ properties, schema.properties = some properties →
    Fields.names properties = ((propertiesOf e).map nameOf).eraseDups
  each : ∀ properties name inner, schema.properties = some properties → (name, inner) ∈ properties →
    ∃ child, lastProperty? e name = some child ∧ ofElement child = .ok inner
  required : schema.required = if schema.properties.isSome then
    some (((propertiesOf e).filter fun child => child.tag == "p").map nameOf).eraseDups else none
  distinct : (schema.required.getD []).Nodup
  closed : ∀ name ∈ schema.required.getD [], name ∈ Fields.names (schema.properties.getD [])
  options : ∀ values, schema.options = some values ↔
    schema.properties = none ∧ schema.items = none ∧ valuesOf e ≠ [] ∧ values = valuesOf e
  limits : ∀ name ∈ Fields.names schema.limits, name ∈ limitNames
  extra : ∀ name ∈ Fields.names schema.extra,
    name ∉ limitNames ∧ name ∉ structuralNames ∧ name ∉ descriptionNames ∧ name ≠ "type"

/-- The declarations that are read for one: itself, and those of the properties of an object. -/
inductive Within : Element → Element → Prop where
  | self (e : Element) : Within e e
  | property {e child inner : Element} (object : StandsForObject e) (member : child ∈ e.elements)
      (property : isProperty child = true) (deeper : Within child inner) : Within e inner

/-! ## One level at a time -/

/-- How the schema at one level was read. -/
inductive Read (e : Element) : Place → Schema → Prop where
  | array {items : Schema} {limits : Fields Int} (array : e.has "array" = true) (inner : Read e .items items)
      (own : limitsOf e.tag (arrayLimitNames.filterMap fun name => (e.get? name).map fun value => (name, value)) =
        .ok limits) :
      Read e .whole { ofKind "array" with description := descriptionOf e.attributes, items := some items, limits }
  | object {place : Place} {description : Option String} {declared : List Declared}
      (plain : place = .whole → e.has "array" = false) (object : StandsForObject e)
      (found : declaredIn e.children = .ok declared) : Read e place (ofDeclared description declared)
  | leaf {place : Place} {kind : String} {description : Option String} {skipped : List String} {schema : Schema}
      (plain : place = .whole → e.has "array" = false) (leaf : ¬ StandsForObject e) (other : kind ≠ "object")
      (skips : ∀ name ∈ skipped, name ∈ limitNames)
      (found : Schema.leaf e.tag e.attributes e.children kind description skipped = .ok schema) : Read e place schema

section Kinds
variable {e : Element} (leaf : ¬ StandsForObject e)
include leaf

theorem kindOf_ne (kind : String) (named : kindOf e = some kind) : kind ≠ "object" := by
  rintro rfl
  exact leaf (.inl named)

theorem leafKind_ne : (kindOf e).getD "string" ≠ "object" := by
  cases named : kindOf e with
  | none => decide
  | some kind => exact kindOf_ne leaf kind named

theorem ownKind_ne : ((kindOf e).bind nonEmpty).getD "string" ≠ "object" := by
  cases named : kindOf e with
  | none => decide
  | some kind =>
    rw [Option.bind_some, nonEmpty]
    split
    · decide
    · exact kindOf_ne leaf kind named

end Kinds

/-- What an element declares was read as an array, as an object or as a leaf. -/
theorem ofElement_read {e : Element} {schema : Schema} (read : ofElement e = .ok schema) : Read e .whole schema := by
  cases array : e.get? "array" with
  | none =>
    have plain : e.has "array" = false := by simp [has_eq, array]
    rw [ofElement_plain array] at read
    split at read
    · rename_i object
      obtain ⟨declared, found, rfl⟩ := eq_ok_of_map read
      exact .object (fun _ => plain) ((standsForObject_iff e).mp object) found
    · rename_i other
      have leaf := mt (standsForObject_iff e).mpr other
      exact .leaf (fun _ => plain) leaf (ownKind_ne leaf) (by simp) read
  | some value =>
    have present : e.has "array" = true := by simp [has_eq, array]
    rw [ofElement_array array] at read
    obtain ⟨items, found, rest⟩ := eq_ok_of_bind read
    obtain ⟨limits, own, made⟩ := eq_ok_of_bind rest
    cases made
    refine .array present ?_ own
    split at found
    · rename_i object
      obtain ⟨declared, properties, rfl⟩ := eq_ok_of_map found
      exact .object nofun ((standsForObject_iff e).mp object) properties
    · rename_i other
      have leaf := mt (standsForObject_iff e).mpr other
      exact .leaf nofun leaf (leafKind_ne leaf) (by decide) found

/-! ### Properties -/

/-- The properties that were read are those of the children, in order, each as its child declares it. -/
theorem declaredIn_eq {e : Element} {declared : List Declared} (found : declaredIn e.children = .ok declared) :
    declared.map (fun d => (d.name, d.isRequired, (.ok d.schema : Except BadLimit Schema))) =
      (propertiesOf e).map fun child => (nameOf child, child.tag == "p", ofElement child) := by
  obtain ⟨tag, attributes, children⟩ := e
  simp only [propertiesOf, Element.elements] at found ⊢
  induction children generalizing declared with
  | nil =>
    cases found
    rfl
  | cons node rest ih =>
    cases node with
    | text value => exact ih found
    | comment value => exact ih found
    | element child =>
      by_cases property : isProperty child = true
      · cases here : ofElement child with
        | error bad => simp [declaredIn, property, here] at found
        | ok schema =>
          simp only [declaredIn, property, here, if_true] at found
          obtain ⟨more, later, rfl⟩ := eq_ok_of_map found
          simp only [List.filterMap_cons, List.filter_cons, property, if_true, List.map_cons, ih later, here]
          rfl
      · simp only [declaredIn, property] at found
        simp only [List.filterMap_cons, List.filter_cons, property]
        exact ih found

section Objects
variable {e : Element} {declared : List Declared} (found : declaredIn e.children = .ok declared)
include found

theorem declared_names : declared.map Declared.name = (propertiesOf e).map nameOf := by
  have same := congrArg (List.map Prod.fst) (declaredIn_eq found)
  simpa [List.map_map, Function.comp_def] using same

theorem declared_required : declared.filterMap (fun d => if d.isRequired then some d.name else none) =
    ((propertiesOf e).filter fun child => child.tag == "p").map nameOf := by
  have same := congrArg (List.filterMap fun entry => if entry.2.1 then some entry.1 else none) (declaredIn_eq found)
  simp only [List.filterMap_map, Function.comp_def] at same
  rw [same, ← List.filterMap_eq_filter, List.map_filterMap]
  refine List.filterMap_congr fun child _ => ?_
  by_cases required : child.tag == "p" <;> simp [required, Option.guard]

/-- The last declaration of a name is the one that counts. -/
theorem declared_last (name : String) :
    (Fields.last? (declared.map fun d => (d.name, d.schema)) name).map (.ok : Schema → Except BadLimit Schema) =
      (lastProperty? e name).map ofElement := by
  have same := congrArg (fun entries => ((entries.filter fun entry : String × Bool × Except BadLimit Schema =>
    entry.1 == name).getLast?).map fun entry => entry.2.2) (declaredIn_eq found)
  simpa [Fields.last?, lastProperty?, List.filter_map, Function.comp_def, List.getLast?_map, Option.map_map] using same

end Objects

theorem object_conforms {e : Element} {place : Place} {description : Option String} {declared : List Declared}
    (plain : place = .whole → e.has "array" = false) (found : declaredIn e.children = .ok declared) :
    Conforms e place (ofDeclared description declared) := by
  have names : (Fields.ofPairs (declared.map fun d => (d.name, d.schema))).names =
      ((propertiesOf e).map nameOf).eraseDups := by
    rw [← declared_names found, Fields.names_ofPairs, List.map_map]
    rfl
  have required : (ofDeclared description declared).required =
      some (((propertiesOf e).filter fun child => child.tag == "p").map nameOf).eraseDups := by
    rw [← declared_required found]
    rfl
  refine ⟨by simp [ofDeclared, ofKind], ?_, ?_, ?_, by rw [required]; rfl, ?_, ?_, by simp [ofDeclared, ofKind], nofun,
    nofun⟩
  · constructor
    · simp [ofDeclared, ofKind]
    · rintro ⟨whole, present⟩
      rw [plain whole] at present
      cases present
  · rintro properties ⟨⟩
    exact names
  · rintro properties name inner ⟨⟩ member
    -- No name stands twice, so the property found under a name is the one that a look-up gives: the last declared.
    have distinct : (Fields.ofPairs (declared.map fun d => (d.name, d.schema))).names.Nodup := by
      rw [names]
      exact Fields.eraseDups_nodup _
    have last := Fields.get?_of_mem distinct member
    rw [Fields.get?_ofPairs] at last
    have counts := declared_last found name
    rw [last] at counts
    obtain ⟨child, isLast, declares⟩ := Option.map_eq_some_iff.mp counts.symm
    exact ⟨child, isLast, declares⟩
  · rw [required]
    exact Fields.eraseDups_nodup _
  · intro name member
    rw [required, Option.getD_some, List.mem_eraseDups] at member
    obtain ⟨child, kept, rfl⟩ := List.mem_map.mp member
    change nameOf child ∈ (Fields.ofPairs (declared.map fun d => (d.name, d.schema))).names
    rw [names, List.mem_eraseDups]
    exact List.mem_map_of_mem (List.mem_of_mem_filter kept)

/-! ### Leaves -/

theorem optionsIn_eq (e : Element) : optionsIn e.children = valuesOf e := by
  obtain ⟨tag, attributes, children⟩ := e
  simp only [valuesOf, Element.elements, optionsIn]
  induction children with
  | nil => rfl
  | cons node rest ih =>
    cases node with
    | text value => simpa using ih
    | comment value => simpa using ih
    | element child =>
      by_cases option : isOption child = true
      · have value : (child.get? "value").isSome = true := by
          simp only [isOption, Bool.and_eq_true] at option
          exact option.1.2
        obtain ⟨text, written⟩ := Option.isSome_iff_exists.mp value
        simp [option, written, ih]
      · simp [option, ih]

/-- Reading limits keeps their names. -/
theorem limitsOf_names {tag : String} {attributes : Fields String} {limits : Fields Int}
    (read : limitsOf tag attributes = .ok limits) : limits.names = attributes.names := by
  induction attributes generalizing limits with
  | nil =>
    cases read
    rfl
  | cons entry rest ih =>
    simp only [limitsOf, List.mapM_cons] at read
    obtain ⟨first, here, others⟩ := eq_ok_of_bind read
    obtain ⟨n, -, rfl⟩ := eq_ok_of_map here
    obtain ⟨more, later, made⟩ := eq_ok_of_bind others
    cases made
    rw [Fields.names_cons, Fields.names_cons, ih later]

theorem leaf_conforms {e : Element} {place : Place} {kind : String} {description : Option String} {skipped : List String}
    {schema : Schema} (plain : place = .whole → e.has "array" = false) (other : kind ≠ "object")
    (found : leaf e.tag e.attributes e.children kind description skipped = .ok schema) : Conforms e place schema := by
  obtain ⟨limits, read, made⟩ := eq_ok_of_bind found
  cases made
  refine ⟨by simpa [ofKind] using other, ?_, ?_, ?_, rfl, List.nodup_nil, ?_, ?_, ?_, ?_⟩
  · constructor
    · intro present
      cases present
    · rintro ⟨whole, present⟩
      rw [plain whole] at present
      cases present
  · intro properties declared
    cases declared
  · intro properties name inner declared
    cases declared
  · intro name member
    cases member
  · intro values
    simp only [optionsIn_eq, ofKind, true_and, List.isEmpty_iff]
    by_cases none : valuesOf e = []
    · simp [none]
    · simp only [none, if_false, Option.some.injEq, ne_eq, not_false_eq_true, true_and]
      exact eq_comm
  · intro name member
    change name ∈ limits.names at member
    rw [limitsOf_names read] at member
    obtain ⟨entry, kept, rfl⟩ := List.mem_map.mp member
    simpa using (List.mem_filter.mp kept).2
  · intro name member
    obtain ⟨entry, kept, rfl⟩ := List.mem_map.mp member
    obtain ⟨own, free⟩ := List.mem_filter.mp kept
    have described := (List.mem_filter.mp own).2
    simp only [describesLeaf, Bool.not_eq_true', Bool.or_eq_false_iff, List.contains_eq_mem, decide_eq_false_iff_not,
      beq_eq_false_iff_ne] at described free
    exact ⟨free, described.1.1.1, described.1.1.2, described.1.2⟩

/-! ### Every level -/

theorem Read.conforms {e : Element} {place : Place} {schema : Schema} (read : Read e place schema) :
    Conforms e place schema := by
  cases read with
  | array array inner own =>
    refine ⟨by simp [ofKind], by simp [array], nofun, nofun, rfl, List.nodup_nil, nofun, by simp [ofKind], ?_,
      nofun⟩
    intro name member
    rw [limitsOf_names own] at member
    obtain ⟨entry, kept, rfl⟩ := List.mem_map.mp member
    obtain ⟨name, limit, written⟩ := List.mem_filterMap.mp kept
    obtain ⟨value, -, rfl⟩ := Option.map_eq_some_iff.mp written
    exact (by decide : ∀ name ∈ arrayLimitNames, name ∈ limitNames) name limit
  | object plain object found => exact object_conforms plain found
  | leaf plain leaf other skips found => exact leaf_conforms plain other found

/-- Every level of what an element declares was read from the element that declares it there. -/
theorem Level.read {root e : Element} {schema inner : Schema} {place : Place} (level : Level root schema e place inner)
    (declared : ofElement root = .ok schema) : Read e place inner := by
  induction level with
  | root => exact ofElement_read declared
  | items outer found ih =>
    cases ih with
    | array array inner own =>
      cases found
      exact inner
    | object plain object declares => cases found
    | leaf plain leaf other skips read =>
      obtain ⟨limits, -, made⟩ := eq_ok_of_bind read
      cases made
      cases found
  | property outer declares found last ih =>
    obtain ⟨child, isLast, read⟩ := ih.conforms.each _ _ _ declares found
    rw [last] at isLast
    cases isLast
    exact ofElement_read read

/-! ## Failures -/

section Failures
variable {tag : String} {attributes : Fields String} {children : List Node} {bad : BadLimit}

theorem limitsOf_error (failed : limitsOf tag attributes = .error bad) :
    bad.tag = tag ∧ (bad.name, bad.value) ∈ attributes ∧ ¬ Text.IsReadable bad.value := by
  induction attributes with
  | nil => cases failed
  | cons entry rest ih =>
    obtain ⟨name, value⟩ := entry
    simp only [limitsOf, List.mapM_cons] at failed
    rcases eq_error_of_bind failed with here | ⟨first, -, others⟩
    · have refused := eq_error_of_map here
      have integer : (limit tag name value).isOk = true ↔ Text.IsReadable value := limit_isOk name value
      rw [refused] at integer
      have same : bad = ⟨tag, name, value⟩ := by
        unfold limit at refused
        split at refused
        · cases refused
        · cases refused
          rfl
      subst same
      refine ⟨rfl, List.mem_cons_self, fun written => ?_⟩
      cases integer.mpr written
    · rcases eq_error_of_bind others with later | ⟨more, -, made⟩
      · obtain ⟨own, member, wrong⟩ := ih later
        exact ⟨own, List.mem_cons_of_mem _ member, wrong⟩
      · cases made

theorem leaf_error {kind : String} {description : Option String} {skipped : List String}
    (failed : leaf tag attributes children kind description skipped = .error bad) :
    bad.tag = tag ∧ (bad.name, bad.value) ∈ attributes ∧ bad.name ∈ limitNames ∧ bad.name ∉ skipped ∧
      ¬ Text.IsReadable bad.value := by
  rcases eq_error_of_bind failed with read | ⟨limits, -, made⟩
  · obtain ⟨own, member, wrong⟩ := limitsOf_error read
    obtain ⟨member, limit⟩ := List.mem_filter.mp member
    obtain ⟨member, described⟩ := List.mem_filter.mp member
    simp only [describesLeaf, Bool.not_eq_true', Bool.or_eq_false_iff, List.contains_eq_mem,
      decide_eq_false_iff_not] at described
    exact ⟨own, member, by simpa using limit, described.2, wrong⟩
  · cases made

theorem declaredIn_error (failed : declaredIn children = .error bad) :
    ∃ child, .element child ∈ children ∧ isProperty child = true ∧ ofElement child = .error bad := by
  induction children with
  | nil => cases failed
  | cons node rest ih =>
    have later (failed : declaredIn rest = .error bad) :
        ∃ child, .element child ∈ node :: rest ∧ isProperty child = true ∧ ofElement child = .error bad := by
      obtain ⟨child, member, property, refused⟩ := ih failed
      exact ⟨child, List.mem_cons_of_mem _ member, property, refused⟩
    cases node with
    | text value => exact later failed
    | comment value => exact later failed
    | element child =>
      unfold declaredIn at failed
      split at failed
      · rename_i property
        split at failed
        · rename_i refused
          cases failed
          exact ⟨child, List.mem_cons_self, property, refused⟩
        · exact later (eq_error_of_map failed)
      · exact later failed

end Failures

/-- An error names an attribute that is looked at where the element, or a declaration in it, is read. -/
theorem ofElement_error {e : Element} {bad : BadLimit} (failed : ofElement e = .error bad) :
    ∃ inner, Within e inner ∧ bad.tag = inner.tag ∧ Consults inner bad.name bad.value ∧
      ¬ Text.IsReadable bad.value := by
  induction e using Element.tree_induction with
  | step e ih =>
    have deeper {description : Option String} (object : declaresObject (kindOf e) e.children = true)
        (failed : (declaredIn e.children).map (ofDeclared description) = .error bad) :
        ∃ inner, Within e inner ∧ bad.tag = inner.tag ∧ Consults inner bad.name bad.value ∧
          ¬ Text.IsReadable bad.value := by
      obtain ⟨child, member, property, refused⟩ := declaredIn_error (eq_error_of_map failed)
      have member := Element.mem_elements.mpr member
      obtain ⟨inner, within, found⟩ := ih child member refused
      exact ⟨inner, .property ((standsForObject_iff e).mp object) member property within, found⟩
    cases array : e.get? "array" with
    | none =>
      rw [ofElement_plain array] at failed
      split at failed
      · exact deeper ‹_› failed
      · rename_i other
        obtain ⟨own, member, limit, -, wrong⟩ := leaf_error failed
        refine ⟨e, .self e, own, .leaf (mt (standsForObject_iff e).mpr other) limit (fun present => ?_) member, wrong⟩
        rw [has_eq, array] at present
        cases present
    | some value =>
      rw [ofElement_array array] at failed
      rcases eq_error_of_bind failed with inner | ⟨items, -, rest⟩
      · split at inner
        · exact deeper ‹_› inner
        · rename_i other
          obtain ⟨own, member, limit, kept, wrong⟩ := leaf_error inner
          exact ⟨e, .self e, own, .leaf (mt (standsForObject_iff e).mpr other) limit (fun _ => kept) member, wrong⟩
      · rcases eq_error_of_bind rest with own | ⟨limits, -, made⟩
        · obtain ⟨named, member, wrong⟩ := limitsOf_error own
          obtain ⟨name, limit, written⟩ := List.mem_filterMap.mp member
          obtain ⟨found, here, same⟩ := Option.map_eq_some_iff.mp written
          cases same
          exact ⟨e, .self e, named, .array (by rw [has_eq, array]; rfl) limit here, wrong⟩
        · cases made

/-- A valid declaration is valid wherever it is read. -/
theorem Valid.within {e inner : Element} (valid : Valid e) (within : Within e inner) : Valid inner := by
  induction within with
  | self e => exact valid
  | property object member property deeper ih =>
    cases valid with
    | intro limits properties => exact ih (properties object _ member property)

/-- What an element declares says the same as its declarations at every level. It cannot be read just if a limit that is
looked at, there or in a property that is declared, writes no integer or has too many digits; the error then names such a
one. -/
theorem ofElement_conforms (e : Element) :
    (∀ schema, ofElement e = .ok schema → ∀ inner place found, Level e schema inner place found →
      Conforms inner place found) ∧
    ((∃ bad, ofElement e = .error bad) ↔
      ∃ inner name value, Within e inner ∧ Consults inner name value ∧ ¬ Text.IsReadable value) ∧
    ∀ bad, ofElement e = .error bad → ∃ inner, Within e inner ∧ bad.tag = inner.tag ∧
      Consults inner bad.name bad.value ∧ ¬ Text.IsReadable bad.value := by
  refine ⟨fun schema read inner place found level => (level.read read).conforms, ?_,
    fun bad failed => ofElement_error failed⟩
  constructor
  · rintro ⟨bad, failed⟩
    obtain ⟨inner, within, -, consults, wrong⟩ := ofElement_error failed
    exact ⟨inner, bad.name, bad.value, within, consults, wrong⟩
  · rintro ⟨inner, name, value, within, consults, wrong⟩
    cases read : ofElement e with
    | error bad => exact ⟨bad, rfl⟩
    | ok schema =>
      have valid := (ofElement_isOk_iff e).mp (by rw [read]; rfl)
      cases valid.within within with
      | intro limits properties => exact absurd (limits name value consults) wrong

/-- A declaration with a limit of too many zeros. -/
def longLimit : Element := ⟨"p", [("name", "x"), ("minimum", String.ofList Text.manyZeros)], []⟩

/-- It cannot be read, although every limit that is looked at writes an integer. -/
theorem ofElement_refuses_integers : (∃ bad, ofElement longLimit = .error bad) ∧
    ∀ inner name value, Within longLimit inner → Consults inner name value → Text.IsInteger value := by
  have scalar : ¬ StandsForObject longLimit := by
    rintro (⟨⟨⟩⟩ | ⟨-, child, ⟨⟩, -⟩)
  have consults : Consults longLimit "minimum" (String.ofList Text.manyZeros) :=
    .leaf scalar (by decide) nofun (by simp [longLimit])
  constructor
  · cases read : ofElement longLimit with
    | error bad => exact ⟨bad, rfl⟩
    | ok schema =>
      have valid := (ofElement_isOk_iff longLimit).mp (by rw [read]; rfl)
      cases valid with
      | intro limits properties => exact absurd (limits _ _ consults) Text.not_isReadable_manyZeros
  · intro inner name value within looked
    cases within with
    | property object => exact absurd object scalar
    | self =>
      cases looked with
      | array array => cases array
      | leaf leaf limit kept member =>
        have options : (name, value) = ("name", "x") ∨ (name, value) = ("minimum", String.ofList Text.manyZeros) := by
          simpa [longLimit] using member
        rcases options with same | same
        · cases same
          exact absurd limit (by decide)
        · cases same
          exact Text.isInteger_manyZeros

end Colloquy.Schema
