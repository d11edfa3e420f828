import Colloquy.Proofs.Schema.Levels
import Colloquy.Proofs.Script.WellFormed

/-! Schemas as they are sent. What is sent for a declaration is a schema at every level just if no leaf passes through an
attribute that has the name of a structural member: such an attribute replaces the member, and its text is no schema, no
list of names and no list of values. The kind of a level is never replaced, and the parameters of a tool are always sent
as an object. -/
namespace Colloquy.Schema
open Colloquy.Markup

/-- The members that give a schema its structure, besides its kind. -/
def wireNames : List String := ["properties", "required", "items", "enum"]

/-- A JSON value that is a schema of the subset that tools are declared with, at every level. -/
inductive IsSchema : Json → Prop where
  | intro {fields : Fields Json} (kind : ∃ kind, fields.get? "type" = some (.text kind))
      (properties : ∀ value, fields.get? "properties" = some value → ∃ inner, value = .object inner)
      (each : ∀ inner, fields.get? "properties" = some (.object inner) → ∀ entry ∈ inner, IsSchema entry.2)
      (required : ∀ value, fields.get? "required" = some value → ∃ names, value = textList names ∧ names.Nodup ∧
        ∀ name ∈ names, ∃ inner, fields.get? "properties" = some (.object inner) ∧ name ∈ Fields.names inner)
      (items : ∀ value, fields.get? "items" = some value → IsSchema value)
      (options : ∀ value, fields.get? "enum" = some value → ∃ values, value = textList values) :
      IsSchema (.object fields)

/-- A level that passes through an attribute with the name of a structural member. -/
structure Intrudes (e : Element) (place : Place) (name : String) : Prop where
  leaf : ¬ StandsForObject e
  own : place = .whole → e.has "array" = false
  named : name ∈ wireNames
  present : e.has name = true

/-! ## Members -/

/-- What a schema says of its structure, as it is sent. -/
def ownMember (schema : Schema) : String → Option Json
  | "type" => some (.text schema.kind)
  | "properties" => schema.properties.map fun properties => .object (wireOfFields properties)
  | "required" => schema.properties.map fun _ => textList (schema.required.getD [])
  | "items" => schema.items.map toWire
  | "enum" => schema.options.map textList
  | _ => none

theorem wireOfFields_eq (properties : List (String × Schema)) :
    wireOfFields properties = properties.map fun entry => (entry.1, entry.2.toWire) := by
  induction properties with
  | nil => rfl
  | cons entry rest ih => simp [wireOfFields, ih]

/-- A structural member is what the schema says, unless an attribute that is passed through has its name. -/
theorem toWire_members (schema : Schema) (limited : ∀ name ∈ Fields.names schema.limits, name ∈ limitNames) :
    ∃ fields : Fields Json, schema.toWire = .object fields ∧ ∀ name ∈ "type" :: wireNames,
      fields.get? name = ((Fields.last? schema.extra name).map .text).or (schema.ownMember name) := by
  obtain ⟨kind, description, properties, required, items, options, limits, extra⟩ := schema
  have free : ∀ name ∈ "type" :: wireNames,
      name ∉ Fields.names (limits.map fun entry => (entry.1, Json.int entry.2)) := by
    intro name structural member
    obtain ⟨entry, present, rfl⟩ := List.mem_map.mp member
    obtain ⟨limit, given, rfl⟩ := List.mem_map.mp present
    have known := limited limit.1 (List.mem_map.mpr ⟨limit, given, rfl⟩)
    exact (by decide : ∀ name ∈ "type" :: wireNames, name ∉ limitNames) _ structural known
  rw [toWire.eq_def]
  refine ⟨_, rfl, fun name structural => ?_⟩
  rw [Fields.get?_merge]
  -- What is merged last are the limits, none of which has the name of a structural member.
  refine (congrArg (Option.or · _) (Fields.last?_eq_none (free name structural))).trans ?_
  rw [Option.none_or, Fields.get?_merge]
  refine (congrArg (Option.or · _) (Fields.last?_map _ extra name)).trans ?_
  congr 1
  simp only [wireNames, List.mem_cons, List.not_mem_nil, or_false] at structural
  rcases structural with rfl | rfl | rfl | rfl | rfl <;> cases description <;> cases properties <;> cases items <;>
    cases options <;> rfl

/-- Where nothing is passed through under such a name, each structural member is what the schema says. -/
theorem toWire_own {e : Element} {place : Place} {schema : Schema} (conforms : Conforms e place schema)
    (quiet : ∀ name ∈ wireNames, name ∉ Fields.names schema.extra) :
    ∃ fields : Fields Json, schema.toWire = .object fields ∧ ∀ name ∈ "type" :: wireNames,
      fields.get? name = schema.ownMember name := by
  obtain ⟨fields, sent, members⟩ := toWire_members schema conforms.limits
  refine ⟨fields, sent, fun name structural => ?_⟩
  have free : name ∉ Fields.names schema.extra := by
    rcases List.mem_cons.mp structural with rfl | structural
    · exact fun passed => (conforms.extra "type" passed).2.2.2 rfl
    · exact quiet name structural
  rw [members name structural, Fields.last?_eq_none free]
  rfl

/-- A text is neither a schema nor a list, so an attribute that is passed through under a structural name spoils it. -/
theorem IsSchema.quiet {schema : Schema} (valid : IsSchema schema.toWire)
    (limited : ∀ name ∈ Fields.names schema.limits, name ∈ limitNames) :
    ∀ name ∈ wireNames, name ∉ Fields.names schema.extra := by
  intro name structural passed
  obtain ⟨text, last⟩ := Fields.exists_last? passed
  obtain ⟨fields, sent, members⟩ := toWire_members schema limited
  have replaced : fields.get? name = some (.text text) := by
    rw [members name (List.mem_cons_of_mem _ structural), last]
    rfl
  rw [sent] at valid
  cases valid with
  | intro kind properties each required items options =>
    simp only [wireNames, List.mem_cons, List.not_mem_nil, or_false] at structural
    rcases structural with rfl | rfl | rfl | rfl
    · obtain ⟨inner, same⟩ := properties _ replaced
      cases same
    · obtain ⟨names, same, -⟩ := required _ replaced
      cases same
    · cases items _ replaced
    · obtain ⟨values, same⟩ := options _ replaced
      cases same

/-- What is sent for one level is a schema just if nothing is passed through under a structural name, and what is sent
for the levels in it are schemas. -/
theorem toWire_isSchema_iff {e : Element} {place : Place} {schema : Schema} (conforms : Conforms e place schema) :
    IsSchema schema.toWire ↔ (∀ name ∈ wireNames, name ∉ Fields.names schema.extra) ∧
      (∀ properties, schema.properties = some properties → ∀ entry ∈ properties, IsSchema entry.2.toWire) ∧
      ∀ items, schema.items = some items → IsSchema items.toWire := by
  constructor
  · intro valid
    have quiet := valid.quiet conforms.limits
    obtain ⟨fields, sent, members⟩ := toWire_own conforms quiet
    rw [sent] at valid
    cases valid with
    | intro kind properties each required items options =>
      refine ⟨quiet, fun declared same entry member => ?_, fun inner same => ?_⟩
      · have found : fields.get? "properties" = some (.object (wireOfFields declared)) := by
          rw [members "properties" (by decide), ownMember, same]
          rfl
        refine each _ found (entry.1, entry.2.toWire) ?_
        rw [wireOfFields_eq]
        exact List.mem_map.mpr ⟨entry, member, rfl⟩
      · refine items _ ?_
        rw [members "items" (by decide), ownMember, same]
        rfl
  · rintro ⟨quiet, properties, items⟩
    obtain ⟨fields, sent, members⟩ := toWire_own conforms quiet
    rw [sent]
    have declares : fields.get? "properties" =
        schema.properties.map fun properties => .object (wireOfFields properties) := members "properties" (by decide)
    refine .intro ⟨_, members "type" (by decide)⟩ ?_ ?_ ?_ ?_ ?_
    · intro value found
      rw [declares] at found
      obtain ⟨declared, -, rfl⟩ := Option.map_eq_some_iff.mp found
      exact ⟨_, rfl⟩
    · intro inner found entry member
      rw [declares] at found
      obtain ⟨declared, same, object⟩ := Option.map_eq_some_iff.mp found
      cases object
      rw [wireOfFields_eq] at member
      obtain ⟨property, present, rfl⟩ := List.mem_map.mp member
      exact properties declared same property present
    · intro value found
      have requires := members "required" (by decide)
      rw [found] at requires
      obtain ⟨declared, same, rfl⟩ := Option.map_eq_some_iff.mp requires.symm
      refine ⟨_, rfl, conforms.distinct, fun name member => ⟨wireOfFields declared, by rw [declares, same]; rfl, ?_⟩⟩
      have known := conforms.closed name member
      rw [same, Option.getD_some] at known
      rw [wireOfFields_eq, Fields.names, List.map_map]
      exact known
    · intro value found
      have wraps := members "items" (by decide)
      rw [found] at wraps
      obtain ⟨inner, same, rfl⟩ := Option.map_eq_some_iff.mp wraps.symm
      exact items inner same
    · intro value found
      have lists := members "enum" (by decide)
      rw [found] at lists
      obtain ⟨values, -, rfl⟩ := Option.map_eq_some_iff.mp lists.symm
      exact ⟨values, rfl⟩

/-! ## Every level -/

/-- What is passed through at a level are attributes of its element. Those with the name of a structural member are the
ones that intrude. -/
theorem Read.passes {e : Element} {place : Place} {schema : Schema} (read : Read e place schema) :
    (∀ entry ∈ schema.extra, entry ∈ e.attributes) ∧
    ∀ name ∈ wireNames, name ∈ Fields.names schema.extra ↔ Intrudes e place name := by
  cases read with
  | array array inner own =>
    refine ⟨nofun, fun name _ => ⟨nofun, fun intrudes => ?_⟩⟩
    rw [intrudes.own rfl] at array
    cases array
  | object plain object found => exact ⟨nofun, fun name _ => ⟨nofun, fun intrudes => absurd object intrudes.leaf⟩⟩
  | @leaf place kind description skipped schema plain leaf other skips found =>
    obtain ⟨limits, -, made⟩ := eq_ok_of_bind found
    cases made
    have passed : ∀ entry ∈ (e.attributes.filter fun entry => describesLeaf skipped entry.1).filter
        fun entry => !limitNames.contains entry.1, entry ∈ e.attributes :=
      fun entry kept => List.mem_of_mem_filter (List.mem_of_mem_filter kept)
    refine ⟨passed, fun name structural => ⟨fun member => ?_, fun intrudes => ?_⟩⟩
    · obtain ⟨entry, kept, rfl⟩ := List.mem_map.mp member
      exact ⟨leaf, plain, structural, Fields.has_iff.mpr (List.mem_map_of_mem (passed entry kept))⟩
    · obtain ⟨⟨name, text⟩, here, rfl⟩ := List.mem_map.mp (Fields.has_iff.mp intrudes.present)
      have apart : ∀ name ∈ wireNames, describesLeaf [] name = true ∧ limitNames.contains name = false := by decide
      obtain ⟨described, limit⟩ := apart name structural
      have kept : name ∉ skipped := fun skip => by simp [skips name skip] at limit
      have described : describesLeaf skipped name = true := by simpa [describesLeaf, kept] using described
      refine List.mem_map.mpr ⟨_, List.mem_filter.mpr ⟨List.mem_filter.mpr ⟨here, described⟩, ?_⟩, rfl⟩
      exact congrArg not limit

/-- How a schema at one level is sent. Its kind is always the type. A structural member is what the schema says, unless
an attribute intrudes under its name; then it is the text of that attribute. What a leaf says of its values are all that
its children list, if any. -/
structure Sent (e : Element) (place : Place) (schema : Schema) (fields : Fields Json) : Prop where
  wire : schema.toWire = .object fields
  kind : fields.get? "type" = some (.text schema.kind)
  own : ∀ name ∈ wireNames, ¬ Intrudes e place name → fields.get? name = schema.ownMember name
  options : ∀ value, schema.ownMember "enum" = some value ↔
    schema.properties = none ∧ schema.items = none ∧ valuesOf e ≠ [] ∧ value = textList (valuesOf e)
  replaced : ∀ name, Intrudes e place name →
    ∃ text, (name, text) ∈ e.attributes ∧ fields.get? name = some (.text text)

theorem Read.sent {e : Element} {place : Place} {schema : Schema} (read : Read e place schema) :
    ∃ fields, Sent e place schema fields := by
  obtain ⟨fields, wire, members⟩ := toWire_members schema read.conforms.limits
  obtain ⟨passed, intrudes⟩ := read.passes
  refine ⟨fields, wire, ?_, fun name structural free => ?_, fun value => ?_, fun name intrusion => ?_⟩
  · have free : "type" ∉ Fields.names schema.extra := fun passes => (read.conforms.extra "type" passes).2.2.2 rfl
    rw [members "type" List.mem_cons_self, Fields.last?_eq_none free]
    rfl
  · have absent := mt (intrudes name structural).mp free
    rw [members name (List.mem_cons_of_mem _ structural), Fields.last?_eq_none absent]
    rfl
  · rw [ownMember, Option.map_eq_some_iff]
    constructor
    · rintro ⟨values, listed, rfl⟩
      obtain ⟨leaf, single, some, rfl⟩ := (read.conforms.options values).mp listed
      exact ⟨leaf, single, some, rfl⟩
    · rintro ⟨leaf, single, some, rfl⟩
      exact ⟨_, (read.conforms.options _).mpr ⟨leaf, single, some, rfl⟩, rfl⟩
  · have structural := intrusion.named
    obtain ⟨text, last⟩ := Fields.exists_last? ((intrudes name structural).mpr intrusion)
    refine ⟨text, passed _ (Fields.mem_of_last? last), ?_⟩
    rw [members name (List.mem_cons_of_mem _ structural), last]
    rfl

section Levels
variable {root : Element} {schema : Schema} (declared : ofElement root = .ok schema)
include declared

/-- If what is sent for the whole is a schema, so is what is sent for every level. -/
theorem Level.isSchema {e : Element} {place : Place} {inner : Schema} (level : Level root schema e place inner)
    (valid : IsSchema schema.toWire) : IsSchema inner.toWire := by
  induction level with
  | root => exact valid
  | items outer found ih => exact ((toWire_isSchema_iff (outer.read declared).conforms).mp ih).2.2 _ found
  | property outer declares found last ih =>
    exact ((toWire_isSchema_iff (outer.read declared).conforms).mp ih).2.1 _ declares _ found

/-- Where no level intrudes, every level is sent as a schema: by induction on the tree of elements, the items of an array
before the array. -/
theorem Level.isSchema_of_quiet
    (quiet : ∀ e place inner name, Level root schema e place inner → ¬ Intrudes e place name) (e : Element) :
    ∀ place inner, Level root schema e place inner → IsSchema inner.toWire := by
  induction e using Element.tree_induction with
  | step e ih =>
    have here {place : Place} {inner : Schema} (level : Level root schema e place inner)
        (items : ∀ wrapped, inner.items = some wrapped → IsSchema wrapped.toWire) : IsSchema inner.toWire := by
      have read := level.read declared
      refine (toWire_isSchema_iff read.conforms).mpr ⟨fun name structural passed => ?_,
        fun properties declares entry member => ?_, items⟩
      · exact quiet e place inner name level ((read.passes.2 name structural).mp passed)
      · obtain ⟨child, last, -⟩ := read.conforms.each properties entry.1 entry.2 declares member
        have among := List.mem_of_mem_filter (List.mem_of_mem_filter (List.mem_of_getLast? last))
        exact ih child among .whole entry.2 (.property level declares member last)
    have bare {inner : Schema} (level : Level root schema e .items inner) : IsSchema inner.toWire := by
      refine here level fun wrapped found => ?_
      have array := (level.read declared).conforms.array.mp (by rw [found]; rfl)
      cases array.1
    intro place inner level
    cases place with
    | items => exact bare level
    | whole => exact here level fun wrapped found => bare (.items level found)

/-- What is sent for a declaration is a schema just if no level intrudes. -/
theorem toWire_isSchema : IsSchema schema.toWire ↔
    ∀ e place inner name, Level root schema e place inner → ¬ Intrudes e place name := by
  constructor
  · intro valid e place inner name level intrusion
    have read := level.read declared
    have quiet := ((toWire_isSchema_iff read.conforms).mp (level.isSchema declared valid)).1
    exact quiet name intrusion.named ((read.passes.2 name intrusion.named).mpr intrusion)
  · intro quiet
    exact Level.isSchema_of_quiet declared quiet root .whole schema .root

end Levels

/-! ## Tools -/

/-- The tools that an element compiles to: the one that it declares, or the one through which it has values generated. -/
inductive Compiles (e : Element) : Tool → Prop where
  | declared {tool : Tool} (made : Script.tool e = .ok tool) : Compiles e tool
  | generated {store : String} {generation : Generation} (made : Script.generation e store = .ok generation) :
      Compiles e generation.tool

theorem Compiles.parameters {e : Element} {tool : Tool} (compiles : Compiles e tool) :
    ofElement e = .ok tool.parameters := by
  have declared {schema : Schema} (read : Script.parameters e = .ok schema) : ofElement e = .ok schema :=
    mapError_eq_ok.mp read
  cases compiles with
  | declared made =>
    obtain ⟨name, -, rest⟩ := eq_ok_of_bind made
    obtain ⟨parameters, read, last⟩ := eq_ok_of_bind rest
    cases last
    exact declared read
  | generated made =>
    obtain ⟨messages, -, rest⟩ := eq_ok_of_bind made
    split at rest
    · cases rest
    · obtain ⟨parameters, read, last⟩ := eq_ok_of_bind rest
      cases last
      exact declared read

/-- The parameters of a tool are sent as an object, and as a schema just if what they say is. -/
theorem wireParameters_object {e : Element} (tool : Tool) (declared : ofElement e = .ok tool.parameters) :
    (∃ fields : Fields Json, tool.wireParameters = .object fields ∧ fields.get? "type" = some (.text "object")) ∧
    (IsSchema tool.wireParameters ↔ IsSchema tool.parameters.toWire) := by
  by_cases object : tool.parameters.kind = "object"
  · obtain ⟨fields, sent⟩ := (ofElement_read declared).sent
    have same : tool.wireParameters = tool.parameters.toWire := by simp [Tool.wireParameters, Tool.isWrapped, object]
    rw [same]
    exact ⟨⟨fields, sent.wire, by rw [sent.kind, object]⟩, Iff.rfl⟩
  · have wrapped : tool.wireParameters = .object [("type", .text "object"),
        ("properties", .object [(Tool.wrapper, tool.parameters.toWire)]), ("required", textList [Tool.wrapper])] := by
      simp [Tool.wireParameters, Tool.isWrapped, object, textList]
    rw [wrapped]
    refine ⟨⟨_, rfl, rfl⟩, fun valid => ?_, fun valid => ?_⟩
    · cases valid with
      | intro kind properties each required items options => exact each _ rfl (Tool.wrapper, _) List.mem_cons_self
    · refine .intro ⟨_, rfl⟩ ?_ ?_ ?_ nofun nofun
      · rintro value ⟨⟩
        exact ⟨_, rfl⟩
      · rintro inner ⟨⟩ entry member
        cases List.mem_singleton.mp member
        exact valid
      · rintro value ⟨⟩
        exact ⟨_, rfl, List.pairwise_singleton _ _, fun name member => ⟨_, rfl, member⟩⟩

/-- What is sent for a declaration says at every level what the schema there says, except under the names that intrude.
It is a schema just if no level intrudes. The parameters of a tool are an object in any case. -/
theorem toWire_sent (e : Element) :
    (∀ schema, ofElement e = .ok schema →
      (∀ inner place found, Level e schema inner place found → ∃ fields, Sent inner place found fields) ∧
      (IsSchema schema.toWire ↔ ∀ inner place found name, Level e schema inner place found →
        ¬ Intrudes inner place name)) ∧
    ∀ tool, Compiles e tool → ofElement e = .ok tool.parameters ∧
      (∃ fields : Fields Json, tool.wireParameters = .object fields ∧ fields.get? "type" = some (.text "object")) ∧
      (IsSchema tool.wireParameters ↔ IsSchema tool.parameters.toWire) := by
  refine ⟨fun schema declared => ⟨fun inner place found level => (level.read declared).sent, toWire_isSchema declared⟩,
    fun tool compiles => ?_⟩
  exact ⟨compiles.parameters, wireParameters_object tool compiles.parameters⟩

/-- A property with two allowed values. -/
def cityProperty : Element :=
  ⟨"p", [("name", "city")],
    [.element ⟨"opt", [("value", "Rome")], []⟩, .element ⟨"opt", [("value", "Oslo")], []⟩]⟩

/-- A property that may be missing: a list of numbers with at least one in it. -/
def daysProperty : Element := ⟨"opt", [("name", "days"), ("array", "integer"), ("minItems", "1")], []⟩

/-- A tool with both. -/
def planTool : Element := ⟨"tool", [("name", "plan")], [.element cityProperty, .element daysProperty]⟩

theorem Level.among_planTool {schema inner : Schema} {e : Element} {place : Place}
    (level : Level planTool schema e place inner) : e = planTool ∨ e = cityProperty ∨ e = daysProperty := by
  induction level with
  | root => exact .inl rfl
  | items outer found ih => exact ih
  | @property e child place object inner properties name outer declared found last ih =>
    have member : child ∈ propertiesOf e := List.mem_of_mem_filter (List.mem_of_getLast? last)
    rcases ih with rfl | rfl | rfl
    · have listed : child ∈ [cityProperty, daysProperty] := member
      exact .inr (by simpa using listed)
    · have nothing : child ∈ [] := member
      cases nothing
    · have nothing : child ∈ [] := member
      cases nothing

/-- Its parameters are sent as a schema, with the allowed values and the required name in it. -/
theorem toWire_sent_planTool : ∃ tool, Compiles planTool tool ∧ IsSchema tool.wireParameters ∧
    tool.wireParameters = .object [("type", .text "object"),
      ("properties", .object [
        ("city", .object [("type", .text "string"), ("enum", textList ["Rome", "Oslo"])]),
        ("days", .object
          [("type", .text "array"), ("items", .object [("type", .text "integer")]), ("minItems", .int 1)])]),
      ("required", textList ["city"])] := by
  obtain ⟨tool, made⟩ : ∃ tool, Script.tool planTool = .ok tool := ⟨_, rfl⟩
  have compiles := Compiles.declared made
  obtain ⟨declared, -, valid⟩ := (toWire_sent planTool).2 tool compiles
  refine ⟨tool, compiles, valid.mpr ?_, ?_⟩
  · refine ((toWire_sent planTool).1 _ declared).2.mpr fun inner place found name level intrusion => ?_
    have free : ∀ e ∈ [planTool, cityProperty, daysProperty], ∀ name ∈ wireNames, e.has name = false := by decide
    have present := intrusion.present
    rw [free inner (by simpa using level.among_planTool) name intrusion.named] at present
    cases present
  · cases made
    rfl

/-- An attribute that is named like the list of required properties puts its text where that list would be. -/
theorem toWire_sent_required :
    ofElement ⟨"p", [("name", "x"), ("required", "true")], []⟩ =
      .ok { ofKind "string" with extra := [("required", "true")] } ∧
    ({ ofKind "string" with extra := [("required", "true")] } : Schema).toWire =
      .object [("type", .text "string"), ("required", .text "true")] ∧
    ¬ IsSchema (.object [("type", .text "string"), ("required", .text "true")]) := by
  refine ⟨rfl, rfl, fun valid => ?_⟩
  cases valid with
  | intro kind properties each required items options =>
    obtain ⟨names, same, -⟩ := required (.text "true") rfl
    cases same

end Colloquy.Schema
