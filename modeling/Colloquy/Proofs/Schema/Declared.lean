import Colloquy.Proofs.Markup.Tree
import Colloquy.Proofs.Store.Fields
import Colloquy.Proofs.Text.Numeral
import Colloquy.Reading
import Colloquy.Schema.Check
import Colloquy.Schema.Markup

/-! When an element declares a schema. The only thing that can be wrong is a limit that is looked at and does not write
an integer, or one with too many digits; which limits are looked at depends on whether the element is an array, and on
whether it stands for an object. Whatever is declared is a schema whose required names are declared properties. -/
namespace Colloquy.Schema
open Colloquy.Markup

/-- The kind that an element names for its values, or for the items if it is an array. -/
def kindOf (e : Element) : Option String :=
  match e.get? "array" with
  | some array => nonEmpty array
  | none => e.get? "type"

/-- An element whose values, or whose items, are objects: it says so, or it names no kind and declares properties. -/
def StandsForObject (e : Element) : Prop :=
  kindOf e = some "object" ∨ (kindOf e = none ∧ ∃ child ∈ e.elements, isProperty child = true)

/-- A limit that is looked at: that of an array, or of a leaf, whose items' limits leave out those of the array. -/
inductive Consults (e : Element) : String → String → Prop where
  | array {name value : String} (array : e.has "array" = true) (limit : name ∈ arrayLimitNames)
      (found : e.get? name = some value) : Consults e name value
  | leaf {name value : String} (leaf : ¬ StandsForObject e) (limit : name ∈ limitNames)
      (kept : e.has "array" = true → name ∉ arrayLimitNames) (member : (name, value) ∈ e.attributes) :
      Consults e name value

/-- A declaration in which every limit that is looked at can be read as an integer, at any depth. -/
inductive Valid : Element → Prop where
  | intro {e : Element} (limits : ∀ name value, Consults e name value → Text.IsReadable value)
      (properties : StandsForObject e → ∀ child ∈ e.elements, isProperty child = true → Valid child) : Valid e

/-! ## What can be read -/

section Reading
variable {tag : String} {attributes : Fields String} {children : List Node}

theorem limit_isOk (name value : String) : (limit tag name value).isOk = true ↔ Text.IsReadable value := by
  rw [← Text.readInteger_isSome, limit]
  cases Text.readInteger? 10 value <;> simp

theorem limitsOf_isOk :
    (limitsOf tag attributes).isOk = true ↔ ∀ name value, (name, value) ∈ attributes → Text.IsReadable value := by
  induction attributes with
  | nil => simp [limitsOf, pure, Except.pure]
  | cons entry rest ih =>
    obtain ⟨name, value⟩ := entry
    have opened : limitsOf tag ((name, value) :: rest) =
        (limit tag name value).bind fun n => (limitsOf tag rest).map ((name, n) :: ·) := by
      simp only [limitsOf, List.mapM_cons]
      cases limit tag name value with
      | error bad => rfl
      | ok n =>
        generalize (rest.mapM _ : Except BadLimit (Fields Int)) = others
        cases others <;> rfl
    have split : (limitsOf tag ((name, value) :: rest)).isOk = true ↔
        Text.IsReadable value ∧ (limitsOf tag rest).isOk = true := by
      have first : (∃ n, limit tag name value = .ok n) ↔ Text.IsReadable value :=
        isOk_iff.symm.trans (limit_isOk name value)
      simp only [opened, isOk_bind, isOk_map, exists_and_right, first]
    rw [split, ih]
    simp only [List.mem_cons, Prod.mk.injEq]
    constructor
    · rintro ⟨here, others⟩ other written (⟨rfl, rfl⟩ | member)
      · exact here
      · exact others other written member
    · intro all
      exact ⟨all name value (.inl ⟨rfl, rfl⟩), fun other written member => all other written (.inr member)⟩

/-- What is left of the attributes of a leaf are the limits that are not skipped. -/
theorem leaf_isOk {kind : String} {description : Option String} {skipped : List String} :
    (leaf tag attributes children kind description skipped).isOk = true ↔
      ∀ name value, (name, value) ∈ attributes → name ∈ limitNames → name ∉ skipped → Text.IsReadable value := by
  have ordinary : ∀ name ∈ limitNames, structuralNames.contains name = false ∧ descriptionNames.contains name = false ∧
      (name == "type") = false := by decide
  have read : (leaf tag attributes children kind description skipped).isOk = (limitsOf tag ((attributes.filter fun
      entry => describesLeaf skipped entry.1).filter fun entry => limitNames.contains entry.1)).isOk := by
    change (Except.bind (limitsOf tag _) _).isOk = _
    cases limitsOf tag _ <;> rfl
  rw [read, limitsOf_isOk]
  constructor
  · intro all name value member limit kept
    refine all name value ?_
    obtain ⟨structural, described, typed⟩ := ordinary name limit
    simp only [List.mem_filter, describesLeaf, structural, described, typed, Bool.false_or, Bool.not_eq_true',
      List.contains_iff_mem]
    exact ⟨⟨member, by simpa using kept⟩, limit⟩
  · intro all name value member
    simp only [List.mem_filter, List.contains_iff_mem, describesLeaf] at member
    obtain ⟨⟨here, described⟩, limit⟩ := member
    refine all name value here limit ?_
    simp at described
    exact described.2

theorem declaredIn_isOk : (declaredIn children).isOk = true ↔
    ∀ child, .element child ∈ children → isProperty child = true → (ofElement child).isOk = true := by
  induction children with
  | nil => simp [declaredIn]
  | cons node rest ih =>
    cases node with
    | text value => simp [declaredIn, ih]
    | comment value => simp [declaredIn, ih]
    | element child =>
      by_cases property : isProperty child
      · cases schema : ofElement child <;> simp [declaredIn, property, schema, ih]
      · simp [declaredIn, property, ih]

end Reading

theorem standsForObject_iff (e : Element) : declaresObject (kindOf e) e.children = true ↔ StandsForObject e := by
  unfold StandsForObject declaresObject
  cases kindOf e with
  | some kind => simp
  | none =>
    simp only [List.any_eq_true, reduceCtorEq, false_or, true_and, Element.mem_elements]
    constructor
    · rintro ⟨node, member, property⟩
      cases node with
      | text value => cases property
      | comment value => cases property
      | element child => exact ⟨child, member, property⟩
    · rintro ⟨child, member, property⟩
      exact ⟨.element child, member, property⟩

/-- The schema of the values of an element, or of the items if it is an array, can be read just if the properties of an
object can, and the limits of a leaf. -/
theorem inner_isOk (e : Element) (kind : String) (description : Option String) (skipped : List String) :
    (if declaresObject (kindOf e) e.children = true then (declaredIn e.children).map (ofDeclared description)
      else leaf e.tag e.attributes e.children kind description skipped).isOk = true ↔
      (StandsForObject e → ∀ child ∈ e.elements, isProperty child = true → (ofElement child).isOk = true) ∧
      (¬ StandsForObject e → ∀ name value, (name, value) ∈ e.attributes → name ∈ limitNames → name ∉ skipped →
        Text.IsReadable value) := by
  split
  · rename_i object
    simp [(standsForObject_iff e).mp object, declaredIn_isOk, Element.mem_elements]
  · rename_i plain
    rw [standsForObject_iff] at plain
    simp only [plain, leaf_isOk, false_implies, not_false_eq_true, true_implies, true_and]

theorem has_eq (e : Element) (name : String) : e.has name = (e.get? name).isSome := rfl

theorem ofElement_plain {e : Element} (array : e.get? "array" = none) : ofElement e =
    if declaresObject (kindOf e) e.children = true then
      (declaredIn e.children).map (ofDeclared (descriptionOf e.attributes))
    else leaf e.tag e.attributes e.children (((kindOf e).bind nonEmpty).getD "string")
      (descriptionOf e.attributes) [] := by
  simp only [kindOf, array]
  obtain ⟨tag, attributes, children⟩ := e
  rw [Element.get?] at array
  simp only [ofElement]
  split
  · rename_i found
    rw [found] at array
    cases array
  · rfl

theorem ofElement_array {e : Element} {value : String} (array : e.get? "array" = some value) : ofElement e =
    (if declaresObject (kindOf e) e.children = true then (declaredIn e.children).map (ofDeclared none)
      else leaf e.tag e.attributes e.children ((kindOf e).getD "string") none arrayLimitNames).bind fun items =>
    (limitsOf e.tag (arrayLimitNames.filterMap fun name => (e.get? name).map fun value => (name, value))).bind
      fun limits =>
    .ok { ofKind "array" with description := descriptionOf e.attributes, items := some items, limits } := by
  simp only [kindOf, array]
  obtain ⟨tag, attributes, children⟩ := e
  rw [Element.get?] at array
  simp only [ofElement]
  split
  · rename_i found
    rw [found] at array
    cases array
    split <;> rfl
  · rename_i found
    rw [found] at array
    cases array

/-- A schema is declared just if the limits that are looked at here are integers, and the properties declare schemas if
there are any. -/
theorem ofElement_isOk (e : Element) : (ofElement e).isOk = true ↔
    (∀ name value, Consults e name value → Text.IsReadable value) ∧
      (StandsForObject e → ∀ child ∈ e.elements, isProperty child = true → (ofElement child).isOk = true) := by
  cases array : e.get? "array" with
  | none =>
    have absent : e.has "array" = false := by simp [has_eq, array]
    rw [ofElement_plain array, inner_isOk, and_comm]
    refine and_congr_left fun _ => ?_
    constructor
    · rintro limits name value (⟨present, -, -⟩ | ⟨leaf, limit, -, member⟩)
      · rw [absent] at present
        cases present
      · exact limits leaf name value member limit (List.not_mem_nil)
    · intro limits leaf name value member limit _
      refine limits name value (.leaf leaf limit (fun present => ?_) member)
      rw [absent] at present
      cases present
  | some value =>
    have present : e.has "array" = true := by simp [has_eq, array]
    have own : (limitsOf e.tag (arrayLimitNames.filterMap fun name => (e.get? name).map fun value =>
        (name, value))).isOk = true ↔
        ∀ name value, name ∈ arrayLimitNames → e.get? name = some value → Text.IsReadable value := by
      rw [limitsOf_isOk]
      constructor
      · intro all name value limit found
        exact all name value (List.mem_filterMap.mpr ⟨name, limit, by rw [found]; rfl⟩)
      · intro all name value member
        obtain ⟨other, limit, here⟩ := List.mem_filterMap.mp member
        obtain ⟨written, found, same⟩ := Option.map_eq_some_iff.mp here
        cases same
        exact all name value limit found
    rw [ofElement_array array, isOk_bind]
    simp only [isOk_bind, isOk_ok, and_true, exists_and_right, ← isOk_iff, inner_isOk, own]
    constructor
    · rintro ⟨⟨properties, leaves⟩, arrays⟩
      refine ⟨?_, properties⟩
      rintro name value (⟨-, limit, found⟩ | ⟨leaf, limit, kept, member⟩)
      · exact arrays name value limit found
      · exact leaves leaf name value member limit (kept present)
    · rintro ⟨limits, properties⟩
      refine ⟨⟨properties, fun leaf name value member limit kept => ?_⟩, fun name value limit found => ?_⟩
      · exact limits name value (.leaf leaf limit (fun _ => kept) member)
      · exact limits name value (.array present limit found)

/-- An element declares a schema just if every limit that is looked at is an integer. -/
theorem ofElement_isOk_iff (e : Element) : (ofElement e).isOk = true ↔ Valid e := by
  induction e using Element.tree_induction with
  | step e ih =>
    rw [ofElement_isOk]
    constructor
    · rintro ⟨limits, properties⟩
      exact .intro limits fun object child member property => (ih child member).mp (properties object child member property)
    · rintro ⟨limits, properties⟩
      exact ⟨limits, fun object child member property => (ih child member).mpr (properties object child member property)⟩

/-! ## What is declared -/

/-- A schema whose required names are declared properties, as are those of the schemas in it. -/
inductive Closed : Schema → Prop where
  | intro {schema : Schema} (own : schema.isClosed = true)
      (properties : ∀ entry ∈ schema.properties.getD [], Closed entry.2)
      (items : ∀ items, schema.items = some items → Closed items) : Closed schema

theorem leaf_closed {tag : String} {attributes : Fields String} {children : List Node} {kind : String}
    {description : Option String} {skipped : List String} {schema : Schema}
    (read : leaf tag attributes children kind description skipped = .ok schema) : Closed schema := by
  obtain ⟨limits, -, made⟩ := eq_ok_of_bind read
  cases made
  exact .intro rfl (by simp [ofKind]) (by simp [ofKind])

theorem declaredIn_schemas {children : List Node} {declared : List Declared} (read : declaredIn children = .ok declared) :
    ∀ d ∈ declared, ∃ child, .element child ∈ children ∧ ofElement child = .ok d.schema := by
  induction children generalizing declared with
  | nil =>
    cases read
    simp
  | cons node rest ih =>
    have skipped (later : declaredIn rest = .ok declared) :
        ∀ d ∈ declared, ∃ child, .element child ∈ node :: rest ∧ ofElement child = .ok d.schema := by
      intro d member
      obtain ⟨child, inside, schema⟩ := ih later d member
      exact ⟨child, List.mem_cons_of_mem _ inside, schema⟩
    cases node with
    | text value => exact skipped read
    | comment value => exact skipped read
    | element child =>
      unfold declaredIn at read
      split at read
      · split at read
        · cases read
        · rename_i schema here
          obtain ⟨more, later, rfl⟩ := eq_ok_of_map read
          intro d member
          rcases List.mem_cons.mp member with rfl | others
          · exact ⟨child, List.mem_cons_self, here⟩
          · obtain ⟨other, inside, made⟩ := ih later d others
            exact ⟨other, List.mem_cons_of_mem _ inside, made⟩
      · exact skipped read

theorem ofDeclared_closed {description : Option String} {declared : List Declared}
    (inside : ∀ d ∈ declared, Closed d.schema) : Closed (ofDeclared description declared) := by
  refine .intro ?_ ?_ (by simp [ofDeclared, ofKind])
  · simp only [isClosed, ofDeclared, Option.getD_some, List.all_eq_true, List.contains_iff_mem]
    intro name required
    obtain ⟨d, member, found⟩ := List.mem_filterMap.mp (List.mem_eraseDups.mp required)
    split at found
    · cases found
      refine Fields.names_merge.mpr (.inr ?_)
      exact List.mem_map.mpr ⟨(d.name, d.schema), List.mem_map.mpr ⟨d, member, rfl⟩, rfl⟩
    · cases found
  · intro entry member
    rcases Fields.mem_merge member with impossible | written
    · cases impossible
    · obtain ⟨d, declaredHere, rfl⟩ := List.mem_map.mp written
      exact inside d declaredHere

/-- What is declared is a schema whose required names are declared properties, at any depth. -/
theorem ofElement_closed {e : Element} {schema : Schema} (read : ofElement e = .ok schema) : Closed schema := by
  induction e using Element.tree_induction generalizing schema with
  | step e ih =>
    have inner {kind : String} {description : Option String} {skipped : List String} {schema : Schema}
        (read : (if declaresObject (kindOf e) e.children = true then (declaredIn e.children).map (ofDeclared description)
          else leaf e.tag e.attributes e.children kind description skipped) = .ok schema) : Closed schema := by
      split at read
      · obtain ⟨declared, found, rfl⟩ := eq_ok_of_map read
        refine ofDeclared_closed fun d member => ?_
        obtain ⟨child, inside, made⟩ := declaredIn_schemas found d member
        exact ih child (Element.mem_elements.mpr inside) made
      · exact leaf_closed read
    cases array : e.get? "array" with
    | none =>
      rw [ofElement_plain array] at read
      exact inner read
    | some value =>
      rw [ofElement_array array] at read
      obtain ⟨items, found, rest⟩ := eq_ok_of_bind read
      obtain ⟨limits, -, made⟩ := eq_ok_of_bind rest
      cases made
      refine .intro rfl (by simp [ofKind]) ?_
      rintro _ ⟨⟩
      exact inner found

end Colloquy.Schema
