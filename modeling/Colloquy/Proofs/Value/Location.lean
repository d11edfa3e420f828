import Colloquy.Expr.Eval
import Colloquy.Proofs.Store.Fields
import Colloquy.Proofs.Store.Placed
import Colloquy.Proofs.Store.Scopes

/-! Locations in values. A path denotes a location: a name, and from its value on a member, an attribute or an item at
each step. Evaluating a path gives the value there. If a step denotes no location, there is none, and it does not matter
why: nothing in a value, a path or an index can make it fail in another way. -/
namespace Colloquy

/-! ## Attributes

A model has its fields as attributes, and others that come with its kind. What is shown holds whatever these are. -/

/-- What a model of a kind, with some fields, has under a name. -/
abbrev Attributes := ModelKind → Fields Value → String → Option Value

/-- The fields of a model and no other attributes. -/
def Attributes.fields : Attributes := fun _ fields name => fields.get? name

/-- The value at one step into another, where models have some attributes. -/
def Value.stepBy (attributes : Attributes) (value : Value) (step : Segment) : Option Value :=
  match value, step with
  | .model kind fields, .field name => attributes kind fields name
  | _, _ => value.step step

/-- The value at the end of several steps. -/
def Value.walkBy (attributes : Attributes) (value : Value) : List Segment → Option Value
  | [] => some value
  | step :: rest => (value.stepBy attributes step).bind fun next => next.walkBy attributes rest

/-- The value that a path leads to. -/
def Path.evalBy (attributes : Attributes) (bindings : Bindings) (path : Path) : Option Value :=
  (bindings path.root).bind fun value => value.walkBy attributes path.steps

theorem Value.stepBy_fields (value : Value) (step : Segment) : value.stepBy .fields step = value.step step := by
  cases value <;> cases step <;> rfl

theorem Value.walkBy_fields (value : Value) (steps : List Segment) : value.walkBy .fields steps = value.walk steps := by
  induction steps generalizing value with
  | nil => rfl
  | cons step rest ih =>
    rw [walkBy, walk, stepBy_fields]
    cases value.step step with
    | none => rfl
    | some next => exact ih next

/-- With its fields as the only attributes of a model, a path is evaluated as ever. -/
theorem Path.evalBy_fields (bindings : Bindings) (path : Path) : path.evalBy .fields bindings = path.eval bindings := by
  simp only [evalBy, eval, Value.walkBy_fields]

/-! ## Locations -/

/-- The sequences and their items. A text is none. -/
inductive Sequence : Value → List Value → Prop
  | list (items : List Value) : Sequence (.list items) items
  | tuple (items : List Value) : Sequence (.tuple items) items
  | bytes (data : List UInt8) : Sequence (.bytes data) (data.map fun byte => .int byte.toNat)
  | range (start stop size : Int) : Sequence (.range start stop size) (Value.rangeItems start stop size)

/-- A step denotes a location in a value, and this is the value there. An item is denoted by its number, or by that
number less the number of all items. -/
inductive Located (attributes : Attributes) : Value → Segment → Value → Prop
  | member {fields early late : Fields Value} {name : String} {found : Value}
      (split : fields = early ++ (name, found) :: late) (first : name ∉ early.names) :
      Located attributes (.mapping fields) (.field name) found
  | attributed {kind : ModelKind} {fields : Fields Value} {name : String} {found : Value}
      (has : attributes kind fields name = some found) : Located attributes (.model kind fields) (.field name) found
  | item {value found : Value} {items : List Value} {i : Int} {k : Nat} (sequence : Sequence value items)
      (inside : items[k]? = some found) (denoted : i = k ∨ i = k - items.length) :
      Located attributes value (.index i) found

/-- A step denotes no location in a value. -/
inductive Unlocated (attributes : Attributes) : Value → Segment → Prop
  | missing {fields : Fields Value} {name : String} (absent : name ∉ fields.names) :
      Unlocated attributes (.mapping fields) (.field name)
  | lacking {kind : ModelKind} {fields : Fields Value} {name : String} (lacks : attributes kind fields name = none) :
      Unlocated attributes (.model kind fields) (.field name)
  | memberless {value : Value} {name : String} (unmapped : ∀ fields, value ≠ .mapping fields)
      (unmodelled : ∀ kind fields, value ≠ .model kind fields) : Unlocated attributes value (.field name)
  | itemless {value : Value} {i : Int} (unordered : ∀ items, ¬ Sequence value items) :
      Unlocated attributes value (.index i)
  | outside {value : Value} {items : List Value} {i : Int} (sequence : Sequence value items)
      (beyond : i < -items.length ∨ items.length ≤ i) : Unlocated attributes value (.index i)

/-- Several steps lead from a value to another. -/
inductive Leads (attributes : Attributes) : Value → List Segment → Value → Prop
  | here (value : Value) : Leads attributes value [] value
  | onward {value next found : Value} {step : Segment} {rest : List Segment} (located : Located attributes value step next)
      (leads : Leads attributes next rest found) : Leads attributes value (step :: rest) found

/-- Several steps lead nowhere: one of them, reached by the steps before it, denotes no location. -/
def Strays (attributes : Attributes) (value : Value) (steps : List Segment) : Prop :=
  ∃ early step late reached, steps = early ++ step :: late ∧ Leads attributes value early reached ∧
    Unlocated attributes reached step

/-! ## Items -/

namespace Value
variable {items : List Value} {found : Value} {i : Int}

theorem nth?_eq_some_iff : nth? items i = some found ↔
    ∃ k : Nat, items[k]? = some found ∧ (i = k ∨ i = k - items.length) := by
  have inside {k : Nat} (there : items[k]? = some found) : k < items.length := (List.getElem?_eq_some_iff.mp there).1
  unfold nth?
  split
  · constructor
    · intro there
      exact ⟨i.toNat, there, .inl (by omega)⟩
    · rintro ⟨k, there, denoted⟩
      have := inside there
      obtain rfl : k = i.toNat := by omega
      exact there
  · split
    · constructor
      · intro there
        exact ⟨(items.length + i).toNat, there, .inr (by omega)⟩
      · rintro ⟨k, there, denoted⟩
        have := inside there
        obtain rfl : k = (items.length + i).toNat := by omega
        exact there
    · refine ⟨nofun, ?_⟩
      rintro ⟨k, there, denoted⟩
      have := inside there
      omega

theorem nth?_eq_none_iff : nth? items i = none ↔ i < -items.length ∨ items.length ≤ i := by
  unfold nth?
  split
  · rw [List.getElem?_eq_none_iff]
    omega
  · split
    · rw [List.getElem?_eq_none_iff]
      omega
    · simp only [true_iff]
      omega

/-- A range is indexed like the list of its numbers. -/
theorem rangeItem?_eq (start stop size i : Int) : rangeItem? start stop size i = nth? (rangeItems start stop size) i := by
  have length : (rangeItems start stop size).length = rangeLength start stop size := by simp [rangeItems]
  have item (k : Nat) : (rangeItems start stop size)[k]? =
      if k < rangeLength start stop size then some (int (start + k * size)) else none := by
    by_cases inside : k < rangeLength start stop size <;> simp [rangeItems, inside]
  simp only [rangeItem?, nth?, item, length, Bool.and_eq_true, decide_eq_true_eq]
  generalize rangeLength start stop size = n
  by_cases negative : i < 0
  · rw [if_pos negative, if_neg (Int.not_le.mpr negative)]
    by_cases reached : -i ≤ n
    · have number : (((n : Int) + i).toNat : Int) = n + i := Int.toNat_of_nonneg (by omega)
      rw [if_pos (by omega), if_pos reached, if_pos (by omega), number]
    · rw [if_neg (by omega), if_neg reached]
  · have number : (i.toNat : Int) = i := Int.toNat_of_nonneg (Int.not_lt.mp negative)
    rw [if_neg negative, if_pos (Int.not_lt.mp negative), number]
    by_cases reached : i < n
    · rw [if_pos (by omega), if_pos (by omega)]
    · rw [if_neg (by omega), if_neg (by omega)]

end Value

/-! ## Steps and locations -/

section Steps
variable {attributes : Attributes} {value found : Value} {step : Segment} {steps : List Segment}

theorem Sequence.unique {items others : List Value} (sequence : Sequence value items) (other : Sequence value others) :
    items = others := by
  cases sequence <;> cases other <;> rfl

/-- An item of a sequence is reached by its number. -/
theorem Sequence.stepBy {items : List Value} (sequence : Sequence value items) (i : Int) :
    value.stepBy attributes (.index i) = Value.nth? items i := by
  cases sequence with
  | range start stop size => exact Value.rangeItem?_eq start stop size i
  | _ => rfl

/-- What is no sequence has no items. -/
theorem stepBy_unordered (unordered : ∀ items, ¬ Sequence value items) (i : Int) :
    value.stepBy attributes (.index i) = none := by
  cases value with
  | list items => exact absurd (.list items) (unordered _)
  | tuple items => exact absurd (.tuple items) (unordered _)
  | bytes data => exact absurd (.bytes data) (unordered _)
  | range start stop size => exact absurd (.range start stop size) (unordered _)
  | _ => rfl

theorem stepBy_eq_some_iff : value.stepBy attributes step = some found ↔ Located attributes value step found := by
  constructor
  · intro reached
    cases step with
    | index i =>
      by_cases ordered : ∃ items, Sequence value items
      · obtain ⟨items, sequence⟩ := ordered
        rw [sequence.stepBy] at reached
        obtain ⟨k, inside, denoted⟩ := Value.nth?_eq_some_iff.mp reached
        exact .item sequence inside denoted
      · rw [stepBy_unordered (not_exists.mp ordered)] at reached
        cases reached
    | field name =>
      cases value with
      | mapping fields =>
        obtain ⟨early, late, split, first⟩ := Fields.get?_eq_some_iff.mp reached
        exact .member split first
      | model kind fields => exact .attributed reached
      | _ => cases reached
  · intro located
    cases located with
    | member split first => exact Fields.get?_eq_some_iff.mpr ⟨_, _, split, first⟩
    | attributed has => exact has
    | item sequence inside denoted =>
      rw [sequence.stepBy]
      exact Value.nth?_eq_some_iff.mpr ⟨_, inside, denoted⟩

theorem stepBy_eq_none_iff : value.stepBy attributes step = none ↔ Unlocated attributes value step := by
  constructor
  · intro nowhere
    cases step with
    | index i =>
      by_cases ordered : ∃ items, Sequence value items
      · obtain ⟨items, sequence⟩ := ordered
        rw [sequence.stepBy] at nowhere
        exact .outside sequence (Value.nth?_eq_none_iff.mp nowhere)
      · exact .itemless (not_exists.mp ordered)
    | field name =>
      cases value with
      | mapping fields => exact .missing (Fields.get?_eq_none_iff.mp nowhere)
      | model kind fields => exact .lacking nowhere
      | _ => exact .memberless nofun nofun
  · intro unlocated
    cases unlocated with
    | missing absent => exact Fields.get?_eq_none_iff.mpr absent
    | lacking lacks => exact lacks
    | memberless unmapped unmodelled =>
      cases value with
      | mapping fields => exact absurd rfl (unmapped fields)
      | model kind fields => exact absurd rfl (unmodelled kind fields)
      | _ => rfl
    | itemless unordered => exact stepBy_unordered unordered _
    | outside sequence beyond =>
      rw [sequence.stepBy]
      exact Value.nth?_eq_none_iff.mpr beyond

/-- Walking gives the value that the steps lead to. -/
theorem walkBy_eq_some_iff : value.walkBy attributes steps = some found ↔ Leads attributes value steps found := by
  induction steps generalizing value with
  | nil =>
    constructor
    · rintro ⟨⟩
      exact .here _
    · rintro ⟨⟩
      rfl
  | cons step rest ih =>
    rw [Value.walkBy, Option.bind_eq_some_iff]
    constructor
    · rintro ⟨next, reached, walked⟩
      exact .onward (stepBy_eq_some_iff.mp reached) (ih.mp walked)
    · intro leads
      cases leads with
      | onward located onward => exact ⟨_, stepBy_eq_some_iff.mpr located, ih.mpr onward⟩

theorem walkBy_eq_none_iff : value.walkBy attributes steps = none ↔ Strays attributes value steps := by
  induction steps generalizing value with
  | nil => simp [Value.walkBy, Strays]
  | cons step rest ih =>
    constructor
    · intro nowhere
      cases reached : value.stepBy attributes step with
      | none => exact ⟨[], step, rest, value, rfl, .here value, stepBy_eq_none_iff.mp reached⟩
      | some next =>
        rw [Value.walkBy, reached] at nowhere
        obtain ⟨early, last, late, there, rfl, leads, unlocated⟩ := ih.mp nowhere
        exact ⟨step :: early, last, late, there, rfl, .onward (stepBy_eq_some_iff.mp reached) leads, unlocated⟩
    · rintro ⟨early, last, late, there, split, leads, unlocated⟩
      rw [Value.walkBy]
      cases leads with
      | here =>
        cases split
        rw [stepBy_eq_none_iff.mpr unlocated]
        rfl
      | onward located onward =>
        cases split
        rw [stepBy_eq_some_iff.mpr located]
        exact ih.mpr ⟨_, last, late, there, rfl, onward, unlocated⟩

end Steps

/-! ## Roots -/

namespace Store
variable {store : Store} {scope : Nat} {name : String}

/-- An item is bound to a name in the innermost scope that has the name. -/
def Innermost (store : Store) (scope : Nat) (name : String) (item : Item) : Prop :=
  ∃ inner own outer, store.chain scope = inner ++ own :: outer ∧ (∀ id ∈ inner, name ∉ (store.bindingsOf id).names) ∧
    (store.bindingsOf own).get? name = some item

theorem lookup_eq_some_iff {item : Item} : store.lookup scope name = some item ↔ store.Innermost scope name item := by
  rw [lookup, List.findSome?_eq_some_iff]
  simp only [Fields.get?_eq_none_iff]
  constructor
  · rintro ⟨inner, own, outer, split, found, before⟩
    exact ⟨inner, own, outer, split, before, found⟩
  · rintro ⟨inner, own, outer, split, before, found⟩
    exact ⟨inner, own, outer, split, found, before⟩

theorem lookup_eq_none_iff :
    store.lookup scope name = none ↔ ∀ id ∈ store.chain scope, name ∉ (store.bindingsOf id).names := by
  rw [lookup, List.findSome?_eq_none_iff]
  simp only [Fields.get?_eq_none_iff]

/-- The value under a name is that of the item in its innermost binding. -/
theorem valueOf_eq_some_iff {value : Value} : store.valueOf scope name = some value ↔
    ∃ item, store.Innermost scope name item ∧ store.view item = value := by
  simp only [valueOf, Option.map_eq_some_iff, lookup_eq_some_iff]

/-- A value that is put in place and bound to a name is seen under that name. -/
theorem valueOf_placed (store : Store) (inside : scope < store.scopes.length) (name : String) (value : Value) :
    ((store.place value).2.bind scope name (store.place value).1).valueOf scope name = some value := by
  have there : (store.place value).2.Holds (.scope scope) := by
    change scope < (store.place value).2.scopes.length
    rwa [place_scopes]
  have written := bind_contents scope name (store.place value).1 there
  rw [isSame_self there, if_pos rfl] at written
  change Store.bindingsOf _ scope = _ at written
  have bound : ((store.place value).2.bind scope name (store.place value).1).lookup scope name =
      some (store.place value).1 := by
    rw [lookup, chain, List.findSome?_cons, written, Fields.get?_put_self]
  rw [valueOf, bound, Option.map_some]
  exact congrArg some (view_place (fun _ _ _ => rfl) (Nat.le_refl _))

end Store

/-- A path gives exactly the value at the location that it denotes: from the innermost binding of its name on, step by
step, whatever attributes models have. It gives none just if the name is not bound or a step denotes no location. -/
theorem path_denotes (attributes : Attributes) (path : Path) :
    (∀ bindings value, path.evalBy attributes bindings = some value ↔
      ∃ root, bindings path.root = some root ∧ Leads attributes root path.steps value) ∧
    (∀ bindings, path.evalBy attributes bindings = none ↔
      bindings path.root = none ∨ ∃ root, bindings path.root = some root ∧ Strays attributes root path.steps) ∧
    (∀ (store : Store) (scope : Nat),
      (∀ root, store.valueOf scope path.root = some root ↔
        ∃ item, store.Innermost scope path.root item ∧ store.view item = root) ∧
      (store.valueOf scope path.root = none ↔ ∀ id ∈ store.chain scope, path.root ∉ (store.bindingsOf id).names) ∧
      (scope < store.scopes.length → ∀ root,
        path.evalBy attributes (((store.place root).2.bind scope path.root (store.place root).1).valueOf scope) =
          root.walkBy attributes path.steps)) ∧
    ∀ bindings, path.evalBy .fields bindings = path.eval bindings := by
  refine ⟨fun bindings value => ?_, fun bindings => ?_,
    fun store scope => ⟨fun root => Store.valueOf_eq_some_iff, ?_, fun inside root => ?_⟩,
    fun bindings => path.evalBy_fields bindings⟩
  · rw [Path.evalBy, Option.bind_eq_some_iff]
    simp only [walkBy_eq_some_iff]
  · rw [Path.evalBy]
    cases bindings path.root with
    | none => simp
    | some root => simp [walkBy_eq_none_iff]
  · rw [Store.valueOf, Option.map_eq_none_iff, Store.lookup_eq_none_iff]
  · rw [Path.evalBy, Store.valueOf_placed store inside]
    rfl

/-- The last of some tags is null, which is a value like any other. -/
theorem path_denotes_null :
    let store := (Store.empty.openScope none []).2
    let idea := Value.mapping [("tags", .list [.text "sea", .null])]
    let path : Path := ⟨"idea", [.field "tags", .index (-1)]⟩
    0 < store.scopes.length ∧
      path.evalBy .fields (((store.place idea).2.bind 0 path.root (store.place idea).1).valueOf 0) = some .null := by
  intro store idea path
  obtain ⟨-, -, inScope, -⟩ := path_denotes .fields path
  have inside : 0 < store.scopes.length := by decide
  exact ⟨inside, (inScope store 0).2.2 inside idea⟩

end Colloquy
