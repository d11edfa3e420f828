import Colloquy.Proofs.Fragment.Tiling
import Colloquy.Proofs.Store.Fields

/-! References that lead nowhere, passed through filters without arguments. Nearly every filter insists on a value, and
the reference is then left as it was written. A few do not notice that there is no value: some fail because it is of the
wrong kind, and some yield a value of their own, which is written in its place. -/
namespace Colloquy

/-! ## Tables of filters

The table of a template engine may hold more filters than the one here. What is shown holds of every table that agrees
with it, if the further filters meet an undefined value in the way they are documented. -/

/-- The filters by name. -/
abbrev Filters := String → Option Filter

/-- Passes a value, or the lack of one, through filters of a table. -/
def pipeThrough (filters : Filters) (bindings : Bindings) (subject : Option Value) : List FilterCall → Evaluated
  | [] => .ok subject
  | ⟨name, args⟩ :: rest =>
    match filters name with
    | none => .error (.unknownFilter name)
    | some filter =>
      match args.eval bindings with
      | none => .ok none
      | some given =>
        match filter.apply subject given.positional given.keywords with
        | .ok value => pipeThrough filters bindings value rest
        | .error .undefined => .ok none
        | .error cause => .error (.misuse cause)

theorem pipeThrough_find (bindings : Bindings) (subject : Option Value) (calls : List FilterCall) :
    pipeThrough Filter.find? bindings subject calls = pipe bindings subject calls := by
  induction calls generalizing subject with
  | nil => rfl
  | cons call rest ih =>
    obtain ⟨name, args⟩ := call
    cases found : Filter.find? name with
    | none => simp only [pipeThrough, pipe, found]
    | some filter =>
      cases spelled : args.eval bindings with
      | none => simp only [pipeThrough, pipe, found, spelled]
      | some given =>
        cases applied : filter.apply subject given.positional given.keywords with
        | ok value => simp only [pipeThrough, pipe, found, spelled, applied, ih]
        | error cause => cases cause <;> simp only [pipeThrough, pipe, found, spelled, applied]

/-- The value of an expression, its filters being those of a table. -/
def Expr.evalThrough (filters : Filters) (bindings : Bindings) (expr : Expr) : Evaluated :=
  match expr.base.eval bindings with
  | .ok value => pipeThrough filters bindings value expr.filters
  | .error error => .error error

/-- With the table of filters that is here an expression has the value that it has. -/
theorem Expr.evalThrough_find (bindings : Bindings) (expr : Expr) :
    expr.evalThrough Filter.find? bindings = expr.eval bindings := by
  cases base : expr.base.eval bindings with
  | ok value => simp only [evalThrough, eval, base, pipeThrough_find]
  | error error => simp only [evalThrough, eval, base]

namespace Fragment

/-- The text that stands for an outcome: that of the value, or the source if there is none. -/
def written (source : String) : Evaluated → Except EvalError String
  | .ok (some value) => .ok value.messageText
  | .ok none => .ok source
  | .error error => .error error

/-- The text of a fragment, the filters in it being those of a table. -/
def renderThrough (filters : Filters) (bindings : Bindings) : Fragment → Except EvalError String
  | text s => .ok s
  | reference expr source _ => written source (expr.evalThrough filters bindings)

/-- With the table of filters that is here a fragment is rendered as ever. -/
theorem renderThrough_find (bindings : Bindings) (fragment : Fragment) :
    fragment.renderThrough Filter.find? bindings = fragment.render bindings := by
  cases fragment with
  | text s => rfl
  | reference expr source position =>
    cases outcome : expr.eval bindings with
    | ok value => cases value <;> simp only [renderThrough, render, expr.evalThrough_find, outcome, written]
    | error error => simp only [renderThrough, render, expr.evalThrough_find, outcome, written]

end Fragment

namespace Filter

/-- A filter that can be used outside a running template and without arguments. -/
def isBare : Filter → Bool
  | plain parameters _ => (Parameter.assign parameters [] []).isOk
  | variadic _ => true
  | contextual => false

/-- The filters that are there to put something in the place of a value that is not defined. -/
def replacing : List String := ["default", "d", "items"]

/-- The filters that fail at an undefined value as they do at one of the wrong kind. -/
def mistaking : List String := ["abs", "round", "tojson"]

/-- Filters that a table may have beside those here, and that insist on a value. -/
def further : List String := ["filesizeformat", "striptags", "urlencode", "urlize", "wordwrap", "xmlattr"]

/-- Whether a filter insists on a value: it refuses to be applied to none. -/
def insists (filter : Filter) : Bool :=
  match filter.apply none [] [] with
  | .error .undefined => true
  | _ => false

theorem insists_iff {filter : Filter} : filter.insists = true ↔ filter.apply none [] [] = .error .undefined := by
  unfold insists
  split
  · rename_i refused
    simp [refused]
  · rename_i other
    simpa using other

/-- A table that has the filters here and may have others: some that insist on a value, one that shows whatever it is
applied to, and one that needs an argument. -/
structure Table (filters : Filters) : Prop where
  own : ∀ name filter, find? name = some filter → filters name = some filter
  others : ∀ name filter, filters name = some filter →
    find? name = some filter ∨ name ∈ further ∨ name = "pprint" ∨ name = "groupby"
  insist : ∀ name ∈ further, ∀ filter, filters name = some filter → filter.apply none [] [] = .error .undefined
  shows : ∀ filter, filters "pprint" = some filter → filter.apply none [] [] = .ok (some (.text "Undefined"))
  groups : ∀ filter, filters "groupby" = some filter → filter.isBare = false

/-- The filters here and the further ones, as these are for texts that they leave alone. -/
def withFurther : Filters := fun name =>
  if name ∈ further then some (total [] fun value _ => .ok value)
  else if name = "pprint" then some (.plain [] fun subject _ => .ok (some (subject.getD (.text "Undefined"))))
  else if name = "groupby" then some (total [.required "attribute"] fun value _ => .ok value)
  else find? name

/-- Every filter that can be used without arguments insists on a value, but for the few that are told apart. -/
theorem all_kinds : ∀ entry ∈ all, entry.2.isBare = true →
    entry.1 ∈ replacing ∨ entry.1 ∈ mistaking ∨ entry.1 = "unique" ∨ entry.2.insists = true := by
  decide

/-- What the filters that do not insist make of no value. -/
theorem mistaking_fails {name : String} (mistakes : name ∈ mistaking) {filter : Filter} (found : find? name = some filter) :
    filter.apply none [] [] = .error .wrongType := by
  simp only [mistaking, List.mem_cons, List.not_mem_nil, or_false] at mistakes
  rcases mistakes with rfl | rfl | rfl <;> cases found <;> rfl

theorem unique_yields {filter : Filter} (found : find? "unique" = some filter) :
    filter.apply none [] [] = .ok (some (.stream [] (some .undefined))) := by
  cases found
  rfl

theorem withFurther_table : Table withFurther where
  own name filter found := by
    have apart : ∀ other ∈ "pprint" :: "groupby" :: further, (find? other).isNone = true := by decide
    have foreign : name ∉ "pprint" :: "groupby" :: further := by
      intro member
      simpa [found] using apart name member
    simp only [List.mem_cons, not_or] at foreign
    simp only [withFurther, foreign, ↓reduceIte, found]
  others name filter found := by
    unfold withFurther at found
    split at found
    · exact .inr (.inl ‹_›)
    · split at found
      · exact .inr (.inr (.inl ‹_›))
      · split at found
        · exact .inr (.inr (.inr ‹_›))
        · exact .inl found
  insist name member filter found := by
    simp only [withFurther, if_pos member, Option.some.injEq] at found
    subst found
    rfl
  shows filter found := by
    cases found
    rfl
  groups filter found := by
    cases found
    rfl

/-- What the first filter makes of no value, told by its name. -/
theorem Table.apply_none {filters : Filters} (table : Table filters) {name : String} {filter : Filter}
    (existing : filters name = some filter) (bare : filter.isBare = true) (ordinary : name ∉ replacing) :
    filter.apply none [] [] =
      if name ∈ mistaking then .error .wrongType
      else if name = "unique" then .ok (some (.stream [] (some .undefined)))
      else if name = "pprint" then .ok (some (.text "Undefined"))
      else .error .undefined := by
  have silent : ∀ other ∈ further, other ∉ mistaking ∧ other ≠ "unique" ∧ other ≠ "pprint" := by decide
  rcases table.others name filter existing with found | later | rfl | rfl
  · rcases all_kinds (name, filter) (Fields.mem_of_get? found) bare with replaces | mistakes | unique | insists
    · exact absurd replaces ordinary
    · rw [if_pos mistakes]
      exact mistaking_fails mistakes found
    · obtain rfl : name = "unique" := unique
      exact unique_yields found
    · have refused := insists_iff.mp insists
      have notMistaken : name ∉ mistaking := by
        intro mistakes
        rw [mistaking_fails mistakes found] at refused
        cases refused
      have notUnique : name ≠ "unique" := by
        rintro rfl
        rw [unique_yields found] at refused
        cases refused
      have unshown : name ≠ "pprint" := by
        rintro rfl
        cases found
      rw [if_neg notMistaken, if_neg notUnique, if_neg unshown]
      exact refused
  · obtain ⟨notMistaken, notUnique, unshown⟩ := silent name later
    rw [if_neg notMistaken, if_neg notUnique, if_neg unshown]
    exact table.insist name later filter existing
  · exact table.shows filter existing
  · rw [table.groups filter existing] at bare
    cases bare

end Filter

namespace Fragment

/-- A reference that leads nowhere is left as it was written, whatever filters follow, if the first of them insists on a
value. With the others the reference is lost: three fail, and two put something in its place that is passed on. -/
theorem render_unresolved {filters : Filters} (table : Filter.Table filters) {bindings : Bindings} {path : Path}
    (unbound : path.eval bindings = none) {first : FilterCall} {filter : Filter}
    (existing : filters first.name = some filter) (bare : filter.isBare = true) (plain : first.args = .none)
    (ordinary : first.name ∉ Filter.replacing) (rest : List FilterCall) (source : String) (position : Nat) :
    (reference ⟨.operand (.path path), first :: rest⟩ source position).renderThrough filters bindings =
      if first.name ∈ Filter.mistaking then .error (.misuse .wrongType)
      else if first.name = "unique" then
        written source (pipeThrough filters bindings (some (.stream [] (some .undefined))) rest)
      else if first.name = "pprint" then
        written source (pipeThrough filters bindings (some (.text "Undefined")) rest)
      else .ok source := by
  have applied := table.apply_none existing bare ordinary
  have given : first.args.eval bindings = some ⟨[], []⟩ := by
    rw [plain]
    rfl
  have base : (Primary.operand (.path path)).eval bindings = .ok none := by rw [Primary.eval, Operand.eval, unbound]
  simp only [renderThrough, Expr.evalThrough, base, pipeThrough, existing, given, applied]
  by_cases mistaken : first.name ∈ Filter.mistaking
  · simp only [if_pos mistaken]
    rfl
  · by_cases unique : first.name = "unique"
    · simp only [if_neg mistaken, if_pos unique]
    · by_cases shown : first.name = "pprint"
      · simp only [if_neg mistaken, if_neg unique, if_pos shown]
      · simp only [if_neg mistaken, if_neg unique, if_neg shown]
        rfl

theorem render_unresolved_urlencode :
    (reference ⟨.operand (.path ⟨"nope", []⟩), [⟨"urlencode", .none⟩, ⟨"abs", .none⟩]⟩
      "\x7b\x7b nope | urlencode | abs \x7d\x7d" 0).renderThrough Filter.withFurther (fun _ => none) =
      .ok "\x7b\x7b nope | urlencode | abs \x7d\x7d" :=
  render_unresolved Filter.withFurther_table rfl rfl rfl rfl (by decide) [⟨"abs", .none⟩] _ 0

/-- A reference that leads nowhere can make a text fail. -/
theorem render_unresolved_abs : ∃ fragments, parse "\x7b\x7b nope | abs \x7d\x7d" = .ok fragments ∧
    renderAll (fun _ => none) fragments = .error (.misuse .wrongType) := by
  have parsed : parse "\x7b\x7b nope | abs \x7d\x7d" = .ok
      [.reference ⟨.operand (.path ⟨"nope", []⟩), [⟨"abs", .none⟩]⟩ "\x7b\x7b nope | abs \x7d\x7d" 0] := by
    decide +kernel
  exact ⟨_, parsed, rfl⟩

end Fragment
end Colloquy
