import Colloquy.Proofs.Fragment.Unresolved
import Colloquy.Proofs.Store.Forest

/-! What a text sees of a scope. The value of an expression depends on the names that it mentions and on nothing else
that is bound. So a text is rendered alike in any two scopes that agree on its names, whatever is around them, and a
scope may be flattened before a text is rendered in it. -/
namespace Colloquy

/-! ## Mentioned names -/

/-- The names that an operand looks up. -/
def Operand.mentions : Operand → List String
  | int _ | text _ => []
  | path p => [p.root]

/-- The names that arguments look up. -/
def Arguments.mentions (args : Arguments) : List String :=
  args.positional.flatMap Operand.mentions ++ args.keywords.flatMap fun keyword => keyword.2.mentions

/-- The names that the start of a pipeline looks up, the name of a call among them. -/
def Primary.mentions : Primary → List String
  | operand value => value.mentions
  | call name args => name :: args.mentions

/-- The names that an expression looks up. Filters are not looked up, but their arguments are. -/
def Expr.mentions (expr : Expr) : List String :=
  expr.base.mentions ++ expr.filters.flatMap fun call => call.args.mentions

/-- The names that a fragment looks up. -/
def Fragment.mentions : Fragment → List String
  | text _ => []
  | reference expr _ _ => expr.mentions

/-- Bindings that have the same values under some names. -/
def AgreeOn (names : List String) (first second : Bindings) : Prop := ∀ name ∈ names, first name = second name

/-! ## Evaluating with other functions

The functions that are bound and those that need not be are known by what they give for their arguments. What is shown
holds whatever they are, and whatever the filters are. -/

/-- What expressions are evaluated with: the filters, the functions that values are, and those that are there without
being bound. -/
structure Surroundings where
  filters : Filters
  called : Value → Option (Value.Given → Except Misuse Value)
  standard : String → Option (Value.Given → Except Misuse Value)

/-- The functions that are here, with the filters of a table. -/
def Surroundings.withFilters (filters : Filters) : Surroundings where
  filters := filters
  called
    | .function f => some f.call
    | _ => none
  standard := standardFunction?

variable (around : Surroundings) (bindings : Bindings)

/-- The function that a name calls: the one bound to it, else the standard one. -/
def Surroundings.functionOf (name : String) : Option (Value.Given → Except Misuse Value) :=
  ((bindings name).bind around.called).or (around.standard name)

/-- The value of the start of a pipeline. -/
def Primary.evalIn : Primary → Evaluated
  | operand value => .ok (value.eval bindings)
  | call name args =>
    match args.eval bindings, around.functionOf bindings name with
    | some given, some f => ofMisuse ((f given).map some)
    | _, _ => .ok none

/-- The value of an expression. -/
def Expr.evalIn (expr : Expr) : Evaluated :=
  match expr.base.evalIn around bindings with
  | .ok value => pipeThrough around.filters bindings value expr.filters
  | .error error => .error error

/-- The text of a fragment. -/
def Fragment.renderIn : Fragment → Except EvalError String
  | text s => .ok s
  | reference expr source _ => written source (expr.evalIn around bindings)

/-- The text of several fragments. -/
def renderAllIn : List Fragment → Except EvalError String
  | [] => .ok ""
  | fragment :: rest =>
    match fragment.renderIn around bindings with
    | .error error => .error error
    | .ok written => (renderAllIn rest).map (written ++ ·)

theorem functionOf_withFilters (filters : Filters) (name : String) :
    (Surroundings.withFilters filters).functionOf bindings name = functionOf bindings name := by
  unfold Surroundings.functionOf functionOf
  cases bindings name with
  | none => rfl
  | some value => cases value <;> rfl

theorem Expr.evalIn_withFilters (filters : Filters) (expr : Expr) :
    expr.evalIn (.withFilters filters) bindings = expr.evalThrough filters bindings := by
  have base : expr.base.evalIn (.withFilters filters) bindings = expr.base.eval bindings := by
    cases expr.base with
    | operand value => rfl
    | call name args =>
      rw [Primary.evalIn, functionOf_withFilters]
      rfl
  rw [evalIn, base]
  rfl

theorem Fragment.renderIn_withFilters (filters : Filters) (fragment : Fragment) :
    fragment.renderIn (.withFilters filters) bindings = fragment.renderThrough filters bindings := by
  cases fragment with
  | text s => rfl
  | reference expr source position => rw [renderIn, renderThrough, Expr.evalIn_withFilters]

/-- With the functions and the filters that are here a text is rendered as ever. -/
theorem renderAllIn_find (fragments : List Fragment) :
    renderAllIn (.withFilters Filter.find?) bindings fragments = renderAll bindings fragments := by
  induction fragments with
  | nil => rfl
  | cons fragment rest ih =>
    rw [renderAllIn, Fragment.renderIn_withFilters, Fragment.renderThrough_find, ih]
    rfl

/-! ## Agreement -/

section Agreement
variable {around : Surroundings} {first second : Bindings}

theorem agreeOn_append {names more : List String} :
    AgreeOn (names ++ more) first second ↔ AgreeOn names first second ∧ AgreeOn more first second :=
  List.forall_mem_append

theorem AgreeOn.each {α : Type} {parts : List α} {part : α} {names : α → List String}
    (agree : AgreeOn (parts.flatMap names) first second) (member : part ∈ parts) : AgreeOn (names part) first second :=
  fun name inside => agree name (List.mem_flatMap.mpr ⟨part, member, inside⟩)

theorem Operand.eval_congr {value : Operand} (agree : AgreeOn value.mentions first second) :
    value.eval first = value.eval second := by
  cases value with
  | path p =>
    have root := agree p.root (List.mem_singleton_self _)
    rw [Operand.eval, Operand.eval, Path.eval, Path.eval, root]
  | _ => rfl

theorem Arguments.eval_congr {args : Arguments} (agree : AgreeOn args.mentions first second) :
    args.eval first = args.eval second := by
  obtain ⟨unnamed, named⟩ := agreeOn_append.mp agree
  have positional : args.positional.map (Operand.eval first) = args.positional.map (Operand.eval second) :=
    List.map_congr_left fun value member => Operand.eval_congr (unnamed.each member)
  have keywords : (args.keywords.map fun keyword => (keyword.1, keyword.2.eval first)) =
      args.keywords.map fun keyword => (keyword.1, keyword.2.eval second) :=
    List.map_congr_left fun keyword member => congrArg (keyword.1, ·) (Operand.eval_congr (named.each member))
  rw [Arguments.eval, Arguments.eval, positional, keywords]

theorem pipeThrough_congr {filters : Filters} {calls : List FilterCall}
    (agree : AgreeOn (calls.flatMap fun call => call.args.mentions) first second) (subject : Option Value) :
    pipeThrough filters first subject calls = pipeThrough filters second subject calls := by
  induction calls generalizing subject with
  | nil => rfl
  | cons call rest ih =>
    obtain ⟨name, args⟩ := call
    obtain ⟨here, onward⟩ := agreeOn_append.mp agree
    have given : args.eval first = args.eval second := Arguments.eval_congr here
    simp only [pipeThrough, given, ih onward]

theorem Primary.evalIn_congr {base : Primary} (agree : AgreeOn base.mentions first second) :
    base.evalIn around first = base.evalIn around second := by
  cases base with
  | operand value => exact congrArg Except.ok (Operand.eval_congr agree)
  | call name args =>
    obtain ⟨called, arguments⟩ := List.forall_mem_cons.mp agree
    have function : around.functionOf first name = around.functionOf second name := by
      rw [Surroundings.functionOf, Surroundings.functionOf, called]
    rw [Primary.evalIn, Primary.evalIn, function, Arguments.eval_congr arguments]

theorem Expr.evalIn_congr {expr : Expr} (agree : AgreeOn expr.mentions first second) :
    expr.evalIn around first = expr.evalIn around second := by
  obtain ⟨start, onward⟩ := agreeOn_append.mp agree
  simp only [Expr.evalIn, Primary.evalIn_congr start, pipeThrough_congr onward]

theorem Fragment.renderIn_congr {fragment : Fragment} (agree : AgreeOn fragment.mentions first second) :
    fragment.renderIn around first = fragment.renderIn around second := by
  cases fragment with
  | text s => rfl
  | reference expr source position => exact congrArg (written source) (Expr.evalIn_congr agree)

/-- A text is rendered alike under bindings that agree on the names in it. -/
theorem renderAllIn_congr {fragments : List Fragment}
    (agree : AgreeOn (fragments.flatMap Fragment.mentions) first second) :
    renderAllIn around first fragments = renderAllIn around second fragments := by
  induction fragments with
  | nil => rfl
  | cons fragment rest ih =>
    obtain ⟨here, onward⟩ := agreeOn_append.mp agree
    rw [renderAllIn, renderAllIn, Fragment.renderIn_congr here, ih onward]

end Agreement

/-! ## Scopes -/

/-- A scope that is opened inside no other one, with what a scope sees, sees the same. -/
theorem Store.Follows.lookup_flattened {steps : List ScopeStep} {store : Store} {scope : Nat}
    (follows : store.Follows steps) (inside : scope < store.scopes.length) (name : String) :
    (store.openScope none (store.flatten scope)).2.lookup store.scopes.length name = store.lookup scope name :=
  (openScope_lookup_alone ..).trans (follows.flatten_get? inside name)

/-- Rendering sees only what a text names. Bindings that agree on the names that are mentioned give the same text or the
same error, and so do two scopes in which these names are looked up alike. A scope can be replaced by one that is inside
no other and holds the flat view of it, however the values under its names are seen. -/
theorem rendering_sees (around : Surroundings) (fragments : List Fragment) :
    (∀ first second, AgreeOn (fragments.flatMap Fragment.mentions) first second →
      renderAllIn around first fragments = renderAllIn around second fragments) ∧
    (∀ (store : Store) (first second : Nat),
      (∀ name ∈ fragments.flatMap Fragment.mentions, store.lookup first name = store.lookup second name) →
        renderAllIn around (store.valueOf first) fragments = renderAllIn around (store.valueOf second) fragments) ∧
    (∀ steps store scope flat after, Forest steps store → scope < store.scopes.length →
      store.openScope none (store.flatten scope) = (flat, after) →
        renderAllIn around (after.valueOf flat) fragments = renderAllIn around (after.valueOf scope) fragments ∧
        ∀ view : Item → Value, renderAllIn around (fun name => (after.lookup flat name).map view) fragments =
          renderAllIn around (fun name => (store.lookup scope name).map view) fragments) ∧
    ∀ bindings, renderAllIn (.withFilters Filter.find?) bindings fragments = renderAll bindings fragments := by
  have seen (store : Store) (first second : Nat)
      (alike : ∀ name ∈ fragments.flatMap Fragment.mentions, store.lookup first name = store.lookup second name) :
      renderAllIn around (store.valueOf first) fragments = renderAllIn around (store.valueOf second) fragments :=
    renderAllIn_congr fun name member => congrArg (Option.map store.view) (alike name member)
  refine ⟨fun first second => renderAllIn_congr, seen, ?_, fun bindings => renderAllIn_find bindings fragments⟩
  rintro steps store scope flat after forest inside ⟨rfl, rfl⟩
  have follows := Store.follows_of_forest forest
  have flattened := follows.lookup_flattened inside
  have kept := Store.openScope_lookup_before store (store.flatten scope) none (follows.chain_inside inside)
  constructor
  · exact seen _ _ _ fun name _ => (flattened name).trans (kept name).symm
  · exact fun view => renderAllIn_congr fun name _ => congrArg (Option.map view) (flattened name)

/-- A call whose function is bound further out than its argument, in a scope of a scope and in the flat view of it. What
is bound under other names does not matter. -/
theorem rendering_sees_call : ∃ steps store fragments flat after,
    Fragment.parse "\x7b\x7b greet $who | upper \x7d\x7d" = .ok fragments ∧
    Forest steps store ∧ 1 < store.scopes.length ∧ store.openScope none (store.flatten 1) = (flat, after) ∧
    renderAllIn (.withFilters Filter.find?) (after.valueOf flat) fragments =
      renderAllIn (.withFilters Filter.find?) (after.valueOf 1) fragments ∧
    renderAllIn (.withFilters Filter.find?) (fun name => if name = "who" then some (.text "Ada") else none) fragments =
      renderAllIn (.withFilters Filter.find?) (fun name =>
        if name = "who" then some (.text "Ada") else if name = "topic" then some .null else none) fragments := by
  have parsed : Fragment.parse "\x7b\x7b greet $who | upper \x7d\x7d" =
      .ok [.reference ⟨.call "greet" ⟨[.path ⟨"who", []⟩], []⟩, [⟨"upper", .none⟩]⟩
        "\x7b\x7b greet $who | upper \x7d\x7d" 0] := by decide +kernel
  have root : Forest [.opened none [("greet", .leaf (.function .shout))]]
      (Store.empty.openScope none [("greet", .leaf (.function .shout))]).2 := .opened (.start rfl) nofun (by decide)
  have forest := @Forest.opened _ _ (some 0) [("who", .leaf (.text "Ada"))] root (by rintro id ⟨⟩; decide) (by decide)
  obtain ⟨alike, -, flat, -⟩ := rendering_sees (.withFilters Filter.find?) [.reference
    ⟨.call "greet" ⟨[.path ⟨"who", []⟩], []⟩, [⟨"upper", .none⟩]⟩ "\x7b\x7b greet $who | upper \x7d\x7d" 0]
  refine ⟨_, _, _, _, _, parsed, forest, by decide, rfl, (flat _ _ 1 _ _ forest (by decide) rfl).1, alike _ _ ?_⟩
  intro name member
  rcases List.mem_cons.mp member with rfl | member
  · rfl
  · rw [List.mem_singleton.mp member]
    rfl

end Colloquy
