import Colloquy.Proofs.Fragment.Mentions
import Colloquy.Proofs.Value.Location

/-! Calls in expressions. A function of the host may do more than give a value, so it matters whether it is called, how
often, and what with. Expressions are evaluated here with a host whose functions and filters change a state of any kind;
those that only give values are a case of it. A call that cannot be made leaves the state alone, and any other changes it
as one call of one function does, with the arguments that count. -/
namespace Colloquy

/-! ## Arguments that count -/

namespace Arguments

/-- The arguments that a call is made with: those by position in order, and of each keyword the last operand, the keywords
in the order in which they first appear. -/
def effective (args : Arguments) : Arguments :=
  ⟨args.positional, (Fields.names args.keywords).eraseDups.filterMap fun name =>
    (Fields.last? args.keywords name).map (name, ·)⟩

/-- All operands of both kinds. -/
def operands (args : Arguments) : List Operand := args.positional ++ args.keywords.map Prod.snd

/-- Every operand has a value, and these are the values in their order and under their keywords. -/
structure Yields (bindings : Bindings) (args : Arguments) (given : Value.Given) : Prop where
  positional : List.Forall₂ (fun operand value => operand.eval bindings = some value) args.positional given.positional
  keywords : List.Forall₂ (fun keyword named => keyword.1 = named.1 ∧ keyword.2.eval bindings = some named.2)
    args.keywords given.keywords

end Arguments

section Present
variable {α β : Type} {f : α → Option β} {items : List α}

theorem allPresent_eq_some_iff {values : List β} :
    allPresent (items.map f) = some values ↔ List.Forall₂ (fun item value => f item = some value) items values := by
  induction items generalizing values with
  | nil =>
    cases values with
    | nil => exact ⟨fun _ => .nil, fun _ => rfl⟩
    | cons value rest => exact ⟨nofun, nofun⟩
  | cons item rest ih =>
    cases here : f item with
    | none => simp [allPresent, here, List.forall₂_cons_left_iff]
    | some value => simp [allPresent, here, ih, List.forall₂_cons_left_iff, eq_comm]

theorem allPresent_eq_none_iff : allPresent (items.map f) = none ↔ ∃ item ∈ items, f item = none := by
  induction items with
  | nil => simp [allPresent]
  | cons item rest ih => cases here : f item <;> simp [allPresent, here, ih]

/-- Named values are present as the values that carry their names. -/
theorem allNamedPresent_eq (entries : List (String × Option α)) :
    allNamedPresent entries = allPresent (entries.map fun entry => entry.2.map (entry.1, ·)) := by
  induction entries with
  | nil => rfl
  | cons entry rest ih =>
    obtain ⟨name, value⟩ := entry
    cases value with
    | none => rfl
    | some value => simp [allNamedPresent, allPresent, ih]

end Present

namespace Arguments
variable {bindings : Bindings} {args : Arguments}

/-- Of the keywords as they are written only those that count are evaluated. -/
theorem effective_keywords (bindings : Bindings) (args : Arguments) :
    Fields.ofPairs (args.keywords.map fun keyword => (keyword.1, keyword.2.eval bindings)) =
      args.effective.keywords.map fun keyword => (keyword.1, keyword.2.eval bindings) := by
  have names : Fields.names (args.keywords.map fun keyword => (keyword.1, keyword.2.eval bindings)) =
      Fields.names args.keywords := by simp [Fields.names, Function.comp_def]
  rw [Fields.ofPairs_eq, names, effective, List.map_filterMap]
  refine List.filterMap_congr fun name _ => ?_
  rw [Fields.last?_map, Option.map_map, Option.map_map]
  rfl

/-- The values of arguments are those of the arguments that count. -/
theorem eval_eq (bindings : Bindings) (args : Arguments) : args.eval bindings =
    (allPresent (args.effective.positional.map fun operand => operand.eval bindings)).bind fun positional =>
      (allPresent (args.effective.keywords.map fun keyword => (keyword.2.eval bindings).map (keyword.1, ·))).map fun
        keywords => ⟨positional, keywords⟩ := by
  have keywords : allNamedPresent (Fields.ofPairs (args.keywords.map fun keyword =>
      (keyword.1, keyword.2.eval bindings))) =
        allPresent (args.effective.keywords.map fun keyword => (keyword.2.eval bindings).map (keyword.1, ·)) := by
    rw [effective_keywords, allNamedPresent_eq, List.map_map]
    rfl
  unfold eval
  rw [keywords]
  cases allPresent (args.effective.keywords.map fun keyword => (keyword.2.eval bindings).map (keyword.1, ·)) <;> rfl

theorem eval_eq_some_iff {given : Value.Given} : args.eval bindings = some given ↔ args.effective.Yields bindings given := by
  have named (keyword : String × Operand) (value : String × Value) :
      (keyword.2.eval bindings).map (keyword.1, ·) = some value ↔
        keyword.1 = value.1 ∧ keyword.2.eval bindings = some value.2 := by
    rw [Option.map_eq_some_iff]
    constructor
    · rintro ⟨found, evaluated, rfl⟩
      exact ⟨rfl, evaluated⟩
    · rintro ⟨same, evaluated⟩
      exact ⟨value.2, evaluated, Prod.ext same rfl⟩
  simp only [eval_eq, Option.bind_eq_some_iff, Option.map_eq_some_iff, allPresent_eq_some_iff, named]
  constructor
  · rintro ⟨positional, unnamed, keywords, inOrder, rfl⟩
    exact ⟨unnamed, inOrder⟩
  · rintro ⟨unnamed, inOrder⟩
    exact ⟨given.positional, unnamed, given.keywords, inOrder, rfl⟩

theorem eval_eq_none_iff : args.eval bindings = Option.none ↔
    ∃ operand ∈ args.effective.operands, operand.eval bindings = Option.none := by
  have either {α β γ : Type} (first : Option α) (second : Option β) (f : α → β → γ) :
      (first.bind fun a => second.map (f a)) = Option.none ↔ first = Option.none ∨ second = Option.none := by
    cases first <;> cases second <;> simp
  rw [eval_eq, either, allPresent_eq_none_iff, allPresent_eq_none_iff]
  constructor
  · rintro (⟨operand, member, unbound⟩ | ⟨keyword, member, unbound⟩)
    · exact ⟨operand, List.mem_append_left _ member, unbound⟩
    · exact ⟨keyword.2, List.mem_append_right _ (List.mem_map_of_mem member), Option.map_eq_none_iff.mp unbound⟩
  · rintro ⟨operand, member, unbound⟩
    rcases List.mem_append.mp member with member | member
    · exact .inl ⟨operand, member, unbound⟩
    · obtain ⟨keyword, inside, rfl⟩ := List.mem_map.mp member
      exact .inr ⟨keyword, inside, Option.map_eq_none_iff.mpr unbound⟩

end Arguments

/-! ## Evaluating with a host -/

/-- What functions and filters do: for what they are given they give an outcome, and they change a state. -/
abbrev Deed (σ : Type) := Value.Given → σ → Filtered × σ

/-- What expressions are evaluated with: the filters, the functions that values are, and those that are there without
being bound. All of them may change a state. -/
structure Host (σ : Type) where
  filters : String → Option (Option Value → Deed σ)
  called : Value → Option (Deed σ)
  standard : String → Option (Deed σ)

/-- A host that only gives values. -/
def Surroundings.host (around : Surroundings) (σ : Type) : Host σ where
  filters name := (around.filters name).map fun filter subject given state =>
    (filter.apply subject given.positional given.keywords, state)
  called value := (around.called value).map fun f given state => ((f given).map some, state)
  standard name := (around.standard name).map fun f given state => ((f given).map some, state)

section Host
variable {σ : Type} (host : Host σ) (bindings : Bindings)

/-- The function that a name calls: the one bound to it, else the standard one. -/
def Host.functionOf (name : String) : Option (Deed σ) := ((bindings name).bind host.called).or (host.standard name)

/-- The value of the start of a pipeline. -/
def Primary.evalOn (state : σ) : Primary → Evaluated × σ
  | operand value => (.ok (value.eval bindings), state)
  | call name args =>
    match args.eval bindings, host.functionOf bindings name with
    | some given, some f => let (outcome, after) := f given state; (ofMisuse outcome, after)
    | _, _ => (.ok none, state)

/-- Passes a value, or the lack of one, through filters. -/
def pipeOn (subject : Option Value) (state : σ) : List FilterCall → Evaluated × σ
  | [] => (.ok subject, state)
  | ⟨name, args⟩ :: rest =>
    match host.filters name with
    | none => (.error (.unknownFilter name), state)
    | some filter =>
      match args.eval bindings with
      | none => (.ok none, state)
      | some given =>
        match filter subject given state with
        | (.ok value, after) => pipeOn value after rest
        | (.error .undefined, after) => (.ok none, after)
        | (.error cause, after) => (.error (.misuse cause), after)

/-- The value of an expression. -/
def Expr.evalOn (state : σ) (expr : Expr) : Evaluated × σ :=
  match expr.base.evalOn host bindings state with
  | (.ok value, after) => pipeOn host bindings value after expr.filters
  | (.error error, after) => (.error error, after)

end Host

section Pure
variable {σ : Type} (around : Surroundings) (bindings : Bindings)

theorem Surroundings.host_functionOf (name : String) : (around.host σ).functionOf bindings name =
    (around.functionOf bindings name).map fun f given state => ((f given).map some, state) := by
  unfold Host.functionOf functionOf
  cases bindings name with
  | none => rfl
  | some value =>
    change ((around.called value).map _).or ((around.standard name).map _) = _
    cases called : around.called value <;> simp [called]

theorem pipeOn_host (subject : Option Value) (state : σ) (calls : List FilterCall) :
    pipeOn (around.host σ) bindings subject state calls = (pipeThrough around.filters bindings subject calls, state) := by
  induction calls generalizing subject with
  | nil => rfl
  | cons call rest ih =>
    obtain ⟨name, args⟩ := call
    simp only [pipeOn, pipeThrough, Surroundings.host]
    cases around.filters name with
    | none => rfl
    | some filter =>
      simp only [Option.map_some]
      cases args.eval bindings with
      | none => rfl
      | some given =>
        dsimp only
        cases filter.apply subject given.positional given.keywords with
        | ok value => exact ih value
        | error cause => cases cause <;> rfl

/-- A host that only gives values leaves its state alone, and an expression has the value that it has. -/
theorem Expr.evalOn_host (state : σ) (expr : Expr) :
    expr.evalOn (around.host σ) bindings state = (expr.evalIn around bindings, state) := by
  have base : expr.base.evalOn (around.host σ) bindings state = (expr.base.evalIn around bindings, state) := by
    cases expr.base with
    | operand value => rfl
    | call name args =>
      rw [Primary.evalOn, Primary.evalIn, around.host_functionOf]
      cases args.eval bindings with
      | none => rfl
      | some given => cases around.functionOf bindings name <;> rfl
  rw [evalOn, evalIn, base]
  cases expr.base.evalIn around bindings with
  | ok value => exact pipeOn_host around bindings value state expr.filters
  | error error => rfl

/-- With the functions and the filters that are here an expression is evaluated as ever. -/
theorem Expr.evalOn_find (bindings : Bindings) (state : σ) (expr : Expr) :
    expr.evalOn ((Surroundings.withFilters Filter.find?).host σ) bindings state = (expr.eval bindings, state) := by
  rw [evalOn_host, evalIn_withFilters, evalThrough_find]

end Pure

/-! ## Calls -/

section Calls
variable {σ : Type} {host : Host σ} {bindings : Bindings} {name : String} {args : Arguments}

/-- What a name calls: the function bound to it, if its innermost value is one, and the standard one otherwise. -/
inductive Host.Calls (host : Host σ) (bindings : Bindings) (name : String) : Deed σ → Prop
  | bound {value : Value} {f : Deed σ} (bound : bindings name = some value) (callable : host.called value = some f) :
      Calls host bindings name f
  | standard {f : Deed σ} (uncallable : ∀ value, bindings name = some value → host.called value = none)
      (standard : host.standard name = some f) : Calls host bindings name f

/-- What comes of a call: nothing, if an argument that counts has no value or the name calls nothing; else what one call
of the function does that is given the values of the arguments that count. -/
inductive Invoked (host : Host σ) (bindings : Bindings) (name : String) (args : Arguments) (state : σ) :
    Evaluated → σ → Prop
  | unbound {operand : Operand} (counts : operand ∈ args.effective.operands) (unbound : operand.eval bindings = none) :
      Invoked host bindings name args state (.ok none) state
  | uncallable (nothing : ∀ f, ¬ host.Calls bindings name f) : Invoked host bindings name args state (.ok none) state
  | invoked {given : Value.Given} {f : Deed σ} {outcome : Filtered} {after : σ}
      (yields : args.effective.Yields bindings given) (calls : host.Calls bindings name f)
      (does : f given state = (outcome, after)) : Invoked host bindings name args state (ofMisuse outcome) after

theorem Host.functionOf_eq_some_iff {f : Deed σ} :
    host.functionOf bindings name = some f ↔ host.Calls bindings name f := by
  unfold functionOf
  constructor
  · intro found
    cases bound : bindings name with
    | none =>
      rw [bound] at found
      exact .standard (by simp [bound]) found
    | some value =>
      rw [bound, Option.bind_some] at found
      cases callable : host.called value with
      | none =>
        rw [callable] at found
        exact .standard (by simp [bound, callable]) found
      | some g =>
        rw [callable] at found
        cases found
        exact .bound bound callable
  · intro calls
    cases calls with
    | bound bound callable => simp [bound, callable]
    | standard uncallable standard =>
      rw [Option.bind_eq_none_iff.mpr uncallable]
      exact standard

/-- Evaluating a call has the listed outcomes. -/
theorem evalOn_call (host : Host σ) (bindings : Bindings) (name : String) (args : Arguments) (state : σ) :
    Invoked host bindings name args state (Expr.evalOn host bindings state ⟨.call name args, []⟩).1
      (Expr.evalOn host bindings state ⟨.call name args, []⟩).2 := by
  simp only [Expr.evalOn, Primary.evalOn]
  cases spelled : args.eval bindings with
  | none =>
    obtain ⟨operand, counts, unbound⟩ := Arguments.eval_eq_none_iff.mp spelled
    exact .unbound counts unbound
  | some given =>
    cases found : host.functionOf bindings name with
    | none =>
      refine .uncallable fun f calls => ?_
      rw [Host.functionOf_eq_some_iff.mpr calls] at found
      cases found
    | some f =>
      have yields := Arguments.eval_eq_some_iff.mp spelled
      have calls := Host.functionOf_eq_some_iff.mp found
      cases does : f given state with
      | mk outcome after =>
        dsimp only
        rw [does]
        cases outcome <;> exact .invoked yields calls does

theorem Invoked.evalOn {state after : σ} {result : Evaluated} (invoked : Invoked host bindings name args state result after) :
    Expr.evalOn host bindings state ⟨.call name args, []⟩ = (result, after) := by
  simp only [Expr.evalOn, Primary.evalOn]
  cases invoked with
  | unbound counts unbound =>
    rw [Arguments.eval_eq_none_iff.mpr ⟨_, counts, unbound⟩]
    rfl
  | uncallable nothing =>
    -- Whether the arguments have values does not matter then.
    have none : host.functionOf bindings name = none :=
      Option.eq_none_iff_forall_ne_some.mpr fun f found => nothing f (Host.functionOf_eq_some_iff.mp found)
    rw [none]
    cases args.eval bindings <;> rfl
  | @invoked given f outcome after yields calls does =>
    rw [Arguments.eval_eq_some_iff.mpr yields, Host.functionOf_eq_some_iff.mpr calls]
    dsimp only
    rw [does]
    cases outcome <;> rfl

/-- A call invokes one function once, the one in the innermost binding of its name or else the standard one, with exactly
the arguments that count, and has its outcome; or it invokes none and has no value. -/
theorem call_invokes (host : Host σ) (bindings : Bindings) (name : String) (args : Arguments) (state : σ) :
    (∀ result after, Expr.evalOn host bindings state ⟨.call name args, []⟩ = (result, after) ↔
      Invoked host bindings name args state result after) ∧
    (∀ (store : Store) (scope : Nat) (value : Value), store.valueOf scope name = some value ↔
      ∃ item, store.Innermost scope name item ∧ store.view item = value) ∧
    ∀ expr : Expr, expr.evalOn ((Surroundings.withFilters Filter.find?).host σ) bindings state =
      (expr.eval bindings, state) := by
  refine ⟨fun result after => ⟨fun evaluated => ?_, Invoked.evalOn⟩, fun _ _ _ => Store.valueOf_eq_some_iff,
    fun expr => expr.evalOn_find bindings state⟩
  have invoked := evalOn_call host bindings name args state
  rwa [evaluated] at invoked

/-- An operand that a later one of its keyword overrides does not count, and a value that is no function hides none. -/
example : Expr.eval (fun name => if name = "dict" then some .null else none)
    ⟨.call "dict" ⟨[], [("mark", .path ⟨"nope", []⟩), ("mark", .int 1)]⟩, []⟩ =
      .ok (some (.mapping [("mark", .int 1)])) := by rfl

end Calls
end Colloquy
