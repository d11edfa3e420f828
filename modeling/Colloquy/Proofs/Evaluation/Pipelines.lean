import Colloquy.Proofs.Evaluation.Calls

/-! Pipelines stage by stage. A stage is applied to what the one before it left, which may be no value at all, until one
cannot be; that one ends the pipeline, and those after it do nothing. A value on its way may therefore be bound to a name
in between, and the rest of the pipeline be evaluated where it is bound. -/
namespace Colloquy

/-- Bindings inside others that have one name of their own. -/
structure Bindings.Shadows (inner outer : Bindings) (name : String) (value : Value) : Prop where
  own : inner name = some value
  others : ∀ other, other ≠ name → inner other = outer other

/-- What filters give depends only on what they are given. -/
def Host.Functional {σ : Type} (host : Host σ) : Prop :=
  ∀ name filter, host.filters name = some filter → ∀ subject given (first second : σ),
    (filter subject given first).1 = (filter subject given second).1

section Stages
variable {σ : Type} (host : Host σ) (bindings : Bindings)

/-- A stage is applied: its filter exists, the arguments that count have values, and the filter does not fail. It may be
applied to no value, and leave none. -/
inductive Applies (subject : Option Value) (state : σ) (call : FilterCall) : Option Value → σ → Prop
  | applied {filter : Option Value → Deed σ} {given : Value.Given} {value : Option Value} {after : σ}
      (known : host.filters call.name = some filter) (yields : call.args.effective.Yields bindings given)
      (gives : filter subject given state = (.ok value, after)) : Applies subject state call value after

/-- A stage ends a pipeline. Its filter does not exist, which is an error even where an argument has no value; or an
argument that counts has none; or the filter fails, for want of a value or otherwise. -/
inductive Stops (subject : Option Value) (state : σ) (call : FilterCall) : Evaluated → σ → Prop
  | unknown (unknown : host.filters call.name = none) : Stops subject state call (.error (.unknownFilter call.name)) state
  | unbound {filter : Option Value → Deed σ} {operand : Operand} (known : host.filters call.name = some filter)
      (counts : operand ∈ call.args.effective.operands) (unbound : operand.eval bindings = none) :
      Stops subject state call (.ok none) state
  | undefined {filter : Option Value → Deed σ} {given : Value.Given} {after : σ}
      (known : host.filters call.name = some filter) (yields : call.args.effective.Yields bindings given)
      (fails : filter subject given state = (.error .undefined, after)) : Stops subject state call (.ok none) after
  | misused {filter : Option Value → Deed σ} {given : Value.Given} {cause : Misuse} {after : σ}
      (known : host.filters call.name = some filter) (yields : call.args.effective.Yields bindings given)
      (fails : filter subject given state = (.error cause, after)) (defined : cause ≠ .undefined) :
      Stops subject state call (.error (.misuse cause)) after

/-- Stages are applied one after the other, each to what the one before it left. -/
inductive Passes : Option Value → σ → List FilterCall → Option Value → σ → Prop
  | done (subject : Option Value) (state : σ) : Passes subject state [] subject state
  | onward {subject middle value : Option Value} {state between after : σ} {call : FilterCall} {rest : List FilterCall}
      (applies : Applies host bindings subject state call middle between) (passes : Passes middle between rest value after) :
      Passes subject state (call :: rest) value after

/-- What comes of a pipeline. A start that fails fails the whole. Else the stages are applied in turn, all of them, and
what the last one leaves is the result, be it a value or none; or up to a first one that ends the pipeline, whatever the
stages after it are. -/
inductive Flows (state : σ) (base : Primary) (calls : List FilterCall) : Evaluated → σ → Prop
  | failed {error : EvalError} {after : σ} (fails : base.evalOn host bindings state = (.error error, after)) :
      Flows state base calls (.error error) after
  | through {start value : Option Value} {between after : σ}
      (starts : base.evalOn host bindings state = (.ok start, between))
      (passes : Passes host bindings start between calls value after) : Flows state base calls (.ok value) after
  | stopped {start subject : Option Value} {between there after : σ} {early late : List FilterCall} {call : FilterCall}
      {result : Evaluated} (starts : base.evalOn host bindings state = (.ok start, between))
      (split : calls = early ++ call :: late) (passes : Passes host bindings start between early subject there)
      (stops : Stops host bindings subject there call result after) : Flows state base calls result after

end Stages

section Pipelines
variable {σ : Type} {host : Host σ} {bindings : Bindings} {subject value : Option Value} {state after : σ}
variable {call : FilterCall} {calls early late : List FilterCall} {result : Evaluated}

/-! ## One stage -/

/-- Every stage is applied or ends the pipeline. -/
theorem stage_cases (host : Host σ) (bindings : Bindings) (subject : Option Value) (state : σ) (call : FilterCall) :
    (∃ value after, Applies host bindings subject state call value after) ∨
      ∃ result after, Stops host bindings subject state call result after := by
  -- The filter is looked for before the arguments are evaluated, so an unknown one is an error in any case.
  cases known : host.filters call.name with
  | none => exact .inr ⟨_, _, .unknown known⟩
  | some filter =>
    cases spelled : call.args.eval bindings with
    | none =>
      obtain ⟨operand, counts, unbound⟩ := Arguments.eval_eq_none_iff.mp spelled
      exact .inr ⟨_, _, .unbound known counts unbound⟩
    | some given =>
      have yields := Arguments.eval_eq_some_iff.mp spelled
      cases does : filter subject given state with
      | mk outcome after =>
        cases outcome with
        | ok value => exact .inl ⟨value, after, .applied known yields does⟩
        | error cause =>
          by_cases undefined : cause = .undefined
          · subst undefined
            exact .inr ⟨_, _, .undefined known yields does⟩
          · exact .inr ⟨_, _, .misused known yields does undefined⟩

theorem Applies.pipeOn (applies : Applies host bindings subject state call value after) (late : List FilterCall) :
    pipeOn host bindings subject state (call :: late) = pipeOn host bindings value after late := by
  obtain ⟨name, args⟩ := call
  cases applies with
  | applied known yields gives =>
    dsimp only at known yields
    simp only [Colloquy.pipeOn, known, Arguments.eval_eq_some_iff.mpr yields, gives]

theorem Stops.pipeOn (stops : Stops host bindings subject state call result after) (late : List FilterCall) :
    pipeOn host bindings subject state (call :: late) = (result, after) := by
  obtain ⟨name, args⟩ := call
  cases stops with
  | unknown unknown =>
    dsimp only at unknown
    simp only [Colloquy.pipeOn, unknown]
  | unbound known counts unbound =>
    dsimp only at known counts
    simp only [Colloquy.pipeOn, known, Arguments.eval_eq_none_iff.mpr ⟨_, counts, unbound⟩]
  | undefined known yields fails =>
    dsimp only at known yields
    simp only [Colloquy.pipeOn, known, Arguments.eval_eq_some_iff.mpr yields, fails]
  | @misused filter given cause _ known yields fails defined =>
    dsimp only at known yields
    simp only [Colloquy.pipeOn, known, Arguments.eval_eq_some_iff.mpr yields, fails]

/-- A stage that ends a pipeline leaves no value. -/
theorem Stops.ne_some (stops : Stops host bindings subject state call result after) (value : Value) :
    result ≠ .ok (some value) := by
  cases stops <;> nofun

/-! ## Stages in turn -/

theorem Passes.pipeOn (passes : Passes host bindings subject state early value after) (late : List FilterCall) :
    pipeOn host bindings subject state (early ++ late) = pipeOn host bindings value after late := by
  induction passes with
  | done => rfl
  | onward applies _ ih => exact (applies.pipeOn _).trans ih

theorem Passes.pipeOn_all (passes : Passes host bindings subject state calls value after) :
    Colloquy.pipeOn host bindings subject state calls = (.ok value, after) := by
  have all := passes.pipeOn []
  rwa [List.append_nil] at all

/-- All stages are applied, or all before one that ends the pipeline. -/
theorem passes_or_stops (host : Host σ) (bindings : Bindings) (subject : Option Value) (state : σ)
    (calls : List FilterCall) : (∃ value after, Passes host bindings subject state calls value after) ∨
      ∃ early call late value there result after, calls = early ++ call :: late ∧
        Passes host bindings subject state early value there ∧ Stops host bindings value there call result after := by
  -- On the stages, for every subject: a stage is applied to what those before it left.
  induction calls generalizing subject state with
  | nil => exact .inl ⟨_, _, .done subject state⟩
  | cons call rest ih =>
    rcases stage_cases host bindings subject state call with ⟨middle, between, applies⟩ | ⟨result, after, stops⟩
    · rcases ih middle between with ⟨value, after, passes⟩ | ⟨early, last, late, value, there, _, _, rfl, passes, stops⟩
      · exact .inl ⟨value, after, .onward applies passes⟩
      · exact .inr ⟨call :: early, last, late, value, there, _, _, rfl, .onward applies passes, stops⟩
    · exact .inr ⟨[], call, rest, subject, state, result, after, rfl, .done subject state, stops⟩

/-- A pipeline that gives a value has applied all its stages. -/
theorem passes_of_some {found : Value} (piped : pipeOn host bindings subject state calls = (.ok (some found), after)) :
    Passes host bindings subject state calls (some found) after := by
  rcases passes_or_stops host bindings subject state calls with
    ⟨value, there, passes⟩ | ⟨early, call, late, value, there, result, last, rfl, passes, stops⟩
  · rw [passes.pipeOn_all] at piped
    cases piped
    exact passes
  · rw [passes.pipeOn, stops.pipeOn] at piped
    cases piped
    exact absurd rfl (stops.ne_some found)

/-- Evaluating a pipeline has the listed outcomes. -/
theorem evalOn_flows (host : Host σ) (bindings : Bindings) (state : σ) (base : Primary) (calls : List FilterCall) :
    Flows host bindings state base calls (Expr.evalOn host bindings state ⟨base, calls⟩).1
      (Expr.evalOn host bindings state ⟨base, calls⟩).2 := by
  cases started : base.evalOn host bindings state with
  | mk outcome between =>
    simp only [Expr.evalOn, started]
    cases outcome with
    | error error => exact .failed started
    | ok start =>
      dsimp only
      rcases passes_or_stops host bindings start between calls with
        ⟨value, after, passes⟩ | ⟨early, call, late, value, there, result, after, rfl, passes, stops⟩
      · rw [passes.pipeOn_all]
        exact .through started passes
      · rw [passes.pipeOn, stops.pipeOn]
        exact .stopped started rfl passes stops

theorem Flows.evalOn {base : Primary} (flows : Flows host bindings state base calls result after) :
    Expr.evalOn host bindings state ⟨base, calls⟩ = (result, after) := by
  cases flows with
  | failed fails => simp only [Expr.evalOn, fails]
  | through starts passes => simp only [Expr.evalOn, starts, passes.pipeOn_all]
  | stopped starts split passes stops => simp only [Expr.evalOn, starts, split, passes.pipeOn, stops.pipeOn]

/-! ## Evaluating the rest elsewhere -/

theorem pipeOn_congr {first second : Bindings} (agree : AgreeOn (calls.flatMap fun call => call.args.mentions) first second)
    (subject : Option Value) (state : σ) :
    pipeOn host first subject state calls = pipeOn host second subject state calls := by
  induction calls generalizing subject state with
  | nil => rfl
  | cons call rest ih =>
    obtain ⟨name, args⟩ := call
    obtain ⟨here, onward⟩ := agreeOn_append.mp agree
    have given : args.eval first = args.eval second := Arguments.eval_congr here
    simp only [pipeOn, given, ih onward]

/-- With filters that depend only on what they are given, so does what a pipeline gives. -/
theorem pipeOn_functional (functional : host.Functional) (subject : Option Value) (first second : σ) :
    (pipeOn host bindings subject first calls).1 = (pipeOn host bindings subject second calls).1 := by
  induction calls generalizing subject first second with
  | nil => rfl
  | cons call rest ih =>
    obtain ⟨name, args⟩ := call
    simp only [pipeOn]
    cases known : host.filters name with
    | none => rfl
    | some filter =>
      cases args.eval bindings with
      | none => rfl
      | some given =>
        have same := functional name filter known subject given first second
        dsimp only
        cases here : filter subject given first with
        | mk outcome after =>
          cases there : filter subject given second with
          | mk other later =>
            rw [here, there] at same
            cases same
            cases outcome with
            | ok value => exact ih value after later
            | error cause => cases cause <;> rfl

/-- A name that has a value of its own is a pipeline's start like any other. -/
theorem Bindings.Shadows.evalOn {inner : Bindings} {name : String} {found : Value}
    (shadows : inner.Shadows bindings name found) (absent : name ∉ calls.flatMap fun call => call.args.mentions)
    (state : σ) : Expr.evalOn host inner state ⟨.operand (.path ⟨name, []⟩), calls⟩ =
      pipeOn host bindings (some found) state calls := by
  have agree : AgreeOn (calls.flatMap fun call => call.args.mentions) inner bindings :=
    fun other member => shadows.others other fun same => absent (same ▸ member)
  have start : Operand.eval inner (.path ⟨name, []⟩) = some found := by
    rw [Operand.eval, Path.eval, shadows.own]
    rfl
  rw [Expr.evalOn, Primary.evalOn, start]
  exact pipeOn_congr agree _ state

/-- A pipeline that gives a value goes on from it. -/
theorem evalOn_append {base : Primary} {found : Value}
    (evaluated : Expr.evalOn host bindings state ⟨base, calls⟩ = (.ok (some found), after)) (late : List FilterCall) :
    Expr.evalOn host bindings state ⟨base, calls ++ late⟩ = pipeOn host bindings (some found) after late := by
  simp only [Expr.evalOn] at evaluated ⊢
  cases started : base.evalOn host bindings state with
  | mk outcome between =>
    rw [started] at evaluated
    cases outcome with
    | error error => cases evaluated
    | ok start => exact (passes_of_some evaluated).pipeOn late

/-- What filters that only give values give depends on nothing else. -/
theorem Surroundings.host_functional (around : Surroundings) : (around.host σ).Functional := by
  intro name filter known subject given first second
  obtain ⟨plain, -, rfl⟩ := Option.map_eq_some_iff.mp known
  rfl

/-- A child scope with one binding shadows one name. -/
theorem Store.openScope_shadows (store : Store) {scope : Nat} (enclosed : ∀ id ∈ store.chain scope, id < store.scopes.length)
    (name : String) (found : Value) :
    let placed := (store.place found).2
    let opened := (placed.openScope (some scope) [(name, (store.place found).1)]).2
    Bindings.Shadows (opened.valueOf placed.scopes.length) (opened.valueOf scope) name found := by
  intro placed opened
  have scopes : placed.scopes = store.scopes := place_scopes store found
  have inside : ∀ id ∈ placed.chain scope, id < placed.scopes.length := by
    have same : placed.chain scope = store.chain scope := by simp only [chain, scopeAt, scopes]
    rwa [same, scopes]
  have sees := fun other => openScope_lookup placed [(name, (store.place found).1)] scope inside other
  constructor
  · have seen : opened.view (store.place found).1 = found := view_place (fun _ _ _ => rfl) (Nat.le_refl _)
    rw [valueOf, sees, Fields.get?, if_pos (beq_self_eq_true name), Option.some_or, Option.map_some, seen]
  · intro other different
    have unbound : Fields.get? [(name, (store.place found).1)] other = none :=
      Fields.get?_eq_none_iff.mpr fun member => different (List.mem_singleton.mp member)
    rw [valueOf, sees, unbound, Option.none_or, valueOf, openScope_lookup_before placed _ (some scope) inside]

/-- A pipeline comes to what its stages come to, one after the other. One that gives a value goes on, with any more
stages, as a pipeline does that starts with a name for this value, in a child scope that binds it; and with filters that
depend only on what they are given it does not matter when. -/
theorem pipeline_composes (host : Host σ) (bindings : Bindings) (state : σ) (base : Primary) (fs : List FilterCall) :
    (∀ result after, Expr.evalOn host bindings state ⟨base, fs⟩ = (result, after) ↔
      Flows host bindings state base fs result after) ∧
    (∀ found after, Expr.evalOn host bindings state ⟨base, fs⟩ = (.ok (some found), after) →
      ∀ gs name inner, (name ∉ gs.flatMap fun call => call.args.mentions) → inner.Shadows bindings name found →
        Expr.evalOn host bindings state ⟨base, fs ++ gs⟩ =
          Expr.evalOn host inner after ⟨.operand (.path ⟨name, []⟩), gs⟩ ∧
        (host.Functional → ∀ later, (Expr.evalOn host bindings state ⟨base, fs ++ gs⟩).1 =
          (Expr.evalOn host inner later ⟨.operand (.path ⟨name, []⟩), gs⟩).1)) ∧
    (∀ (store : Store) (scope : Nat), (∀ id ∈ store.chain scope, id < store.scopes.length) → ∀ name found,
      let (item, placed) := store.place found
      let (child, opened) := placed.openScope (some scope) [(name, item)]
      Bindings.Shadows (opened.valueOf child) (opened.valueOf scope) name found) ∧
    ((Surroundings.withFilters Filter.find?).host σ).Functional ∧
    ∀ expr : Expr, expr.evalOn ((Surroundings.withFilters Filter.find?).host σ) bindings state =
      (expr.eval bindings, state) := by
  refine ⟨fun result after => ⟨fun evaluated => ?_, Flows.evalOn⟩, ?_,
    fun store scope enclosed name found => store.openScope_shadows enclosed name found,
    Surroundings.host_functional _, fun expr => expr.evalOn_find bindings state⟩
  · have flows := evalOn_flows host bindings state base fs
    rwa [evaluated] at flows
  · intro found after evaluated gs name inner absent shadows
    have onward := evalOn_append evaluated gs
    refine ⟨?_, fun functional later => ?_⟩
    · rw [onward, shadows.evalOn absent]
    · rw [onward, shadows.evalOn absent]
      exact pipeOn_functional functional _ _ _

end Pipelines

/-- The first of some words in capitals, at once and by way of a name for it. -/
theorem pipeline_composes_words :
    let host := (Surroundings.withFilters Filter.find?).host Unit
    let bindings : Bindings := fun name => if name = "words" then some (.list [.text "tide", .text "moon"]) else none
    let inner : Bindings := fun name => if name = "word" then some (.text "tide") else bindings name
    let words := Primary.operand (.path ⟨"words", []⟩)
    let store := (Store.empty.openScope none []).2
    Expr.evalOn host bindings () ⟨words, [⟨"first", .none⟩]⟩ = (.ok (some (.text "tide")), ()) ∧
    inner.Shadows bindings "word" (.text "tide") ∧ host.Functional ∧
    (∀ id ∈ store.chain 0, id < store.scopes.length) ∧
    (Expr.evalOn host bindings () ⟨words, [⟨"first", .none⟩, ⟨"upper", .none⟩]⟩).1 =
      (Expr.evalOn host inner () ⟨.operand (.path ⟨"word", []⟩), [⟨"upper", .none⟩]⟩).1 := by
  intro host bindings inner words store
  obtain ⟨-, composes, -, functional, -⟩ := pipeline_composes host bindings () words [⟨"first", .none⟩]
  have evaluated : Expr.evalOn host bindings () ⟨words, [⟨"first", .none⟩]⟩ = (.ok (some (.text "tide")), ()) := by rfl
  have shadows : inner.Shadows bindings "word" (.text "tide") := ⟨if_pos rfl, fun _ different => if_neg different⟩
  have unnamed : "word" ∉ [FilterCall.mk "upper" .none].flatMap fun call => call.args.mentions := nofun
  exact ⟨evaluated, shadows, functional, by decide,
    (composes _ _ evaluated _ "word" inner unnamed shadows).2 functional ()⟩

end Colloquy
