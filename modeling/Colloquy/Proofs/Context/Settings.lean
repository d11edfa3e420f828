import Colloquy.Context.Family
import Colloquy.Proofs.Store.Fields
import Colloquy.Reading

/-! What settings make of a context. A model that is set is a name with a provider, and parameters that are set have no
model among them, so every context that was made is such a one and stays so. A setting that is refused leaves a context
as it is. Tools add parameters of their own to a request and none that clashes, so whether a context can send anything at
all depends on its parameters alone. -/
namespace Colloquy

namespace Context
variable {η : Type} {context changed : Context η}

/-- A context as the settings allow it. -/
structure Accepted (context : Context η) : Prop where
  model : context.model ≠ ""
  provider : ':' ∈ context.model.toList
  params : "model" ∉ context.params.names

/-- What a step makes of the context that it is taken on. A setting that is refused leaves it as it is. -/
def settle (context : Context η) : FamilyStep η → Context η
  | .setModel _ model => settled (context.setModel model)
  | .setParams _ params => settled (context.setParams params)
  | .derive _ _ | .complete _ _ _ _ _ _ => context
where
  settled : Except SettingError (Context η) → Context η
    | .ok changed => changed
    | .error _ => context

/-- What those of some steps that are taken on one member make of its context. -/
def after (context : Context η) (i : Nat) (steps : List (FamilyStep η)) : Context η :=
  (steps.filter fun step => step.target == i).foldl settle context

section Settle
variable (i : Nat) {value : Value} {cause : SettingError}

theorem settle_modelRefused (refused : context.setModel value = .error cause) :
    context.settle (.setModel i value) = context := by
  rw [settle, refused, settle.settled]

theorem settle_modelSet (set : context.setModel value = .ok changed) : context.settle (.setModel i value) = changed := by
  rw [settle, set, settle.settled]

theorem settle_paramsRefused (refused : context.setParams value = .error cause) :
    context.settle (.setParams i value) = context := by
  rw [settle, refused, settle.settled]

theorem settle_paramsSet (set : context.setParams value = .ok changed) :
    context.settle (.setParams i value) = changed := by
  rw [settle, set, settle.settled]

end Settle

theorem after_cons (context : Context η) (i : Nat) (step : FamilyStep η) (rest : List (FamilyStep η)) :
    context.after i (step :: rest) = (if step.target = i then context.settle step else context).after i rest := by
  unfold after
  split
  · rename_i same
    rw [List.filter_cons_of_pos (by simpa using same)]
    rfl
  · rename_i other
    rw [List.filter_cons_of_neg (by simpa using other)]

theorem after_append (context : Context η) (i : Nat) (early late : List (FamilyStep η)) :
    context.after i (early ++ late) = (context.after i early).after i late := by
  rw [after, after, after, List.filter_append, List.foldl_append]

theorem modelName_ok {value : Value} {name : String} (read : modelName value = .ok name) :
    name ≠ "" ∧ ':' ∈ name.toList := by
  unfold modelName at read
  split at read
  · cases read
  · split at read
    · cases read
    · rename_i text _ filled
      split at read
      · rename_i named
        cases read
        exact ⟨by simpa using filled, by simpa using named⟩
      · cases read

theorem modelName_text {name : String} (filled : name ≠ "") (provider : ':' ∈ name.toList) :
    modelName (.text name) = .ok name := by
  simp [modelName, Value.text?, filled, provider]

theorem paramsOf_ok {members : Fields Value} {params : Fields Json} (read : paramsOf members = .ok params) :
    "model" ∉ params.names := by
  unfold paramsOf at read
  split at read
  · cases read
  · split at read
    · cases read
    · rename_i free
      cases read
      exact fun present => free (Fields.has_iff.mpr present)
  · cases read
    exact List.not_mem_nil

theorem readParams_ok {value : Value} {params : Fields Json} (read : readParams value = .ok params) :
    "model" ∉ params.names := by
  have settled {members : Fields Value} (read : (if !namesAreTexts value then
      .error (.malformed [⟨.invalidJson, []⟩]) else paramsOf members) = .ok params) : "model" ∉ params.names := by
    split at read
    · cases read
    · exact paramsOf_ok read
  unfold readParams at read
  dsimp only at read
  split at read
  · obtain ⟨members, -, rest⟩ := eq_ok_of_bind read
    exact settled rest
  · exact settled read

theorem setModel_ok {value : Value} (set : context.setModel value = .ok changed) :
    changed = { context with model := changed.model } ∧ changed.model ≠ "" ∧ ':' ∈ changed.model.toList := by
  obtain ⟨name, read, made⟩ := eq_ok_of_bind set
  cases made
  exact ⟨rfl, modelName_ok read⟩

theorem setParams_ok {value : Value} (set : context.setParams value = .ok changed) :
    changed = { context with params := changed.params } ∧ "model" ∉ changed.params.names := by
  obtain ⟨params, read, made⟩ := eq_ok_of_bind set
  cases made
  exact ⟨rfl, readParams_ok read⟩

theorem make_accepted {model params : Value} {handlers : Fields η} (made : make model params handlers = .ok context) :
    context.Accepted := by
  obtain ⟨name, named, rest⟩ := eq_ok_of_bind made
  obtain ⟨members, read, last⟩ := eq_ok_of_bind rest
  cases last
  exact ⟨(modelName_ok named).1, (modelName_ok named).2, readParams_ok read⟩

theorem Accepted.withHandlers (accepted : context.Accepted) (more : Fields η) : (context.withHandlers more).Accepted :=
  ⟨accepted.model, accepted.provider, accepted.params⟩

theorem Accepted.settle (accepted : context.Accepted) (step : FamilyStep η) : (context.settle step).Accepted := by
  cases step with
  | setModel i model =>
    cases set : context.setModel model with
    | error cause => rwa [settle_modelRefused i set]
    | ok changed =>
      obtain ⟨same, filled, provider⟩ := setModel_ok set
      have params : changed.params = context.params := by rw [same]
      rw [settle_modelSet i set]
      exact ⟨filled, provider, params ▸ accepted.params⟩
  | setParams i params =>
    cases set : context.setParams params with
    | error cause => rwa [settle_paramsRefused i set]
    | ok changed =>
      obtain ⟨same, free⟩ := setParams_ok set
      have model : changed.model = context.model := by rw [same]
      rw [settle_paramsSet i set]
      exact ⟨model ▸ accepted.model, model ▸ accepted.provider, free⟩
  | derive i handlers => exact accepted
  | complete i messages tools choice model reply => exact accepted

section Sending
variable (context) (messages : List Message) (tools : List Tool) (choice model : Option String)

/-- Tools are offered under two names, and nothing else is said of them. -/
theorem toolParams_names (model : String) : (toolParams model tools choice).names = ["tools", "tool_choice"] := rfl

theorem clash_request : clash (context.request messages tools choice model).params = clash context.params := by
  have has (name : String) (other : name ≠ "tools" ∧ name ≠ "tool_choice") :
      (context.request messages tools choice model).params.has name = context.params.has name := by
    unfold request
    split
    · rfl
    · rw [Bool.eq_iff_iff, Fields.has_iff, Fields.has_iff, Fields.names_merge, toolParams_names]
      simp [other]
  rw [clash, clash, has "model" (by decide), has "messages" (by decide)]

/-- A call fails just if a parameter of the context clashes. -/
theorem call_eq : context.call messages tools choice model =
    if clash context.params then .error .wrongType else .ok (context.request messages tools choice model) := by
  rw [call, clash_request]

end Sending

end Context

end Colloquy
