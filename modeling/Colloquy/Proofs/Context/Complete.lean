import Colloquy.Proofs.Context.Family
import Colloquy.Proofs.Context.Settings

/-! What a client is called with to complete a conversation. The model, the messages and the parameters are all named in
one call, so a context whose parameters have one under the name of the messages cannot make it: the settings refuse a
model there, but not messages. Every other context calls the client exactly once. -/
namespace Colloquy

/-- What a client is called with, by name. -/
def Request.arguments (request : Request) : Fields Json :=
  ("model", .text request.model) :: ("messages", .list (request.messages.map Message.toWire)) :: request.params

namespace Context
variable {η : Type} {context : Context η} {messages : List Message} {tools : List Tool} {choice override : Option String}

/-- The provider in the name of a model is what comes before its first colon. -/
structure IsProvider (model provider : String) : Prop where
  clean : ':' ∉ provider.toList
  start : model = provider ∨ ∃ rest, model = provider ++ ":" ++ rest

/-- How each provider is told which tool to call: the named one, or any. -/
inductive Chooses : String → Option String → Json → Prop
  | anthropicTool {name : String} (named : name ≠ "") :
      Chooses "anthropic" (some name) (.object [("type", .text "tool"), ("name", .text name)])
  | anthropicAny {choice : Option String} (free : ∀ name, choice = some name → name = "") :
      Chooses "anthropic" choice (.object [("type", .text "auto")])
  | tool {provider name : String} (other : provider ≠ "anthropic") (named : name ≠ "") :
      Chooses provider (some name) (.object [("type", .text "function"), ("function", .object [("name", .text name)])])
  | any {provider : String} {choice : Option String} (other : provider ≠ "anthropic")
      (free : ∀ name, choice = some name → name = "") : Chooses provider choice (.text "auto")

theorem provider_isProvider (model : String) : IsProvider model (provider model) := by
  have split : model.toList.takeWhile (· != ':') ++ model.toList.dropWhile (· != ':') = model.toList :=
    List.takeWhile_append_dropWhile
  refine ⟨fun member => ?_, ?_⟩
  · rw [provider, String.toList_ofList] at member
    simpa using takeWhile_inside _ _ ':' member
  · cases rest : model.toList.dropWhile (· != ':') with
    | nil =>
      rw [rest, List.append_nil] at split
      exact .inl (by rw [provider, split, String.ofList_toList])
    | cons first others =>
      have stops := List.head_dropWhile_not (· != ':') (l := model.toList) (by rw [rest]; exact List.cons_ne_nil _ _)
      obtain rfl : first = ':' := by simpa [rest] using stops
      refine .inr ⟨String.ofList others, String.toList_injective ?_⟩
      rw [← split, rest, provider]
      simp

theorem nonEmpty_none {choice : Option String} (none : choice.bind Schema.nonEmpty = none) :
    ∀ name, choice = some name → name = "" := by
  rintro name rfl
  simpa [Schema.nonEmpty] using none

theorem nonEmpty_some {choice : Option String} {name : String} (some : choice.bind Schema.nonEmpty = some name) :
    choice = .some name ∧ name ≠ "" := by
  obtain ⟨found, rfl, filled⟩ := Option.bind_eq_some_iff.mp some
  unfold Schema.nonEmpty at filled
  split at filled
  · cases filled
  · rename_i written
    cases filled
    exact ⟨rfl, by simpa using written⟩

theorem toolChoice_chooses (provider : String) (choice : Option String) :
    Chooses provider choice (toolChoice provider choice) := by
  unfold toolChoice
  cases named : choice.bind Schema.nonEmpty with
  | none =>
    by_cases anthropic : provider = "anthropic"
    · subst anthropic
      exact .anthropicAny (nonEmpty_none named)
    · rw [beq_false_of_ne anthropic]
      exact .any anthropic (nonEmpty_none named)
  | some name =>
    obtain ⟨rfl, written⟩ := nonEmpty_some named
    by_cases anthropic : provider = "anthropic"
    · subst anthropic
      exact .anthropicTool written
    · rw [beq_false_of_ne anthropic]
      exact .tool anthropic written

/-! ## Requests -/

/-- A request as it should be for a context: to the model that is given or else to its own, with all messages, and with
its parameters as they are, except that tools, if there are any, are offered with a choice for the provider that is
called. -/
structure Assembled (context : Context η) (messages : List Message) (tools : List Tool) (choice override : Option String)
    (request : Request) : Prop where
  given : ∀ name, override = some name → name ≠ "" → request.model = name
  own : (∀ name, override = some name → name = "") → request.model = context.model
  model : request.arguments.get? "model" = some (.text request.model)
  messages : request.arguments.get? "messages" = some (.list (messages.map Message.toWire))
  once : "model" ∉ request.params.names ∧ "messages" ∉ request.params.names
  plain : tools = [] → request.params = context.params
  others : ∀ name, name ≠ "model" → name ≠ "messages" → (tools = [] ∨ name ≠ "tools" ∧ name ≠ "tool_choice") →
    request.arguments.get? name = context.params.get? name
  offered : tools ≠ [] → request.arguments.get? "tools" = some (.list (tools.map Tool.toWire))
  choice : tools ≠ [] → ∃ provider value, IsProvider request.model provider ∧
    request.arguments.get? "tool_choice" = some value ∧ Chooses provider choice value

theorem clash_eq_false {params : Fields Json} :
    clash params = false ↔ "model" ∉ params.names ∧ "messages" ∉ params.names := by
  rw [clash, Bool.or_eq_false_iff, ← Bool.not_eq_true, ← Bool.not_eq_true, Fields.has_iff, Fields.has_iff]

theorem arguments_get? (request : Request) {name : String} (model : name ≠ "model") (messages : name ≠ "messages") :
    request.arguments.get? name = request.params.get? name := by
  simp [Request.arguments, Fields.get?, Ne.symm model, Ne.symm messages]

section Assembly
variable (context messages tools choice override)

theorem request_model : (context.request messages tools choice override).model =
    (override.bind Schema.nonEmpty).getD context.model := rfl

theorem request_plain (none : tools = []) :
    (context.request messages tools choice override).params = context.params := by
  subst none
  rfl

theorem request_offering (some : tools ≠ []) : (context.request messages tools choice override).params =
    context.params.merge (toolParams (context.request messages tools choice override).model tools choice) := by
  rw [request, List.isEmpty_eq_false_iff.mpr some]
  rfl

end Assembly

theorem request_assembled (clear : clash context.params = false) :
    Assembled context messages tools choice override (context.request messages tools choice override) := by
  refine ⟨?_, ?_, rfl, rfl, clash_eq_false.mp (by rw [clash_request, clear]), request_plain _ _ _ _ _, ?_, ?_, ?_⟩
  · rintro name rfl written
    rw [request_model, Option.bind_some, Schema.nonEmpty, if_neg (by simpa using written)]
    rfl
  · intro free
    rw [request_model]
    cases found : override.bind Schema.nonEmpty with
    | none => rfl
    | some name =>
      obtain ⟨same, written⟩ := nonEmpty_some found
      exact absurd (free name same) written
  · intro name model messages apart
    rw [arguments_get? _ model messages]
    by_cases none : tools = []
    · rw [request_plain _ _ _ _ _ none]
    · obtain ⟨notTools, notChoice⟩ := apart.resolve_left none
      rw [request_offering _ _ _ _ _ none, Fields.get?_merge, Fields.last?_eq_none, Option.none_or]
      rw [toolParams_names]
      simp [notTools, notChoice]
  · intro some
    rw [arguments_get? _ (by decide) (by decide), request_offering _ _ _ _ _ some, Fields.get?_merge]
    rfl
  · intro some
    refine ⟨_, _, provider_isProvider _, ?_, toolChoice_chooses _ choice⟩
    rw [arguments_get? _ (by decide) (by decide), request_offering _ _ _ _ _ some, Fields.get?_merge]
    rfl

end Context

namespace Family
variable {η : Type} {family : Family η} {i : Nat} {messages : List Message} {tools : List Tool}
  {choice override : Option String} {reply : Option Reply}

/-- A call that cannot be made fails, and leaves the family as it was. -/
theorem complete_clash (there : i < family.members.length) (clash : Context.clash (family.member i).params = true) :
    family.step (.complete i messages tools choice override reply) =
      (.error (.setting (.misuse .wrongType)), family) := by
  have found := List.getElem?_eq_getElem there
  have refused : (family.view family.members[i]).call messages tools choice override = .error .wrongType := by
    rw [← member_eq found, Context.call_eq, clash]
    rfl
  rw [Family.step, FamilyStep.target, found]
  simp only [stepOn, refused]

/-- Completing a conversation calls the client once, with what the settings of the member and the arguments make up. Only
a parameter under the name of the messages, which the settings do not refuse, keeps the client from being called. In any
case the members stay as they were. -/
theorem complete_sends {model params : Value} {handlers : Fields η} {context : Context η}
    (made : Context.make model params handlers = .ok context) (steps : List (FamilyStep η)) (i : Nat)
    (there : i < ((single context).run steps).members.length) (messages : List Message) (tools : List Tool)
    (choice override : Option String) (reply : Option Reply) :
    let family := (single context).run steps
    let step := FamilyStep.complete i messages tools choice override reply
    ("messages" ∉ (family.member i).params.names → ∃ request,
      (family.step step).2.sent = family.sent ++ [request] ∧
        Context.Assembled (family.member i) messages tools choice override request) ∧
    ("messages" ∈ (family.member i).params.names →
      family.step step = (.error (.setting (.misuse .wrongType)), family)) ∧
    ∀ j < family.members.length, (family.step step).2.member j = family.member j := by
  intro family step
  have sound : family.Sound := run_sound (single_sound context) steps
  have accepted := run_accepted (Context.make_accepted made) steps i there
  have stepped := step_stepped sound step
  refine ⟨fun free => ?_, fun present => ?_, fun j known => ?_⟩
  · have clear : Context.clash (family.member i).params = false := Context.clash_eq_false.mpr ⟨accepted.params, free⟩
    have asked : family.asks step = some ((family.member i).request messages tools choice override) := by
      rw [asks, if_pos there, Context.call_eq, clear]
      rfl
    refine ⟨_, ?_, Context.request_assembled clear⟩
    rw [stepped.sent, asked]
    rfl
  · refine complete_clash there ?_
    rw [Context.clash, Fields.has_iff.mpr present, Bool.or_true]
  · rw [stepped.member j known]
    exact ite_self _

/-- Tools are offered in place of a parameter of that name, with a choice for the provider of the model that is asked. -/
theorem complete_sends_offer :
    let context : Context Nat := ⟨"openai:gpt-4o", [("tools", .text "mine"), ("top_p", .int 1)], []⟩
    let tools : List Tool := [⟨"ask", none, Schema.anyObject, none⟩]
    Context.make (.text "openai:gpt-4o") (.mapping [("tools", .text "mine"), ("top_p", .int 1)]) context.handlers =
        .ok context ∧
      "messages" ∉ context.params.names ∧
      ∃ request, ((single context).step (.complete 0 [] tools (some "ask") (some "anthropic:claude") none)).2.sent =
        [request] ∧ Context.Assembled context [] tools (some "ask") (some "anthropic:claude") request := by
  intro context tools
  have made : Context.make (.text "openai:gpt-4o") (.mapping [("tools", .text "mine"), ("top_p", .int 1)])
      context.handlers = .ok context := by
    rw [Context.make, Context.modelName_text (by decide) (by decide)]
    rfl
  have free : "messages" ∉ context.params.names := by decide
  obtain ⟨sends, -, -⟩ := complete_sends made [] 0 Nat.one_pos [] tools (some "ask") (some "anthropic:claude") none
  exact ⟨made, free, sends free⟩

/-- Messages are accepted as a parameter, and then no client is ever called. -/
theorem complete_sends_messages :
    let context : Context Nat := ⟨"openai:gpt-3.5-turbo-1106", [("messages", .list [])], []⟩
    Context.make (.text Context.defaultModel) (.mapping [("messages", .list [])]) context.handlers = .ok context ∧
      ((single context).step (.complete 0 [.plain .user "Hi"] [] none none none)).2.sent = [] := by
  intro context
  refine ⟨?_, rfl⟩
  rw [Context.make, Context.modelName_text (by decide) (by decide)]
  rfl

end Family
end Colloquy
