import Mathlib.Data.List.Forall2
import Colloquy.Reply.Basic

/-! The forms of a reply. A completion may come as it is, written as data, or carried by the attributes of an object,
where whatever is null may be missing, whatever a completion does not have is passed over, and the counts may stand in
three ways. Whatever the form, conversion gives the completion, so that nobody can tell from it which form there was. -/
namespace Colloquy

/-- Data with members that are as some record has them. -/
def Value.Holds (written : Fields Value → Prop) (value : Value) : Prop := ∃ fields, value = .mapping fields ∧ written fields

/-- A member that says a value. One that says null may be missing. -/
def Fields.Tells (fields : Fields Value) (name : String) (value : Value) : Prop :=
  fields.get? name = some value ∨ fields.get? name = none ∧ value = .null

/-- An attribute that says a value. One that says null may be missing. -/
def Carries (part : Option Value) (value : Value) : Prop :=
  part = some value ∨ part = none ∧ value = .null

/-- A number, or null. -/
def countValue : Option Int → Value
  | some n => .int n
  | none => .null

/-- An identity, or null. -/
def idValue : Option CompletionId → Value
  | some (.number n) => .int n
  | some (.text s) => .text s
  | none => .null

/-! ## Data -/

/-- A call as the members of data. -/
structure ToolCall.WrittenAs (call : ToolCall) (fields : Fields Value) : Prop where
  id : fields.get? "id" = some (.text call.id)
  function : ∃ inner : Fields Value, fields.get? "function" = some (.mapping inner) ∧
    inner.get? "name" = some (.text call.name) ∧ inner.get? "arguments" = some (.text call.arguments)
  type : fields.get? "type" = some (.text "function") ∨ fields.get? "type" = none

/-- The calls of a message, if it may have any. -/
def CallsWritten (calls : Option (List ToolCall)) (fields : Fields Value) : Prop :=
  match calls with
  | none => Fields.Tells fields "tool_calls" .null
  | some calls => ∃ values, fields.get? "tool_calls" = some (.list values) ∧
    List.Forall₂ (fun call : ToolCall => Value.Holds call.WrittenAs) calls values

/-- A message as the members of data. -/
structure ReplyMessage.WrittenAs (message : ReplyMessage) (fields : Fields Value) : Prop where
  role : fields.get? "role" = some (.text message.role.name)
  content : Fields.Tells fields "content" (Message.optionalText message.content)
  calls : CallsWritten message.calls fields
  refusal : Fields.Tells fields "refusal" (Message.optionalText message.refusal)

/-- A choice as the members of data. -/
structure Choice.WrittenAs (choice : Choice) (fields : Fields Value) : Prop where
  reason : Fields.Tells fields "finish_reason" (Message.optionalText choice.finishReason)
  message : ∃ members : Fields Value, fields.get? "message" = some (.mapping members) ∧ choice.message.WrittenAs members

/-- Counts as the members of data. -/
structure Usage.WrittenAs (usage : Usage) (fields : Fields Value) : Prop where
  prompt : Fields.Tells fields "prompt_tokens" (countValue usage.promptTokens)
  completion : Fields.Tells fields "completion_tokens" (countValue usage.completionTokens)
  total : Fields.Tells fields "total_tokens" (countValue usage.totalTokens)

/-- The counts of a completion, if it has any. -/
def UsageWritten (usage : Option Usage) (fields : Fields Value) : Prop :=
  match usage with
  | none => Fields.Tells fields "usage" .null
  | some usage => ∃ counts : Fields Value, fields.get? "usage" = some (.mapping counts) ∧ usage.WrittenAs counts

/-- A completion as the members of data. -/
structure Completion.WrittenAs (completion : Completion) (fields : Fields Value) : Prop where
  id : Fields.Tells fields "id" (idValue completion.id)
  created : Fields.Tells fields "created" (countValue completion.created)
  model : Fields.Tells fields "model" (Message.optionalText completion.model)
  usage : UsageWritten completion.usage fields
  choices : ∃ values, fields.get? "choices" = some (.list values) ∧
    List.Forall₂ (fun choice : Choice => Value.Holds choice.WrittenAs) completion.choices values

/-! ## Attributes -/

/-- A choice as the attributes of an object. -/
structure Choice.CarriedBy (choice : Choice) (object : LooseChoice) : Prop where
  reason : Carries object.finishReason (Message.optionalText choice.finishReason)
  message : choice.message.WrittenAs object.message

/-- Counts in any of the three ways: as data, as attributes or as a model. -/
inductive Usage.CarriedBy (usage : Usage) : LooseUsage → Prop
  | data {fields : Fields Value} : usage.WrittenAs fields → CarriedBy usage (.value (.mapping fields))
  | attributes {fields : Fields Value} : usage.WrittenAs fields → CarriedBy usage (.attributes fields)
  | model {fields : Fields Value} : usage.WrittenAs fields → CarriedBy usage (.model fields)

/-- The counts of an object, if it has any. -/
inductive UsageCarried : Option Usage → Option LooseUsage → Prop
  | missing : UsageCarried none none
  | null : UsageCarried none (some (.value .null))
  | counts {usage : Usage} {object : LooseUsage} : usage.CarriedBy object → UsageCarried (some usage) (some object)

/-- A completion as the attributes of an object. -/
structure Completion.CarriedBy (completion : Completion) (object : LooseReply) : Prop where
  id : Carries object.id (idValue completion.id)
  created : Carries object.created (countValue completion.created)
  model : Carries object.model (Message.optionalText completion.model)
  usage : UsageCarried completion.usage object.usage
  choices : List.Forall₂ Choice.CarriedBy completion.choices object.choices

/-- A completion that says of each choice why it ends in one of the words for it, or not at all. -/
def Completion.Allowed (completion : Completion) : Prop :=
  ∀ choice ∈ completion.choices, ∀ reason, choice.finishReason = some reason → reason ∈ finishReasons

/-- The replies that say what a completion says. -/
inductive Completion.RepresentedBy (completion : Completion) : Reply → Prop
  | native : RepresentedBy completion (.native completion)
  | data {fields : Fields Value} : completion.WrittenAs fields → RepresentedBy completion (.data (.mapping fields))
  | loose {object : LooseReply} : completion.CarriedBy object → RepresentedBy completion (.loose object)

/-! ## Reading members -/

section Members

variable {α : Type} {fields : Fields Value} {name : String} {value : Value} {check : Value → Checked α} {a : α}

theorem optional_tells (told : Fields.Tells fields name value) (check : Value → Checked α) :
    Check.optional fields name none (Check.nullable check) = (Check.nullable check value).within (.name name) := by
  rcases told with found | ⟨missing, rfl⟩
  · rw [Check.optional, found]
  · rw [Check.optional, missing]
    rfl

theorem required_ok (found : fields.get? name = some value) (read : check value = .ok a) :
    Check.required fields name check = .ok a := by
  rw [Check.required, found]
  simp only [read]
  rfl

theorem all_ok {outcomes : List (Checked α)} {results : List α}
    (each : List.Forall₂ (fun outcome result => outcome = .ok result) outcomes results) :
    Checked.all outcomes = .ok results := by
  induction each with
  | nil => rfl
  | cons here _ ih => rw [Checked.all, here, ih]; rfl

theorem list_ok {values : List Value} {results : List α}
    (each : List.Forall₂ (fun result value => check value = .ok result) results values) :
    Check.list check (.list values) = .ok results := by
  have placed : ∀ i, List.Forall₂ (fun outcome result => outcome = .ok result)
      (((values.map check).zipIdx i).map fun entry => entry.1.within (.index entry.2)) results := by
    induction each with
    | nil => exact fun i => .nil
    | cons here _ ih => exact fun i => .cons (by rw [here]; rfl) (ih (i + 1))
  exact all_ok (placed 0)

theorem nullable_text (s : Option String) : Check.nullable Check.text (Message.optionalText s) = .ok s := by
  cases s <;> rfl

theorem nullable_int (n : Option Int) : Check.nullable Check.int (countValue n) = .ok n := by cases n <;> rfl

theorem nullable_id (id : Option CompletionId) : Check.nullable CompletionId.check (idValue id) = .ok id := by
  rcases id with _ | (n | s) <;> rfl

theorem nullable_reason {reason : Option String} (allowed : ∀ word, reason = some word → word ∈ finishReasons) :
    checkFinishReason (Message.optionalText reason) = .ok reason := by
  cases reason with
  | none => rfl
  | some word =>
    have known : finishReasons.contains word = true := List.contains_iff_mem.mpr (allowed word rfl)
    change (if finishReasons.contains word then _ else _ : Checked String).map some = _
    rw [if_pos known]
    rfl

end Members

/-! ## Reading data -/

section Data

variable {fields : Fields Value} {value : Value}

theorem ToolCall.WrittenAs.check {call : ToolCall} (written : Value.Holds call.WrittenAs value) :
    ToolCall.check value = .ok call := by
  obtain ⟨fields, rfl, id, ⟨inner, function, name, arguments⟩, kind⟩ := written
  have type : Check.optional fields "type" "function" (Check.oneOf ["function"]) = .ok "function" := by
    rcases kind with found | missing
    · rw [Check.optional, found]
      rfl
    · rw [Check.optional, missing]
  have idRead : Check.required fields "id" Check.text = .ok call.id := required_ok id rfl
  have nameRead : Check.required inner "name" Check.text = .ok call.name := required_ok name rfl
  have argumentsRead : Check.required inner "arguments" Check.text = .ok call.arguments := required_ok arguments rfl
  rw [ToolCall.check]
  simp only [Check.parts, bind, Except.bind, type, idRead]
  rw [required_ok (a := (call.name, call.arguments)) function (by simp only [nameRead, argumentsRead]; rfl)]
  rfl

theorem CallsWritten.check {calls : Option (List ToolCall)} (written : CallsWritten calls fields) :
    Check.optional fields "tool_calls" none (Check.nullable (Check.list ToolCall.check)) = .ok calls := by
  cases calls with
  | none =>
    rw [optional_tells written]
    rfl
  | some calls =>
    obtain ⟨values, found, each⟩ := written
    rw [optional_tells (.inl found)]
    change Checked.within _ ((Check.list ToolCall.check (.list values)).map some) = _
    rw [list_ok (each.imp fun _ _ here => ToolCall.WrittenAs.check here)]
    rfl

theorem ReplyMessage.WrittenAs.check {message : ReplyMessage} (written : message.WrittenAs fields) :
    ReplyMessage.checkFields fields = .ok message := by
  have role : Check.optional fields "role" "assistant" (Check.oneOf roleNames) = .ok message.role.name := by
    rw [Check.optional, written.role]
    cases message.role <;> rfl
  have same : Message.roleOf message.role.name = message.role := by cases message.role <;> rfl
  rw [ReplyMessage.checkFields, role, written.calls.check, optional_tells written.content, optional_tells written.refusal,
    nullable_text, nullable_text]
  simp only [Checked.within, Except.mapError, Checked.both, bind, Except.bind, same]
  rfl

theorem Usage.WrittenAs.check {usage : Usage} (written : usage.WrittenAs fields) :
    Usage.checkFields fields = .ok usage := by
  rw [Usage.checkFields]
  simp only [optional_tells written.prompt, optional_tells written.completion, optional_tells written.total, nullable_int]
  rfl

theorem UsageWritten.check {usage : Option Usage} (written : UsageWritten usage fields) :
    Check.optional fields "usage" none (Check.nullable Usage.check) = .ok usage := by
  cases usage with
  | none =>
    rw [optional_tells written]
    rfl
  | some usage =>
    obtain ⟨counts, found, inside⟩ := written
    rw [optional_tells (.inl found)]
    change Checked.within _ ((Usage.checkFields counts).map some) = _
    rw [inside.check]
    rfl

theorem Choice.WrittenAs.check {choice : Choice} (written : Value.Holds choice.WrittenAs value)
    (allowed : ∀ reason, choice.finishReason = some reason → reason ∈ finishReasons) :
    Choice.check value = .ok choice := by
  obtain ⟨fields, rfl, reason, members, found, message⟩ := written
  have messageRead : Check.required fields "message" ReplyMessage.check = .ok choice.message :=
    required_ok found message.check
  have reasonRead : Check.optional fields "finish_reason" none checkFinishReason = .ok choice.finishReason := by
    rw [checkFinishReason, optional_tells reason]
    change Checked.within _ (checkFinishReason _) = _
    rw [nullable_reason allowed]
    rfl
  rw [Choice.check]
  simp only [Check.parts, bind, Except.bind, messageRead, reasonRead]
  rfl

theorem Completion.WrittenAs.check {completion : Completion} (written : completion.WrittenAs fields)
    (allowed : completion.Allowed) : Completion.check (.mapping fields) = .ok completion := by
  obtain ⟨values, found, each⟩ := written.choices
  have known := (List.forall₂_and_left _ _).mpr ⟨allowed, each⟩
  have choices : Check.required fields "choices" (Check.list Choice.check) = .ok completion.choices :=
    required_ok found (list_ok (known.imp fun _ _ here => Choice.WrittenAs.check here.2 here.1))
  rw [Completion.check]
  simp only [Check.parts, bind, Except.bind, optional_tells written.id, optional_tells written.created,
    optional_tells written.model, written.usage.check, choices, nullable_id, nullable_int, nullable_text]
  rfl

end Data

/-! ## Reading attributes -/

section Attributes

theorem getD_carries {part : Option Value} {value : Value} (carried : Carries part value) : part.getD .null = value := by
  rcases carried with rfl | ⟨rfl, rfl⟩ <;> rfl

theorem Choice.CarriedBy.convert {choice : Choice} {object : LooseChoice} (carried : choice.CarriedBy object)
    (allowed : ∀ reason, choice.finishReason = some reason → reason ∈ finishReasons) :
    Reply.convertChoice object = .ok choice := by
  have members : Reply.LooseChoice.members object = object.message := by
    rw [Reply.LooseChoice.members, Fields.has, carried.message.role]
    rfl
  rw [Reply.convertChoice, members, carried.message.check, getD_carries carried.reason, nullable_reason allowed]
  rfl

theorem convertChoices_carried {choices : List Choice} {objects : List LooseChoice}
    (carried : List.Forall₂ Choice.CarriedBy choices objects)
    (allowed : ∀ choice ∈ choices, ∀ reason, choice.finishReason = some reason → reason ∈ finishReasons) :
    Reply.convertChoices objects = .ok choices := by
  induction carried with
  | nil => rfl
  | cons here _ ih =>
    rw [Reply.convertChoices, here.convert (allowed _ List.mem_cons_self),
      ih fun choice member => allowed choice (List.mem_cons_of_mem _ member)]
    rfl

/-- The three ways of carrying counts are one. -/
theorem UsageCarried.convert {usage : Option Usage} {object : Option LooseUsage} (carried : UsageCarried usage object) :
    Reply.convertUsage object = .ok usage := by
  cases carried with
  | missing | null => rfl
  | counts inside =>
    cases inside with
    | @data fields written | @attributes fields written | @model fields written =>
      change ((Usage.checkFields fields).map some).mapError ReplyError.malformed = .ok (some _)
      rw [written.check]
      rfl

theorem Completion.CarriedBy.convert {completion : Completion} {object : LooseReply}
    (carried : completion.CarriedBy object) (allowed : completion.Allowed) :
    Reply.LooseReply.convert object = .ok completion := by
  rw [Reply.LooseReply.convert, convertChoices_carried carried.choices allowed, carried.usage.convert]
  simp only [bind, Except.bind, getD_carries carried.id, getD_carries carried.created, getD_carries carried.model,
    nullable_id, nullable_int, nullable_text]
  rfl

end Attributes

/-- Whatever form a completion comes in, it is what conversion gives. -/
theorem Completion.RepresentedBy.convert {completion : Completion} {reply : Reply}
    (represented : completion.RepresentedBy reply) (allowed : completion.Allowed) : reply.convert = .ok completion := by
  cases represented with
  | native => rfl
  | data written => rw [Reply.convert, written.check allowed, Except.mapError]
  | loose carried => exact carried.convert allowed

/-! ## Every completion has every form -/

section Dumps

theorem forall₂_dump {α : Type} {dump : α → Json} {written : α → Value → Prop}
    (each : ∀ a, written a (Value.ofJson (dump a))) (as : List α) :
    List.Forall₂ written as (Value.ofItems (as.map dump)) := by
  induction as with
  | nil => exact .nil
  | cons a rest ih => exact .cons (each a) ih

theorem ToolCall.writtenAs_dump (call : ToolCall) : Value.Holds call.WrittenAs (Value.ofJson call.toJson) :=
  ⟨_, rfl, rfl, ⟨_, rfl, rfl, rfl⟩, .inl rfl⟩

theorem ReplyMessage.writtenAs_dump (message : ReplyMessage) :
    Value.Holds message.WrittenAs (Value.ofJson message.toJson) := by
  obtain ⟨role, content, calls, refusal⟩ := message
  refine ⟨_, rfl, rfl, .inl ?_, ?_, .inl ?_⟩
  · cases content <;> rfl
  · cases calls with
    | none => exact .inl rfl
    | some calls => exact ⟨_, rfl, forall₂_dump ToolCall.writtenAs_dump calls⟩
  · cases refusal <;> rfl

theorem Choice.writtenAs_dump (choice : Choice) : Value.Holds choice.WrittenAs (Value.ofJson choice.toJson) := by
  obtain ⟨reason, message⟩ := choice
  obtain ⟨members, found, written⟩ := message.writtenAs_dump
  refine ⟨_, rfl, .inl ?_, members, ?_, written⟩
  · cases reason <;> rfl
  · exact congrArg some found

theorem Usage.writtenAs_dump (usage : Usage) : Value.Holds usage.WrittenAs (Value.ofJson usage.toJson) := by
  obtain ⟨prompt, completion, total⟩ := usage
  refine ⟨_, rfl, .inl ?_, .inl ?_, .inl ?_⟩
  · cases prompt <;> rfl
  · cases completion <;> rfl
  · cases total <;> rfl

/-- A dump is a completion written as data. -/
theorem Completion.writtenAs_dump (completion : Completion) :
    Value.Holds completion.WrittenAs (Value.ofJson completion.toJson) := by
  obtain ⟨id, created, model, usage, choices⟩ := completion
  refine ⟨_, rfl, .inl ?_, .inl ?_, .inl ?_, ?_, _, rfl, forall₂_dump Choice.writtenAs_dump choices⟩
  · rcases id with _ | (n | s) <;> rfl
  · cases created <;> rfl
  · cases model <;> rfl
  · cases usage with
    | none => exact .inl rfl
    | some usage =>
      obtain ⟨counts, found, written⟩ := usage.writtenAs_dump
      exact ⟨counts, congrArg some found, written⟩

theorem choices_carried (choices : List Choice) : ∃ objects, List.Forall₂ Choice.CarriedBy choices objects := by
  induction choices with
  | nil => exact ⟨[], .nil⟩
  | cons choice rest ih =>
    obtain ⟨members, -, written⟩ := choice.message.writtenAs_dump
    obtain ⟨objects, others⟩ := ih
    exact ⟨⟨some _, members⟩ :: objects, .cons ⟨.inl rfl, written⟩ others⟩

/-- The three ways in which an object may carry counts. -/
def countForms : List (Fields Value → LooseUsage) := [fun fields => .value (.mapping fields), .attributes, .model]

theorem Usage.WrittenAs.carried {usage : Usage} {fields : Fields Value} (written : usage.WrittenAs fields)
    {carry : Fields Value → LooseUsage} (form : carry ∈ countForms) : usage.CarriedBy (carry fields) := by
  simp only [countForms, List.mem_cons, List.not_mem_nil, or_false] at form
  rcases form with rfl | rfl | rfl
  · exact .data written
  · exact .attributes written
  · exact .model written

/-- An object carries a completion, the counts in whichever of the three ways. -/
theorem Completion.carried (completion : Completion) {carry : Fields Value → LooseUsage} (form : carry ∈ countForms) :
    ∃ object, completion.CarriedBy object ∧ ∀ usage, object.usage = some usage → ∃ fields, usage = carry fields := by
  obtain ⟨objects, choices⟩ := choices_carried completion.choices
  cases counted : completion.usage with
  | none =>
    refine ⟨⟨some _, some _, some _, none, objects⟩, ⟨.inl rfl, .inl rfl, .inl rfl, ?_, choices⟩, fun _ h => nomatch h⟩
    rw [counted]
    exact .missing
  | some usage =>
    obtain ⟨fields, -, written⟩ := usage.writtenAs_dump
    refine ⟨⟨some _, some _, some _, some (carry fields), objects⟩, ⟨.inl rfl, .inl rfl, .inl rfl, ?_, choices⟩, ?_⟩
    · rw [counted]
      exact .counts (written.carried form)
    · intro object same
      cases same
      exact ⟨fields, rfl⟩

end Dumps

/-- Replies that say what a completion says, one in each form. -/
structure Completion.Forms (completion : Completion) : Prop where
  native : completion.RepresentedBy (.native completion)
  data : completion.RepresentedBy (.data (Value.ofJson completion.toJson))
  loose : ∀ carry ∈ countForms, ∃ object, completion.RepresentedBy (.loose object) ∧
    ∀ usage, object.usage = some usage → ∃ fields, usage = carry fields

theorem Completion.forms (completion : Completion) : completion.Forms where
  native := .native
  data := by
    obtain ⟨fields, same, written⟩ := completion.writtenAs_dump
    rw [same]
    exact .data written
  loose carry form := by
    obtain ⟨object, carried, counts⟩ := completion.carried form
    exact ⟨object, .loose carried, counts⟩

end Colloquy
