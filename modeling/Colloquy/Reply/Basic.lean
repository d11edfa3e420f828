import Colloquy.Reply.Completion

/-! Replies of clients. Clients answer in one of three forms: as a completion, as a record of another library that is
first turned into data, or as an object whose attributes are read one by one. All three are converted to completions. -/
namespace Colloquy

/-- A choice of an object that is read by its attributes; the reason may be missing altogether. -/
structure LooseChoice where
  finishReason : Option Value
  message : Fields Value

/-- The counts of such an object: a value as it is, or in an object of their own, one with attributes or a model, which is
turned into data first. -/
inductive LooseUsage where
  | value (value : Value)
  | attributes (fields : Fields Value)
  | model (fields : Fields Value)

instance : Coe Value LooseUsage := ⟨.value⟩

/-- An object that is read by its attributes, any of which may be missing but the choices. -/
structure LooseReply where
  id : Option Value
  created : Option Value
  model : Option Value
  usage : Option LooseUsage
  choices : List LooseChoice

/-- Why an answer cannot be converted: values that do not fit, or counts of a kind that has no members. -/
inductive ReplyError where
  | malformed (issues : List Issue)
  | noMembers

/-- What a client answers. -/
inductive Reply where
  | native (completion : Completion)
  | data (fields : Value)
  | loose (reply : LooseReply)

namespace Reply

/-- The members that a message of such an object has; a role is always among them. -/
def LooseChoice.members (choice : LooseChoice) : Fields Value :=
  if choice.message.has "role" then choice.message else choice.message.put "role" .null

/-- Converts a choice: its message on its own, then the reason. -/
def convertChoice (choice : LooseChoice) : Checked Choice := do
  let message ← ReplyMessage.checkFields (LooseChoice.members choice)
  let reason ← (checkFinishReason (choice.finishReason.getD .null)).within (.name "finish_reason")
  return ⟨reason, message⟩

/-- Converts choices up to the first that cannot be converted. -/
def convertChoices : List LooseChoice → Checked (List Choice)
  | [] => .ok []
  | choice :: rest =>
    match convertChoice choice with
    | .error issues => .error issues
    | .ok first => (convertChoices rest).map (first :: ·)

/-- What counts are read from when they are a value: the members it has. What a function, a scope or an object that
nothing is known about has besides are no counts. -/
def membersOf : Value → Except ReplyError (Fields Value)
  | .mapping fields | .model _ fields => .ok fields
  | .function _ | .scope _ _ | .foreign => .ok []
  | _ => .error .noMembers

/-- The counts of such an object: none if they are missing or null. -/
def convertUsage : Option LooseUsage → Except ReplyError (Option Usage)
  | none | some (.value .null) => .ok none
  | some (.attributes fields) | some (.model fields) => ((Usage.checkFields fields).map some).mapError .malformed
  | some (.value value) => do
    let fields ← membersOf value
    ((Usage.checkFields fields).map some).mapError .malformed

/-- Converts an object that is read by its attributes. -/
def LooseReply.convert (reply : LooseReply) : Except ReplyError Completion := do
  let choices ← (convertChoices reply.choices).mapError .malformed
  let usage ← convertUsage reply.usage
  let part {α : Type} (name : String) (value : Option Value) (check : Value → Checked α) : Checked (Option α) :=
    (Check.nullable check (value.getD .null)).within (.name name)
  let (id, created, model) ← (Checked.both (part "id" reply.id CompletionId.check)
    (.both (part "created" reply.created Check.int) (part "model" reply.model Check.text))).mapError .malformed
  return ⟨id, created, model, usage, choices⟩

/-- The completion that a reply is converted to; one that is a completion already is left alone. -/
def convert : Reply → Except ReplyError Completion
  | native completion => .ok completion
  | data fields => (Completion.check fields).mapError .malformed
  | loose reply => LooseReply.convert reply

end Reply
end Colloquy
