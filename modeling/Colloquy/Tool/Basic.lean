import Colloquy.Schema.Check
import Colloquy.Schema.Markup

/-! Tool declarations. The parameters of a tool are an object; a schema of any other kind is sent as the single property
of one, and taken out of it again when the model's arguments come back. -/
namespace Colloquy

/-- A tool that the model may call: its name, what it does, its parameters, and the handler that serves it if that is
not the one of its own name. -/
structure Tool where
  name : String
  description : Option String
  parameters : Schema
  action : Option String
  deriving Inhabited

namespace Tool

/-- The property that holds a schema which is not an object's. -/
def wrapper : String := "input"

/-- Whether the parameters are sent inside another object. -/
def isWrapped (tool : Tool) : Bool := tool.parameters.kind != "object"

/-- The parameters as they are sent. -/
def wireParameters (tool : Tool) : Json :=
  if tool.isWrapped then
    .object [("type", .text "object"), ("properties", .object [(wrapper, tool.parameters.toWire)]),
      ("required", .list [.text wrapper])]
  else tool.parameters.toWire

/-- The declaration as it is sent. -/
def toWire (tool : Tool) : Json :=
  .object [("type", .text "function"),
    ("function", .object ([("name", .text tool.name), ("parameters", tool.wireParameters)] ++
      Schema.member "description" tool.description .text))]

/-- The value that the schema describes, out of the arguments of a call. -/
def unwrap (tool : Tool) (arguments : Value) : Value :=
  match tool.isWrapped, arguments with
  | true, .mapping fields => (Fields.get? fields wrapper).getD arguments
  | _, _ => arguments

/-- All that a declaration says. -/
def toJson (tool : Tool) : Json :=
  .object [("name", .text tool.name), ("description", Schema.orNull tool.description .text),
    ("parameters", tool.parameters.toJson), ("action", Schema.orNull tool.action .text)]

/-- Reads a declaration; without parameters the tool takes any object. -/
def check (value : Value) : Checked Tool := do
  let fields ← Check.parts value
  let (name, description, parameters, action) ← Checked.both (Check.required fields "name" Check.text)
    (.both (Check.optional fields "description" none (Check.nullable Check.text))
      (.both (Check.optional fields "parameters" Schema.anyObject Schema.check)
        (Check.optional fields "action" none (Check.nullable Check.text))))
  return ⟨name, description, parameters, action⟩

end Tool
end Colloquy
