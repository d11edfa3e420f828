import Colloquy.Expr.Dump
import Colloquy.Script.Basic

/-! Scripts as JSON, every statement with all that it says. -/
namespace Colloquy

/-- A template as JSON. -/
def Template.toJson (template : Template) : Json :=
  .object [("role", .text template.role.name), ("fragments", Fragment.listToJson template.fragments)]

/-- A question as JSON. -/
def Prompt.toJson (prompt : Prompt) : Json :=
  tagged "prompt" [("prompt", Fragment.listToJson prompt.question), ("store", .text prompt.store)]

/-- A tag without meaning as JSON. -/
def unknownToJson (tag : String) : Json := tagged "unknown" [("tag", .text tag)]

/-- An item of a chat as JSON. -/
def ChatItem.toJson : ChatItem → Json
  | .message template => tagged "message" [("template", template.toJson)]
  | .prompt question => question.toJson
  | .tool declaration => tagged "tool" [("declaration", declaration.toJson)]
  | .response => tagged "response" []
  | .unknown tag => unknownToJson tag

/-- The fields of a generation. -/
def Generation.toJson (generation : Generation) : Fields Json :=
  [("store", .text generation.store), ("declaration", generation.tool.toJson),
    ("messages", .list (generation.messages.map Template.toJson)), ("feedback", .bool generation.feedback)]

/-- A statement as JSON. -/
def Statement.toJson : Statement → Json
  | .prompt question => question.toJson
  | .chat items => tagged "chat" [("body", .list (items.map ChatItem.toJson))]
  | .generate generation => tagged "gen" generation.toJson
  | .each source generation => tagged "each" (("source", .text source) :: generation.toJson)
  | .unknown tag => unknownToJson tag

/-- A script as JSON. -/
def Script.toJson (script : Script) : Json :=
  .object [("tag", .text script.tag), ("body", .list (script.body.map Statement.toJson))]

end Colloquy
