import Colloquy.Expr.Fragment
import Colloquy.Json.Basic

/-! Expressions and fragments as JSON, every part under its name and tagged with its kind. -/
namespace Colloquy

/-- A part of some kind. -/
def tagged (kind : String) (fields : Fields Json) : Json := .object (("kind", .text kind) :: fields)

/-- A segment as JSON. -/
def Segment.toJson : Segment → Json
  | .field name => tagged "field" [("field", .text name)]
  | .index i => tagged "index" [("index", .int i)]

/-- A path as JSON, its root being the first segment. -/
def Path.toJson (path : Path) : Json :=
  tagged "path" [("segments", .list ((Segment.field path.root :: path.steps).map Segment.toJson))]

/-- An operand as JSON. -/
def Operand.toJson : Operand → Json
  | .int n => tagged "constant" [("value", .int n)]
  | .text s => tagged "constant" [("value", .text s)]
  | .path p => p.toJson

/-- Arguments as JSON. -/
def Arguments.toJson (args : Arguments) : Fields Json :=
  [("args", .list (args.positional.map Operand.toJson)),
    ("kwargs", .list (args.keywords.map fun (name, value) =>
      .object [("name", .text name), ("value", value.toJson)]))]

/-- The start of a pipeline as JSON. -/
def Primary.toJson : Primary → Json
  | .operand value => value.toJson
  | .call name args => tagged "call" (("name", .text name) :: args.toJson)

/-- An expression as JSON; without filters it is its start. -/
def Expr.toJson (expr : Expr) : Json :=
  if expr.filters.isEmpty then expr.base.toJson
  else tagged "pipeline" [("base", expr.base.toJson),
    ("filters", .list (expr.filters.map fun filter => .object (("name", .text filter.name) :: filter.args.toJson)))]

/-- A fragment as JSON. -/
def Fragment.toJson : Fragment → Json
  | .text s => .object [("type", .text "text"), ("text", .text s)]
  | .reference expr source position =>
    .object [("type", .text "expr"), ("expr", expr.toJson), ("source", .text source), ("position", .int position)]

/-- Fragments as JSON. -/
def Fragment.listToJson (fragments : List Fragment) : Json := .list (fragments.map Fragment.toJson)

end Colloquy
