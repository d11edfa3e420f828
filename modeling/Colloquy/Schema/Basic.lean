import Colloquy.Json.Basic

/-! Schemas of tool parameters: a kind, and what is said about values of that kind. On the wire a schema is an object;
attributes that are passed through and numeric limits are written over what stands there. -/
namespace Colloquy

/-- A schema. -/
structure Schema where
  kind : String
  description : Option String
  properties : Option (List (String × Schema))
  required : Option (List String)
  items : Option Schema
  options : Option (List String)
  limits : List (String × Int)
  extra : List (String × String)
  deriving Inhabited

namespace Schema

/-- A schema of which nothing but the kind is said. -/
def ofKind (kind : String) : Schema := ⟨kind, none, none, none, none, none, [], []⟩

/-- A schema of an object without properties. -/
def anyObject : Schema := { ofKind "object" with properties := some [] }

/-- A member that is there if its value is. -/
def member {α : Type} (name : String) (value : Option α) (write : α → Json) : Fields Json :=
  match value with
  | some value => [(name, write value)]
  | none => []

/-- Texts as a JSON list. -/
def textList (texts : List String) : Json := .list (texts.map .text)

mutual

/-- The schema as it is sent. -/
def toWire : Schema → Json
  | ⟨kind, description, properties, required, items, options, limits, extra⟩ =>
    let base : Fields Json :=
      [("type", .text kind)] ++ member "description" description .text ++
      (match properties with
        | some properties =>
          [("properties", .object (wireOfFields properties)), ("required", textList (required.getD []))]
        | none => []) ++
      (match items with
        | some items => [("items", items.toWire)]
        | none => []) ++
      member "enum" options textList
    .object ((base.merge (extra.map fun (name, value) => (name, .text value))).merge
      (limits.map fun (name, n) => (name, .int n)))

/-- Named schemas as they are sent. -/
def wireOfFields : List (String × Schema) → List (String × Json)
  | [] => []
  | (name, schema) :: rest => (name, schema.toWire) :: wireOfFields rest

end

/-- A value, or null. -/
def orNull {α : Type} (value : Option α) (write : α → Json) : Json :=
  match value with
  | some value => write value
  | none => .null

mutual

/-- All that a schema says, field by field. -/
def toJson : Schema → Json
  | ⟨kind, description, properties, required, items, options, limits, extra⟩ =>
    .object [
      ("kind", .text kind),
      ("description", orNull description .text),
      ("properties", match properties with
        | some properties => .object (jsonOfFields properties)
        | none => .null),
      ("required", orNull required textList),
      ("items", match items with
        | some items => items.toJson
        | none => .null),
      ("enum_values", orNull options textList),
      ("constraints", .object (limits.map fun (name, n) => (name, .int n))),
      ("extra", .object (extra.map fun (name, value) => (name, .text value)))]

/-- All that named schemas say. -/
def jsonOfFields : List (String × Schema) → List (String × Json)
  | [] => []
  | (name, schema) :: rest => (name, schema.toJson) :: jsonOfFields rest

end

end Schema
end Colloquy
