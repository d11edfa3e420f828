import Colloquy.Markup.Node
import Colloquy.Schema.Basic
import Colloquy.Text.Numeral
import Colloquy.Text.Quoted

/-! Schemas declared in markup. An element stands for an object if its type says so, or if it has no type and declares
properties; otherwise it is a leaf, whose options are its allowed values. An attribute that asks for an array makes all
of this the schema of the items. -/
namespace Colloquy.Schema
open Colloquy.Markup

/-- The attribute of an element that should be an integer and is not. -/
structure BadLimit where
  tag : String
  name : String
  value : String
  deriving DecidableEq, Repr

/-- The wording of a bad limit. -/
def BadLimit.message (bad : BadLimit) : String :=
  "<" ++ bad.tag ++ "> attribute " ++ bad.name ++ "=" ++ Text.quoted bad.value ++ " must be an integer"

/-- Attributes whose value is an integer. -/
def limitNames : List String := ["minItems", "maxItems", "minLength", "maxLength", "minimum", "maximum"]

/-- Of these, the ones that are about an array and not about its items. -/
def arrayLimitNames : List String := ["minItems", "maxItems"]

/-- Attributes that say what an element is for. -/
def structuralNames : List String := ["action", "array", "name", "store", "from"]

/-- Attributes that describe an element, the first that is present counting. -/
def descriptionNames : List String := ["d", "description"]

/-- An element that declares a property. -/
def isProperty (e : Element) : Bool := (e.tag == "p" || e.tag == "opt") && e.has "name"

/-- An element that lists an allowed value. -/
def isOption (e : Element) : Bool := e.tag == "opt" && e.has "value" && !e.has "name"

/-- The description of an element. -/
def descriptionOf (attributes : Fields String) : Option String := descriptionNames.findSome? attributes.get?

/-- The integer that an attribute writes. -/
def limit (tag name value : String) : Except BadLimit Int :=
  match Text.readInteger? 10 value with
  | some n => .ok n
  | none => .error ⟨tag, name, value⟩

/-- The limits among some attributes that have been chosen. -/
def limitsOf (tag : String) (attributes : Fields String) : Except BadLimit (Fields Int) :=
  attributes.mapM fun (name, value) => (limit tag name value).map fun n => (name, n)

/-- Attributes that say something about the values of a leaf. -/
def describesLeaf (skipped : List String) (name : String) : Bool :=
  !(structuralNames.contains name || descriptionNames.contains name || name == "type" || skipped.contains name)

/-- The allowed values that an element's children list. -/
def optionsIn (children : List Node) : List String :=
  children.filterMap fun
    | .element child => if isOption child then child.get? "value" else none
    | _ => none

/-- The schema of a leaf. -/
def leaf (tag : String) (attributes : Fields String) (children : List Node) (kind : String)
    (description : Option String) (skipped : List String) : Except BadLimit Schema := do
  let own := attributes.filter fun (name, _) => describesLeaf skipped name
  let limits ← limitsOf tag (own.filter fun (name, _) => limitNames.contains name)
  let options := optionsIn children
  return { ofKind kind with
    description
    options := if options.isEmpty then none else some options
    limits
    extra := own.filter fun (name, _) => !limitNames.contains name }

/-- Whether an element of this kind stands for an object. -/
def declaresObject (kind : Option String) (children : List Node) : Bool :=
  match kind with
  | some kind => kind == "object"
  | none => children.any fun
    | .element child => isProperty child
    | _ => false

/-- A property that a child declares. -/
structure Declared where
  name : String
  isRequired : Bool
  schema : Schema

/-- The schema of an object with these properties; of several with one name the last counts, and it is required if any
of them is. -/
def ofDeclared (description : Option String) (declared : List Declared) : Schema :=
  { ofKind "object" with
    description
    properties := some (Fields.ofPairs (declared.map fun d => (d.name, d.schema)))
    required := some (declared.filterMap fun d => if d.isRequired then some d.name else none).eraseDups }

/-- A text that is not empty. -/
def nonEmpty (s : String) : Option String := if s.isEmpty then none else some s

mutual

/-- The schema that an element declares. -/
def ofElement : Element → Except BadLimit Schema
  | ⟨tag, attributes, children⟩ =>
    let description := descriptionOf attributes
    match Fields.get? attributes "array" with
    | some array => do
      let kind := nonEmpty array
      let items ← if declaresObject kind children then (declaredIn children).map (ofDeclared none)
        else leaf tag attributes children (kind.getD "string") none arrayLimitNames
      let limits ← limitsOf tag (arrayLimitNames.filterMap fun name =>
        (Fields.get? attributes name).map fun value => (name, value))
      return { ofKind "array" with description, items := some items, limits }
    | none =>
      let kind := Fields.get? attributes "type"
      if declaresObject kind children then (declaredIn children).map (ofDeclared description)
      else leaf tag attributes children ((kind.bind nonEmpty).getD "string") description []

/-- The properties that children declare, in order. -/
def declaredIn : List Node → Except BadLimit (List Declared)
  | [] => .ok []
  | .element child :: rest =>
    if isProperty child then
      match ofElement child with
      | .error bad => .error bad
      | .ok schema =>
        (declaredIn rest).map fun more => ⟨(child.get? "name").getD "", child.tag == "p", schema⟩ :: more
    else declaredIn rest
  | .text _ :: rest => declaredIn rest
  | .comment _ :: rest => declaredIn rest

end

end Colloquy.Schema
