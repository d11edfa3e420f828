import Colloquy.Fields

/-! Trees of markup. An element has a tag, attributes in their order and children in their order; text and
comments stand between elements where they were written. -/
namespace Colloquy.Markup

mutual

/-- An element with its attributes and children. -/
structure Element where
  tag : String
  attributes : List (String × String)
  children : List Node

/-- A piece of an element's content. -/
inductive Node where
  | text (value : String)
  | comment (value : String)
  | element (e : Element)

end

deriving instance BEq for Node, Element

instance : Inhabited Node := ⟨.text ""⟩

instance : Inhabited Element := ⟨"", [], []⟩

namespace Element

/-- The child elements, without text and comments. -/
def elements (e : Element) : List Element :=
  e.children.filterMap fun
    | .element child => some child
    | _ => none

/-- The character data between the children, joined. -/
def text (e : Element) : String :=
  String.join (e.children.filterMap fun
    | .text value => some value
    | _ => none)

/-- The value of an attribute. -/
def get? (e : Element) (name : String) : Option String := Fields.get? e.attributes name

/-- Whether an attribute is present. -/
def has (e : Element) (name : String) : Bool := Fields.has e.attributes name

end Element
end Colloquy.Markup
