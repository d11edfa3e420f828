import Colloquy.Markup.Node

/-! Writing a tree of markup. Characters that would read as markup are escaped; in an attribute so are tabs and
line ends, which reading would turn into spaces. -/
namespace Colloquy.Markup

/-- A character of text. -/
def escapeText (c : Char) : List Char :=
  if c == '&' then "&amp;".toList
  else if c == '<' then "&lt;".toList
  else if c == '>' then "&gt;".toList
  else [c]

/-- A character of an attribute value. -/
def escapeValue (c : Char) : List Char :=
  if c == '\n' then "&#10;".toList
  else if c == '\r' then "&#13;".toList
  else if c == '\t' then "&#9;".toList
  else escapeText c

/-- A value in double quotes, or in single ones when it holds double ones and no single one. -/
def quoteValue (value : String) : String :=
  let cs := value.toList
  if !cs.contains '"' then String.ofList ('"' :: cs.flatMap escapeValue ++ ['"'])
  else if cs.contains '\'' then
    String.ofList ('"' :: cs.flatMap (fun c => if c == '"' then "&quot;".toList else escapeValue c) ++ ['"'])
  else String.ofList ('\'' :: cs.flatMap escapeValue ++ ['\''])

/-- The attributes of a tag, each after a space. -/
def writeAttributes (attributes : List (String × String)) : String :=
  String.join (attributes.map fun (name, value) => " " ++ name ++ "=" ++ quoteValue value)

mutual

/-- The markup of a node. -/
def Node.write : Node → String
  | .text value => String.ofList (value.toList.flatMap escapeText)
  | .comment value => "<!--" ++ value ++ "-->"
  | .element e => e.write

/-- The markup of an element; one without children is closed by its own tag. -/
def Element.write : Element → String
  | ⟨tag, attributes, []⟩ => "<" ++ tag ++ writeAttributes attributes ++ "/>"
  | ⟨tag, attributes, first :: rest⟩ =>
    "<" ++ tag ++ writeAttributes attributes ++ ">" ++ first.write ++ writeNodes rest ++
      "</" ++ tag ++ ">"

/-- The markup of several nodes, one after the other. -/
def writeNodes : List Node → String
  | [] => ""
  | node :: rest => node.write ++ writeNodes rest

end

end Colloquy.Markup
