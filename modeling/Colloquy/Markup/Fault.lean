import Colloquy.Text.Lines

/-! What can be wrong with markup, and where. Offsets are kept as the number of characters that are left from
the spot on, so that a reader of the rest of a document needs no counter. -/
namespace Colloquy.Markup

/-- A way in which a document is malformed. -/
inductive Fault where
  | syntaxError
  | noElement
  | invalidToken
  | unclosedToken
  | mismatchedTag
  | duplicateAttribute
  | junkAfterRoot
  | undefinedEntity
  | skippedEntity (name : String)
  | invalidCharacterNumber
  | misplacedDeclaration
  | malformedDeclaration
  | illegalPublicId
  | parameterReference
  | unclosedCharacterData
  | unboundSpace
  | undeclaredSpace
  | reservedXml
  | reservedXmlns
  | reservedUri
  deriving DecidableEq, Repr

/-- The text of a fault. -/
def Fault.message : Fault → String
  | syntaxError => "syntax error"
  | noElement => "no element found"
  | invalidToken => "not well-formed (invalid token)"
  | unclosedToken => "unclosed token"
  | mismatchedTag => "mismatched tag"
  | duplicateAttribute => "duplicate attribute"
  | junkAfterRoot => "junk after document element"
  | undefinedEntity => "undefined entity"
  | skippedEntity name => "undefined entity &" ++ name ++ ";"
  | invalidCharacterNumber => "reference to invalid character number"
  | misplacedDeclaration => "XML or text declaration not at start of entity"
  | malformedDeclaration => "XML declaration not well-formed"
  | illegalPublicId => "illegal character(s) in public id"
  | parameterReference => "illegal parameter entity reference"
  | unclosedCharacterData => "unclosed CDATA section"
  | unboundSpace => "unbound prefix"
  | undeclaredSpace => "must not undeclare prefix"
  | reservedXml =>
    "reserved prefix (xml) must not be undeclared or bound to another namespace name"
  | reservedXmlns => "reserved prefix (xmlns) must not be declared or undeclared"
  | reservedUri => "prefix must not be bound to one of the reserved namespace names"

/-- A fault at the character from which on `left` characters are left. -/
structure Halt where
  fault : Fault
  left : Nat
  deriving DecidableEq, Repr

/-- Line ends before the end of `cs`: a carriage return, a line feed, or the two together. -/
def lineEnds : List Char → Nat
  | '\r' :: '\n' :: rest => lineEnds rest + 1
  | c :: rest => lineEnds rest + if c == '\r' || c == '\n' then 1 else 0
  | [] => 0

/-- The line, counted from one, and the column, counted from zero, of the end of `cs`. -/
def endPlace (cs : List Char) : Nat × Nat :=
  (lineEnds cs + 1, (cs.reverse.takeWhile fun c => c != '\r' && c != '\n').length)

end Colloquy.Markup
