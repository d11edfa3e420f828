import Colloquy.Markup.Outside
import Colloquy.Markup.Space

/-! Declarations in a document type: those of elements, of attributes and of notations. What is declared of attributes
is the only thing that reading a document depends on. -/
namespace Colloquy.Markup

/-- An attribute that is being declared, and the element that it belongs to. -/
structure AttributeSubject where
  owner : String
  name : QName

/-- How far a declaration has been read. Groups that are open are given by their connectors, the innermost first. -/
inductive Declaring where
  | elementName
  | elementContent
  | firstItem
  | item (groups : List (Option Char))
  | itemEnd (groups : List (Option Char))
  | mixedEnd
  | mixedName
  | mixedNameEnd
  | attributeOwner
  | attributeName (owner : String)
  | attributeType (subject : AttributeSubject)
  | notations (subject : AttributeSubject)
  | choice (subject : AttributeSubject) (named : Bool)
  | choiceEnd (subject : AttributeSubject) (named : Bool)
  | attributeDefault (subject : AttributeSubject) (tokens : Bool)
  | attributeFixed (subject : AttributeSubject) (tokens : Bool)
  | notationName
  | notationSource
  | notationPublicId
  | notationSystemId
  | notationRest
  | ending
  | unread

/-- What a token does in a declaration. -/
inductive Advance where
  | to (next : Declaring)
  | publicId (body : List Char) (next : Declaring)
  | attribute (subject : AttributeSubject) (tokens : Bool) (value : Option (List Char))
  | ended

/-- How a declaration in a document type begins, by its keyword. What entities are declared is not read. -/
def Declaring.start : String → Option Declaring
  | "ELEMENT" => some .elementName
  | "ATTLIST" => some .attributeOwner
  | "NOTATION" => some .notationName
  | "ENTITY" => some .unread
  | _ => none

/-- The name that is written as a word of one part or of two. -/
def QName.ofWord (word : List Char) : QName :=
  match word.dropWhile (· != ':') with
  | [] => ⟨none, String.ofList word⟩
  | _ :: base => ⟨some (String.ofList (word.takeWhile (· != ':'))), String.ofList base⟩

/-- The types of attributes whose values are lists of tokens. -/
def tokenTypes : List String := ["ID", "IDREF", "IDREFS", "ENTITY", "ENTITIES", "NMTOKEN", "NMTOKENS"]

/-- What the name of a type says of an attribute. -/
def typed (subject : AttributeSubject) (type : String) : Option Advance :=
  if type == "CDATA" then some (.to (.attributeDefault subject false))
  else if tokenTypes.contains type then some (.to (.attributeDefault subject true))
  else if type == "NOTATION" then some (.to (.notations subject))
  else none

/-- An item of a group: a name, or another group. -/
def itemOf (groups : List (Option Char)) : Outside → Option Advance
  | .name _ | .markedName => some (.to (.itemEnd groups))
  | .openParen => some (.to (.item (none :: groups)))
  | _ => none

/-- A connector after an item; the items of a group all have the same one between them. -/
def connect (connector : Char) : List (Option Char) → Option Advance
  | none :: groups => some (.to (.item (some connector :: groups)))
  | some earlier :: groups => if earlier == connector then some (.to (.item (some earlier :: groups))) else none
  | [] => none

/-- What a token does in a declaration, white space apart; it may be out of place. -/
def Declaring.advance : Declaring → Outside → Option Advance
  | elementName, .name _ => some (.to elementContent)
  | elementContent, .name word => if ["EMPTY", "ANY"].contains (String.ofList word) then some (.to ending) else none
  | elementContent, .openParen => some (.to firstItem)
  | firstItem, .hashName word => if word == "PCDATA" then some (.to mixedEnd) else none
  | firstItem, token => itemOf [none] token
  | item groups, token => itemOf groups token
  | itemEnd [_], .closeParen _ => some (.to ending)
  | itemEnd (_ :: groups), .closeParen _ => some (.to (itemEnd groups))
  | itemEnd groups, .comma => connect ',' groups
  | itemEnd groups, .bar => connect '|' groups
  | mixedEnd, .closeParen mark => if mark.all (· == '*') then some (.to ending) else none
  | mixedEnd, .bar => some (.to mixedName)
  | mixedName, .name _ => some (.to mixedNameEnd)
  | mixedNameEnd, .bar => some (.to mixedName)
  | mixedNameEnd, .closeParen (some '*') => some (.to ending)
  | attributeOwner, .name word => some (.to (attributeName (String.ofList word)))
  | attributeName owner, .name word => some (.to (attributeType ⟨owner, .ofWord word⟩))
  | attributeName _, .close => some .ended
  | attributeType subject, .name word => typed subject (String.ofList word)
  | attributeType subject, .openParen => some (.to (choice subject false))
  | notations subject, .openParen => some (.to (choice subject true))
  | choice subject true, .name word => if word.contains ':' then none else some (.to (choiceEnd subject true))
  | choice subject false, .name _ => some (.to (choiceEnd subject false))
  | choice subject false, .word => some (.to (choiceEnd subject false))
  | choiceEnd subject named, .bar => some (.to (choice subject named))
  | choiceEnd subject _, .closeParen none => some (.to (attributeDefault subject true))
  | attributeDefault subject tokens, .hashName word =>
    if ["IMPLIED", "REQUIRED"].contains word then some (.attribute subject tokens none)
    else if word == "FIXED" then some (.to (attributeFixed subject tokens))
    else none
  | attributeDefault subject tokens, .literal body => some (.attribute subject tokens (some body))
  | attributeFixed subject tokens, .literal body => some (.attribute subject tokens (some body))
  | notationName, .name word => if word.contains ':' then none else some (.to notationSource)
  | notationSource, .name word =>
    if word == "SYSTEM".toList then some (.to notationSystemId)
    else if word == "PUBLIC".toList then some (.to notationPublicId)
    else none
  | notationPublicId, .literal body => some (.publicId body notationRest)
  | notationSystemId, .literal _ => some (.to ending)
  | notationRest, .literal _ => some (.to ending)
  | notationRest, .close => some .ended
  | ending, .close => some .ended
  | unread, .close => some .ended
  | unread, _ => some (.to unread)
  | _, _ => none

end Colloquy.Markup
