import Colloquy.Fields
import Colloquy.Markup.Scan

/-! Attribute values and namespaces. References in a value are replaced and its white space becomes spaces; a
prefix is replaced by the namespace that the nearest declaration binds to it. -/
namespace Colloquy.Markup

/-- Namespaces by prefix; the empty prefix holds the one for names without a prefix. -/
abbrev Spaces := Fields String

/-- Where the names of the reserved namespaces start. -/
def reservedHost : String := "http:" ++ "//www.w3.org/"

/-- The namespace that the prefix `xml` always means. -/
def xmlSpace : String := reservedHost ++ "XML/1998/namespace"

/-- The namespace of declarations, which no prefix may be bound to. -/
def xmlnsSpace : String := reservedHost ++ "2000/xmlns/"

/-- What is bound before any declaration. -/
def Spaces.initial : Spaces := [("xml", xmlSpace)]

/-- The characters that entities without a declaration stand for. -/
def predefined : String → Option Char
  | "lt" => some '<'
  | "gt" => some '>'
  | "amp" => some '&'
  | "quot" => some '"'
  | "apos" => some '\''
  | _ => none

/-- The character of a numeric reference; some numbers name none that may occur. -/
def characterOf (n : Nat) : Option Char :=
  if n < 0x110000 && !(0xD800 ≤ n && n ≤ 0xDFFF) && isAllowed (Char.ofNat n) then some (Char.ofNat n)
  else none

/-- An attribute as a document type declares it: whether its value is a list of tokens, and the value that it has where
none is written. -/
structure DeclaredAttribute where
  name : QName
  tokens : Bool
  value : Option String
  deriving Repr

/-- What a reading needs to know about the document's declarations: whether an entity that is not declared may
have been declared elsewhere and is skipped, and the attributes that are declared for each tag. -/
structure Policy where
  skips : Bool
  declared : Fields (List DeclaredAttribute)
  deriving Repr

/-- Where a scanner stopped; `left` is where its token starts, which it never left when the token is unfinished. -/
def Stop.spot (left : Nat) : Stop → Nat
  | .invalid spot => spot
  | .unfinished => left

/-- The value that is meant by a quoted one. `after` counts the characters behind the value, and `tagLeft` tells
where its tag starts. -/
def expandValue (policy : Policy) (tagLeft after : Nat) (cs : List Char) : Except Halt (List Char) :=
  match cs with
  | [] => .ok []
  | '&' :: rest =>
    match _read : reference rest with
    | .error stop => .error ⟨.invalidToken, after + stop.spot (rest.length + 1)⟩
    | .ok (.code n, left) =>
      match characterOf n with
      | some c => (expandValue policy tagLeft after left).map (c :: ·)
      | none => .error ⟨.invalidCharacterNumber, after + rest.length + 1⟩
    | .ok (.entity name, left) =>
      match predefined name with
      | some c => (expandValue policy tagLeft after left).map (c :: ·)
      | none =>
        if policy.skips then expandValue policy tagLeft after left
        else .error ⟨.undefinedEntity, tagLeft⟩
  | '<' :: rest => .error ⟨.invalidToken, after + rest.length + 1⟩
  | '\r' :: '\n' :: rest => (expandValue policy tagLeft after rest).map (' ' :: ·)
  | c :: rest => (expandValue policy tagLeft after rest).map ((if isGap c then ' ' else c) :: ·)
termination_by cs.length
decreasing_by
  · have := reference_forward rest _ _ _read
    simp only [List.length_cons]
    omega
  · have := reference_forward rest _ _ _read
    simp only [List.length_cons]
    omega
  · have := reference_forward rest _ _ _read
    simp only [List.length_cons]
    omega
  · simp only [List.length_cons]
    omega
  · simp only [List.length_cons]
    omega

/-- Binds a prefix, or the default, to a namespace. -/
def Spaces.declare (spaces : Spaces) (space : Option String) (uri : String) : Except Fault Spaces :=
  let xml := uri == xmlSpace
  match space with
  | none =>
    if uri.toList.contains '\x7d' then .error .syntaxError
    else if xml || uri == xmlnsSpace then .error .reservedUri
    else .ok (Fields.put spaces "" uri)
  | some name =>
    if uri.isEmpty then .error .undeclaredSpace
    else if name == "xmlns" then .error .reservedXmlns
    else if uri.toList.contains '\x7d' then .error .syntaxError
    else if name == "xml" && !xml then .error .reservedXml
    else if name != "xml" && (xml || uri == xmlnsSpace) then .error .reservedUri
    else .ok (Fields.put spaces name uri)

/-- A name in its namespace. -/
def expandedName (uri base : String) : String := "\x7b" ++ uri ++ "\x7d" ++ base

/-- Whether an attribute declares a namespace, and for which prefix. -/
def declaredSpace : QName → Option (Option String)
  | ⟨none, "xmlns"⟩ => some none
  | ⟨some "xmlns", name⟩ => some (some name)
  | _ => none

/-- A start tag with its values expanded: the attributes that are no declarations, and the namespaces. -/
structure Opening where
  seen : List String
  attributes : List (QName × String)
  spaces : Spaces

/-- Keeps one space of several, and none after another one or where `after` says that one was there. -/
def singleSpaces (after : Bool) : List Char → List Char
  | [] => []
  | c :: rest => if c == ' ' && after then singleSpaces true rest else c :: singleSpaces (c == ' ') rest

/-- A value that is a list of tokens, with one space between them and none around them. -/
def joinTokens (cs : List Char) : List Char :=
  let kept := singleSpaces true cs
  if kept.getLast? == some ' ' then kept.dropLast else kept

/-- Whether an attribute is declared to be a list of tokens. -/
def hasTokens (declared : List DeclaredAttribute) (name : QName) : Bool :=
  (declared.find? fun known => known.name == name).any DeclaredAttribute.tokens

/-- Takes an attribute with its value. One that declares a namespace binds it. -/
def Opening.take (tagLeft : Nat) (opening : Opening) (name : QName) (value : String) : Except Halt Opening :=
  let seen := name.written :: opening.seen
  match declaredSpace name with
  | none => .ok { opening with seen, attributes := opening.attributes ++ [(name, value)] }
  | some space =>
    match opening.spaces.declare space value with
    | .ok spaces => .ok { opening with seen, spaces }
    | .error fault => .error ⟨fault, tagLeft⟩

/-- Adds one attribute that is written. -/
def Opening.add (policy : Policy) (declared : List DeclaredAttribute) (tagLeft : Nat) (opening : Opening)
    (raw : RawAttribute) : Except Halt Opening :=
  if opening.seen.contains raw.name.written then .error ⟨.duplicateAttribute, raw.left⟩
  else
    match expandValue policy tagLeft (raw.valueLeft - raw.value.length) raw.value with
    | .error halt => .error halt
    | .ok cs =>
      let value := if hasTokens declared raw.name then joinTokens cs else cs
      opening.take tagLeft raw.name (String.ofList value)

/-- Adds one attribute that is declared, unless it is written or has no value of its own. -/
def Opening.addMissing (tagLeft : Nat) (opening : Opening) (known : DeclaredAttribute) : Except Halt Opening :=
  match known.value with
  | none => .ok opening
  | some value =>
    if opening.seen.contains known.name.written then .ok opening else opening.take tagLeft known.name value

/-- Names in their namespaces; two prefixes for one namespace may not repeat a name. -/
def expandNames (spaces : Spaces) (tagLeft : Nat) :
    List (QName × String) → List String → Except Halt (List (String × String))
  | [], _ => .ok []
  | (⟨none, base⟩, value) :: rest, seen => (expandNames spaces tagLeft rest seen).map ((base, value) :: ·)
  | (⟨some space, base⟩, value) :: rest, seen =>
    match spaces.get? space with
    | none => .error ⟨.unboundSpace, tagLeft⟩
    | some uri =>
      let name := expandedName uri base
      if seen.contains name then .error ⟨.duplicateAttribute, tagLeft⟩
      else (expandNames spaces tagLeft rest (name :: seen)).map ((name, value) :: ·)

/-- The tag of an element in its namespace; the default one counts unless it is empty. -/
def elementName (spaces : Spaces) (q : QName) : Option String :=
  match q.space with
  | some space => (spaces.get? space).map (expandedName · q.base)
  | none =>
    match spaces.get? "" with
    | some uri => if uri.isEmpty then some q.base else some (expandedName uri q.base)
    | none => some q.base

/-- The tag, the attributes and the namespaces of an element. -/
def openTag (policy : Policy) (spaces : Spaces) (tagLeft : Nat) (q : QName) (raw : List RawAttribute) :
    Except Halt (String × List (String × String) × Spaces) :=
  let declared := (policy.declared.get? q.written).getD []
  match raw.foldlM (Opening.add policy declared tagLeft) ⟨[], [], spaces⟩ with
  | .error halt => .error halt
  | .ok written =>
    match declared.foldlM (Opening.addMissing tagLeft) written with
    | .error halt => .error halt
    | .ok opening =>
      match expandNames opening.spaces tagLeft opening.attributes [] with
      | .error halt => .error halt
      | .ok attributes =>
        match elementName opening.spaces q with
        | none => .error ⟨.unboundSpace, tagLeft⟩
        | some tag => .ok (tag, attributes, opening.spaces)

end Colloquy.Markup
