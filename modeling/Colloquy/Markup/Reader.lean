import Colloquy.Markup.Content
import Colloquy.Markup.Declaration
import Colloquy.Markup.DocType

/-! Reading a document: what stands before the document element, the element, and what follows it. Of a document type
the attributes are kept that it declares; entities that it could have declared elsewhere are skipped rather than
refused. Elements may be nested to any depth. -/
namespace Colloquy.Markup

/-- How far the prolog has been read. -/
inductive Stage where
  | start
  | ready (typed : Bool)
  | typeName
  | typeSource
  | publicId
  | systemId
  | afterSource
  | subset
  | declaring (progress : Declaring)
  | afterSubset

/-- What the prolog has told: the stage, and what its declarations allow. Declarations no longer count when others may
stand before them that are not read. -/
structure Prolog where
  stage : Stage
  alone : Bool
  elsewhere : Bool
  ignoring : Bool
  declared : Fields (List DeclaredAttribute)

/-- What holds before anything is read. -/
def Prolog.initial : Prolog := ⟨.start, false, false, false, []⟩

/-- Entities that are not declared may be declared elsewhere unless the document stands alone. -/
def Prolog.policy (p : Prolog) : Policy := ⟨p.elsewhere && !p.alone, p.declared⟩

/-- A character that a public identifier may hold. -/
def isPublicChar (c : Char) : Bool :=
  c.isAlphanum || c == ' ' || c == '\n' || c == '\r' || "-'()+,./:=?;!*#@$_%".toList.contains c

/-- Goes on after a public identifier; `after` counts what follows its token. -/
def Prolog.publicId (p : Prolog) (after : Nat) (body : List Char) (stage : Stage) : Except Halt Prolog :=
  match body.find? fun c => !isPublicChar c with
  | none => .ok { p with stage }
  | some _ => .error ⟨.illegalPublicId, after + 1 + (body.dropWhile isPublicChar).length⟩

/-- Declares an attribute of an element, unless it is declared already. -/
def Prolog.declare (p : Prolog) (owner : String) (new : DeclaredAttribute) : Prolog :=
  let known := (p.declared.get? owner).getD []
  if known.any (·.name == new.name) then p
  else { p with declared := Fields.put p.declared owner (known ++ [new]) }

/-- Goes on after an attribute is declared, with the value that it has where none is written. -/
def Prolog.attribute (p : Prolog) (left after : Nat) (subject : AttributeSubject) (tokens : Bool)
    (value : Option (List Char)) : Except Halt Prolog :=
  let p := { p with stage := .declaring (.attributeName subject.owner) }
  if p.ignoring then .ok p
  else
    match value with
    | none => .ok (p.declare subject.owner ⟨subject.name, tokens, none⟩)
    | some body =>
      match expandValue p.policy left (after + 1) body with
      | .error halt => .error halt
      | .ok cs =>
        let value := String.ofList (if tokens then joinTokens cs else cs)
        .ok (p.declare subject.owner ⟨subject.name, tokens, some value⟩)

/-- What is wrong with a token that is out of place. -/
def Outside.fault : Outside → Fault
  | .declaration _ _ => .misplacedDeclaration
  | .parameter => .parameterReference
  | _ => .syntaxError

/-- One token of a declaration; white space is nowhere out of place. -/
def Prolog.declaring (p : Prolog) (left after : Nat) (progress : Declaring) : Outside → Except Halt Prolog
  | .gap => .ok { p with stage := .declaring progress }
  | token =>
    match progress.advance token with
    | some (.to next) => .ok { p with stage := .declaring next }
    | some (.publicId body next) => p.publicId after body (.declaring next)
    | some (.attribute subject tokens value) => p.attribute left after subject tokens value
    | some .ended => .ok { p with stage := .subset }
    | none => .error ⟨token.fault, left⟩

/-- One token of the prolog; `left` is where it starts and `after` counts what follows it. -/
def Prolog.step (p : Prolog) (left after : Nat) (token : Outside) : Except Halt Prolog :=
  let refuse : Except Halt Prolog := .error ⟨token.fault, left⟩
  let go stage : Except Halt Prolog := .ok { p with stage }
  match p.stage, token with
  | .start, .declaration body spot =>
    match Declaration.read (spot - body.length) body with
    | .ok alone => .ok { p with stage := .ready false, alone }
    | .error spot => .error ⟨.malformedDeclaration, spot⟩
  | .start, .gap | .start, .comment | .start, .instruction => go (.ready false)
  | .ready typed, .gap | .ready typed, .comment | .ready typed, .instruction => go (.ready typed)
  | .start, .declarationOpen keyword | .ready false, .declarationOpen keyword =>
    if keyword == "DOCTYPE".toList then go .typeName else refuse
  | .typeName, .gap => go .typeName
  | .typeName, .name _ => go .typeSource
  | .typeSource, .gap => go .typeSource
  | .typeSource, .openBracket => go .subset
  | .typeSource, .close => go (.ready true)
  | .typeSource, .name word =>
    if word == "SYSTEM".toList then go .systemId
    else if word == "PUBLIC".toList then go .publicId
    else refuse
  | .publicId, .gap => go .publicId
  | .publicId, .literal body => p.publicId after body .systemId
  | .systemId, .gap => go .systemId
  | .systemId, .literal _ => .ok { p with stage := .afterSource, elsewhere := true }
  | .afterSource, .gap => go .afterSource
  | .afterSource, .openBracket => go .subset
  | .afterSource, .close => go (.ready true)
  | .subset, .gap | .subset, .comment | .subset, .instruction => go .subset
  | .subset, .parameter => .ok { p with elsewhere := true, ignoring := !p.alone }
  | .subset, .declarationOpen keyword =>
    match Declaring.start (String.ofList keyword) with
    | some progress => go (.declaring progress)
    | none => refuse
  | .subset, .closeBracket => go .afterSubset
  | .declaring progress, token => p.declaring left after progress token
  | .afterSubset, .gap => go .afterSubset
  | .afterSubset, .close => go (.ready true)
  | _, _ => refuse

/-- Reads the prolog up to the document element. -/
def prolog (p : Prolog) : Nat → List Char → Except Halt (Policy × List Char)
  | _, [] => .error ⟨.noElement, 0⟩
  | 0, cs => .error ⟨.unclosedToken, cs.length⟩
  | budget + 1, c :: rest =>
    match (outside c rest).orHalt (rest.length + 1) with
    | .error halt => .error halt
    | .ok (token, left) =>
      match token, p.stage with
      | .element, .start | .element, .ready _ => .ok (p.policy, c :: rest)
      | _, _ =>
        match p.step (rest.length + 1) left.length token with
        | .error halt => .error halt
        | .ok p => prolog p budget left

/-- Checks what follows the document element: white space, comments and processing instructions. -/
def epilog : Nat → List Char → Except Halt Unit
  | _, [] => .ok ()
  | 0, cs => .error ⟨.unclosedToken, cs.length⟩
  | budget + 1, c :: rest =>
    match (outside c rest).orHalt (rest.length + 1) with
    | .error halt => .error halt
    | .ok (.gap, left) | .ok (.comment, left) | .ok (.instruction, left) => epilog budget left
    | .ok _ => .error ⟨.junkAfterRoot, rest.length + 1⟩

/-- The document element, from its start tag on, and what follows it. -/
def root (policy : Policy) (cs : List Char) : Except Halt (Element × List Char) :=
  match Scan.orHalt cs.length (openingTag cs.tail) with
  | .error halt => .error halt
  | .ok ((q, raw, closed), rest) =>
    match openTag policy .initial cs.length q raw with
    | .error halt => .error halt
    | .ok (tag, attributes, spaces) =>
      if closed then .ok (⟨tag, attributes, []⟩, rest)
      else content policy ⟨q.written, tag, attributes, spaces, [], []⟩ [] rest

/-- The document without the mark of its byte order. -/
def withoutMark : List Char → List Char
  | '\uFEFF' :: rest => rest
  | cs => cs

/-- Reads a whole document. -/
def readDocument (cs : List Char) : Except Halt Element := do
  let cs := withoutMark cs
  let (policy, rest) ← prolog .initial cs.length cs
  let (element, rest) ← root policy rest
  epilog rest.length rest
  return element

/-- A fault with its place: the line counted from one, the column from zero. -/
structure Failure where
  fault : Fault
  line : Nat
  column : Nat
  deriving DecidableEq, Repr

/-- The text of a malformed document. -/
def Failure.message (failure : Failure) : String :=
  "Malformed markup: " ++ failure.fault.message ++ ": line " ++ toString failure.line ++ ", column " ++
    toString failure.column

/-- Reads a document; a fault is reported with its line and column. -/
def Element.parse (source : String) : Except Failure Element :=
  let cs := source.toList
  match readDocument cs with
  | .ok element => .ok element
  | .error ⟨fault, left⟩ =>
    let (line, column) := endPlace (cs.take (cs.length - left))
    .error ⟨fault, line, column⟩

end Colloquy.Markup
