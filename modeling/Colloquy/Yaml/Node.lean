import Colloquy.Yaml.Token

/-! Nodes of a YAML document: scalars, sequences and mappings, each perhaps with a tag. A reference to an anchor is the
node that the anchor names. -/
namespace Colloquy.Yaml

/-- A node. -/
inductive Node where
  | scalar (tag : Option String) (isPlain : Bool) (text : String)
  | sequence (tag : Option String) (items : List Node)
  | mapping (tag : Option String) (entries : List (Node × Node))
  deriving Inhabited

/-- What is left to read: the tokens ahead, and the anchors named so far. -/
structure Reading where
  tokens : List Token
  anchors : List (String × Node)

namespace Reading

/-- The next token; none at the end. -/
def next (r : Reading) : Except Problem (Option Token) :=
  match r.tokens with
  | [] => .ok none
  | .broken problem :: _ => .error problem
  | token :: _ => .ok (some token)

/-- Moves past a token. -/
def drop (r : Reading) : Reading := { r with tokens := r.tokens.drop 1 }

/-- Whether the next token is one of some; the end counts if it is said to. -/
def sees (r : Reading) (tokens : List Token) (atEnd : Bool) : Except Problem Bool := do
  match ← r.next with
  | some token => return tokens.contains token
  | none => return atEnd

end Reading

/-- A scalar that is not written at all. -/
def Node.empty : Node := .scalar none true ""

/-- Tags that handles stand for. -/
def handles : List (String × String) := [("!", "!"), ("!!", "tag:yaml.org,2002:")]

/-- What stands before a node: its anchor and its tag. -/
structure Properties where
  anchor : Option String
  tag : Option String

/-- The full tag of a handle and a suffix. -/
def fullTag (handle : Option String) (suffix : String) : Except Problem String :=
  match handle with
  | none => .ok suffix
  | some handle =>
    match handles.lookup handle with
    | some start => .ok (start ++ suffix)
    | none => .error .unknownHandle

/-- Reads an anchor and a tag, each at most once and in either order. -/
def readProperties (r : Reading) : Except Problem (Properties × Reading) := do
  match ← r.next with
  | some (.anchor anchor) =>
    match ← r.drop.next with
    | some (.tag handle suffix) => return (⟨some anchor, some (← fullTag handle suffix)⟩, r.drop.drop)
    | _ => return (⟨some anchor, none⟩, r.drop)
  | some (.tag handle suffix) =>
    match ← r.drop.next with
    | some (.anchor anchor) => return (⟨some anchor, some (← fullTag handle suffix)⟩, r.drop.drop)
    | _ => return (⟨none, some (← fullTag handle suffix)⟩, r.drop)
  | _ => return (⟨none, none⟩, r)

/-- Where a node stands: in a block, where a sequence need not be indented as the value of an entry, or in brackets. -/
inductive Place where
  | block
  | value
  | flow
  deriving DecidableEq

mutual

/-- Reads a node. -/
def readNode (steps : Nat) (place : Place) (r : Reading) : Except Problem (Node × Reading) := do
  match steps with
  | 0 => throw .unexpectedToken
  | steps + 1 =>
    match ← r.next with
    | some (.alias anchor) =>
      match r.anchors.lookup anchor with
      | some node => return (node, r.drop)
      | none => throw .unknownAnchor
    | _ =>
      let (properties, r) ← readProperties r
      if (properties.anchor.bind fun anchor => r.anchors.lookup anchor).isSome then throw .repeatedAnchor
      let tag := properties.tag
      let (node, r) ← match ← r.next with
        | some (.scalar isPlain text) => pure (Node.scalar tag isPlain text, r.drop)
        | some .openFlowSequence => do
          let (items, r) ← flowItems steps true r.drop
          pure (.sequence tag items, r)
        | some .openFlowMapping => do
          let (entries, r) ← flowEntries steps true r.drop
          pure (.mapping tag entries, r)
        | token =>
          if token == some .openSequence && place != .flow then do
            let (items, r) ← blockItems steps r.drop
            pure (.sequence tag items, r)
          else if token == some .openMapping && place != .flow then do
            let (entries, r) ← blockEntries steps r.drop
            pure (.mapping tag entries, r)
          else if token == some .item && place == .value then do
            let (items, r) ← flushItems steps r
            pure (.sequence tag items, r)
          else if properties.anchor.isSome || tag.isSome then pure (.scalar tag true "", r)
          else throw .unexpectedToken
      match properties.anchor with
      | some anchor => return (node, { r with anchors := (anchor, node) :: r.anchors })
      | none => return (node, r)

/-- Reads a node, or an empty one if a token follows that ends it. -/
def readNodeUnless (steps : Nat) (place : Place) (ends : List Token) (r : Reading) : Except Problem (Node × Reading) := do
  match steps with
  | 0 => throw .unexpectedToken
  | steps + 1 => if ← r.sees ends false then return (.empty, r) else readNode steps place r

/-- Reads the items of a block up to its end. -/
def blockItems (steps : Nat) (r : Reading) : Except Problem ((List Node) × Reading) := do
  match steps with
  | 0 => throw .unexpectedToken
  | steps + 1 =>
    match ← r.next with
    | some .item => do
      let (node, r) ← readNodeUnless steps .block [.item, .closeBlock] r.drop
      let (more, r) ← blockItems steps r
      return (node :: more, r)
    | some .closeBlock => return ([], r.drop)
    | _ => throw .unexpectedToken

/-- Reads the items of a sequence that is not indented. -/
def flushItems (steps : Nat) (r : Reading) : Except Problem ((List Node) × Reading) := do
  match steps with
  | 0 => throw .unexpectedToken
  | steps + 1 =>
    match ← r.next with
    | some .item => do
      let (node, r) ← readNodeUnless steps .block [.item, .name, .value, .closeBlock] r.drop
      let (more, r) ← flushItems steps r
      return (node :: more, r)
    | _ => return ([], r)

/-- Reads a value after the mark of one, or an empty one if there is no mark. -/
def readValue (steps : Nat) (place : Place) (ends : List Token) (r : Reading) : Except Problem (Node × Reading) := do
  match steps with
  | 0 => throw .unexpectedToken
  | steps + 1 =>
    match ← r.next with
    | some .value => readNodeUnless steps place ends r.drop
    | _ => return (.empty, r)

/-- Reads the entries of a block up to its end. -/
def blockEntries (steps : Nat) (r : Reading) : Except Problem ((List (Node × Node)) × Reading) := do
  match steps with
  | 0 => throw .unexpectedToken
  | steps + 1 =>
    let ends := [.name, .value, .closeBlock]
    match ← r.next with
    | some .name => do
      let (name, r) ← readNodeUnless steps .value ends r.drop
      let (value, r) ← readValue steps .value ends r
      let (more, r) ← blockEntries steps r
      return ((name, value) :: more, r)
    | some .closeBlock => return ([], r.drop)
    | _ => throw .unexpectedToken

/-- Reads the items between brackets up to the closing one. A name among them begins an entry that is an item. -/
def flowItems (steps : Nat) (first : Bool) (r : Reading) : Except Problem ((List Node) × Reading) := do
  match steps with
  | 0 => throw .unexpectedToken
  | steps + 1 =>
    if ← r.sees [.closeFlowSequence] false then return ([], r.drop)
    if !first && !(← r.sees [.comma] false) then throw .unexpectedToken
    let r := if first then r else r.drop
    match ← r.next with
    | some .closeFlowSequence => return ([], r.drop)
    | some .name => do
      let (name, r) ← readNodeUnless steps .flow [.value, .comma, .closeFlowSequence] r.drop
      let (value, r) ← readValue steps .flow [.comma, .closeFlowSequence] r
      let (more, r) ← flowItems steps false r
      return (.mapping none [(name, value)] :: more, r)
    | _ => do
      let (node, r) ← readNode steps .flow r
      let (more, r) ← flowItems steps false r
      return (node :: more, r)

/-- Reads the entries between braces up to the closing one. -/
def flowEntries (steps : Nat) (first : Bool) (r : Reading) : Except Problem ((List (Node × Node)) × Reading) := do
  match steps with
  | 0 => throw .unexpectedToken
  | steps + 1 =>
    if ← r.sees [.closeFlowMapping] false then return ([], r.drop)
    if !first && !(← r.sees [.comma] false) then throw .unexpectedToken
    let r := if first then r else r.drop
    match ← r.next with
    | some .closeFlowMapping => return ([], r.drop)
    | some .name => do
      let (name, r) ← readNodeUnless steps .flow [.value, .comma, .closeFlowMapping] r.drop
      let (value, r) ← readValue steps .flow [.comma, .closeFlowMapping] r
      let (more, r) ← flowEntries steps false r
      return ((name, value) :: more, r)
    | _ => do
      let (name, r) ← readNode steps .flow r
      let (more, r) ← flowEntries steps false r
      return ((name, .empty) :: more, r)

end

/-- Moves past directives. -/
def skipDirectives : List Token → List Token
  | .directive :: rest => skipDirectives rest
  | tokens => tokens

/-- Moves past marks that end a document. -/
def skipEnds : List Token → List Token
  | .documentEnd :: rest => skipEnds rest
  | tokens => tokens

/-- Reads the content of a document. -/
def readContent (r : Reading) : Except Problem (Node × Reading) :=
  readNodeUnless (4 * r.tokens.length + 4) .block [.directive, .documentStart, .documentEnd] r

/-- Reads the mark of a document after directives. -/
def readStart (r : Reading) : Except Problem (Unit × Reading) := do
  let r := { r with tokens := skipDirectives r.tokens }
  match ← r.next with
  | some .documentStart => return ((), r.drop)
  | _ => throw .unexpectedToken

/-- Reads the single document of a text; none if there is none. -/
def readDocument (s : String) : Except Problem (Option Node) := do
  let r : Reading := ⟨tokens s, []⟩
  match ← r.next with
  | none => return none
  | some token =>
    let (node, r) ←
      if token == .directive || token == .documentStart then do
        let (_, r) ← readStart r
        if r.tokens.isEmpty then pure (.empty, r) else readContent r
      else readNode (4 * r.tokens.length + 4) .block r
    let r := { r with tokens := skipEnds r.tokens }
    match ← r.next with
    | none => return some node
    | some _ => do
      let _ ← readStart r
      throw .severalDocuments

end Colloquy.Yaml
