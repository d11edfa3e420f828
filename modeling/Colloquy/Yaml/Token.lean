import Colloquy.Yaml.Scalar

/-! Tokens of a YAML text. Indentation opens and closes blocks. What may be the name of an entry is remembered until a
colon shows that it is one, and then the tokens for it are put in front of it. -/
namespace Colloquy.Yaml

/-- A token. -/
inductive Token where
  | directive
  | documentStart
  | documentEnd
  | openSequence
  | openMapping
  | closeBlock
  | openFlowSequence
  | openFlowMapping
  | closeFlowSequence
  | closeFlowMapping
  | item
  | comma
  | name
  | value
  | alias (anchor : String)
  | anchor (anchor : String)
  | tag (handle : Option String) (suffix : String)
  | scalar (isPlain : Bool) (text : String)
  | broken (problem : Problem)
  deriving DecidableEq

/-- A place where the name of an entry may have begun: the number of its first token, whether it must be a name, and
where it stands. -/
structure Candidate where
  token : Nat
  required : Bool
  index : Nat
  line : Nat
  column : Nat

/-- The state of reading tokens: how deep inside brackets, the indentation of the block and of those around it, whether
a name may begin, the candidates by depth, and the tokens so far. -/
structure Lexer where
  cursor : Cursor
  flow : Nat
  indent : Int
  outer : List Int
  mayBegin : Bool
  candidates : List (Nat × Candidate)
  tokens : List Token

/-- A step of reading tokens. -/
abbrev Lexing := Except Problem Lexer

namespace Lexer

/-- The start of a text. -/
def start (s : String) : Lexer := ⟨.start s, 0, -1, [], true, [], []⟩

/-- Adds a token. -/
def emit (l : Lexer) (token : Token) : Lexer := { l with tokens := l.tokens ++ [token] }

/-- Moves on. -/
def forward (l : Lexer) (n : Nat) : Lexer := { l with cursor := l.cursor.forward n }

/-- The column of the next character. -/
def column (l : Lexer) : Int := l.cursor.column

/-- Passes over blanks, comments and line ends. After a line end a name may begin. -/
def skipGaps : Nat → Lexer → Lexer
  | 0, l => l
  | steps + 1, l =>
    let cursor := l.cursor.skip (· == ' ')
    let cursor := if cursor.sees 0 (· == '#') then cursor.skip (!isBreak ·) else cursor
    let l := { l with cursor }
    if cursor.sees 0 isBreak then
      skipGaps steps { l with cursor := cursor.takeBreak.2, mayBegin := l.mayBegin || l.flow == 0 }
    else l

/-- Gives up candidates that are on an earlier line or too far back. -/
def dropStale (l : Lexer) : Lexing :=
  let isStale (candidate : Candidate) : Bool :=
    candidate.line != l.cursor.line || l.cursor.index - candidate.index > 1024
  if l.candidates.any fun (_, candidate) => isStale candidate && candidate.required then .error .missingColon
  else .ok { l with candidates := l.candidates.filter fun (_, candidate) => !isStale candidate }

/-- The candidate at the present depth. -/
def candidate? (l : Lexer) : Option Candidate := l.candidates.lookup l.flow

/-- Forgets the candidate at the present depth. -/
def forget (l : Lexer) : Lexer := { l with candidates := l.candidates.filter fun (flow, _) => flow != l.flow }

/-- Gives up the candidate at the present depth. -/
def giveUp (l : Lexer) : Lexing :=
  match l.candidate? with
  | some candidate => if candidate.required then .error .missingColon else .ok l.forget
  | none => .ok l

/-- Remembers that the next token may begin a name. -/
def remember (l : Lexer) : Lexing :=
  if l.mayBegin then do
    let l ← l.giveUp
    let candidate : Candidate :=
      ⟨l.tokens.length, l.flow == 0 && l.indent == l.column, l.cursor.index, l.cursor.line, l.cursor.column⟩
    return { l with candidates := (l.flow, candidate) :: l.candidates }
  else return l

/-- Closes the blocks that are indented by more than a column. -/
def unwindTo (column : Int) (l : Lexer) : List Int → Lexer
  | [] => { l with outer := [] }
  | indent :: outer =>
    if l.flow == 0 && column < l.indent then unwindTo column { l.emit .closeBlock with indent } outer
    else { l with outer := indent :: outer }

/-- Closes the blocks that are indented by more than a column. -/
def unwind (column : Int) (l : Lexer) : Lexer := l.unwindTo column l.outer

/-- Opens a block at a column if that is deeper than the present one. Its token comes at a given number. -/
def deepen (l : Lexer) (column : Int) (number : Nat) (token : Token) : Lexer :=
  if l.indent < column then
    { l with outer := l.indent :: l.outer, indent := column, tokens := l.tokens.insertIdx number token }
  else l

/-- Opens brackets. -/
def openFlow (token : Token) (l : Lexer) : Lexing := do
  let l ← l.remember
  return { (l.emit token).forward 1 with flow := l.flow + 1, mayBegin := true }

/-- Closes brackets. -/
def closeFlow (token : Token) (l : Lexer) : Lexing := do
  let l ← l.giveUp
  return { (l.emit token).forward 1 with flow := l.flow - 1, mayBegin := false }

/-- A comma. -/
def comma (l : Lexer) : Lexing := do
  let l ← { l with mayBegin := true }.giveUp
  return (l.emit .comma).forward 1

/-- Opens a block, outside of brackets, for a mark that stands where one may begin. -/
def openAtMark (l : Lexer) (token : Token) (misplaced : Problem) : Lexing :=
  if l.flow != 0 then .ok l
  else if !l.mayBegin then .error misplaced
  else .ok (l.deepen l.column l.tokens.length token)

/-- The mark of an item. -/
def item (l : Lexer) : Lexing := do
  let l ← l.openAtMark .openSequence .misplacedEntry
  let l ← { l with mayBegin := true }.giveUp
  return (l.emit .item).forward 1

/-- The mark of a name. -/
def name (l : Lexer) : Lexing := do
  let l ← l.openAtMark .openMapping .misplacedName
  let l ← { l with mayBegin := l.flow == 0 }.giveUp
  return (l.emit .name).forward 1

/-- The mark of a value. If a candidate stands before it, that is the name. -/
def value (l : Lexer) : Lexing := do
  match l.candidate? with
  | some candidate =>
    let l := l.forget
    let l := { l with tokens := l.tokens.insertIdx candidate.token .name, mayBegin := false }
    let l := if l.flow == 0 then l.deepen candidate.column candidate.token .openMapping else l
    return (l.emit .value).forward 1
  | none =>
    let l ← l.openAtMark .openMapping .misplacedValue
    let l ← { l with mayBegin := l.flow == 0 }.giveUp
    return (l.emit .value).forward 1

/-- Begins a token that may be a name; none may follow it. -/
def begin (l : Lexer) : Lexing := do
  let l ← l.remember
  return { l with mayBegin := false }

/-- Characters of the names of anchors. -/
def isAnchorPart (c : Char) : Bool := c.isAlphanum || c == '-' || c == '_'

/-- An anchor or a reference to one. -/
def anchor (make : String → Token) (l : Lexer) : Lexing := do
  let l ← l.begin
  let l := l.forward 1
  let chars := l.cursor.run isAnchorPart
  let l := l.forward chars.length
  if chars.isEmpty || !l.cursor.endsOr 0 (fun c => isGap c || "?:,]%@`".toList.contains c || c == '\x7d') then
    throw .badAnchor
  return l.emit (make (String.ofList chars))

/-- Characters of tags. -/
def isTagPart (c : Char) : Bool := c.isAlphanum || "-;/?:@&=+$,_.!~*'()[]%".toList.contains c

/-- The rest of a tag. -/
def tagSuffix (handle : Option String) (l : Lexer) : Except Problem (Token × Lexer) :=
  let chars := l.cursor.run isTagPart
  if chars.isEmpty then .error .badTag else .ok (.tag handle (String.ofList chars), l.forward chars.length)

/-- Characters of the handle of a tag. -/
def isHandlePart (c : Char) : Bool := c.isAlphanum || c == '-' || c == '_'

/-- A tag. -/
def tag (l : Lexer) : Lexing := do
  let l ← l.begin
  let (token, l) ←
    if l.cursor.sees 1 (· == '<') then do
      let (token, l) ← (l.forward 2).tagSuffix none
      if !l.cursor.sees 0 (· == '>') then throw .badTag
      pure (token, l.forward 1)
    else if l.cursor.endsOr 1 isGap then pure (.tag none "!", l.forward 1)
    else
      let ahead := (l.cursor.forward 1).run fun c => c != ' ' && !isBreak c
      if ahead.contains '!' then do
        let handle := ahead.takeWhile isHandlePart
        if ahead[handle.length]? != some '!' then throw .badTag
        (l.forward (handle.length + 2)).tagSuffix (some (String.ofList ('!' :: handle ++ ['!'])))
      else (l.forward 1).tagSuffix (some "!")
  if !l.cursor.endsOr 0 (fun c => c == ' ' || isBreak c) then throw .badTag
  return l.emit token

/-- A scalar in a block. -/
def block (folded : Bool) (l : Lexer) : Lexing := do
  let l ← { l with mayBegin := true }.giveUp
  let (text, cursor) ← readBlock folded l.indent l.cursor
  return { l.emit (.scalar false (String.ofList text)) with cursor }

/-- A scalar between quotes. -/
def quoted (double : Bool) (l : Lexer) : Lexing := do
  let l ← l.begin
  let (text, cursor) ← readQuoted double l.cursor
  return { l.emit (.scalar false (String.ofList text)) with cursor }

/-- A plain scalar. -/
def plain (l : Lexer) : Lexing := do
  let l ← l.begin
  let (text, cursor, lineEnded) := readPlain (l.flow != 0) (l.indent + 1) [] l.cursor.rest.length l.cursor
  return { l.emit (.scalar true (String.ofList text)) with cursor, mayBegin := lineEnded }

/-- A mark that begins or ends a document, or a directive before one. -/
def documentMark (token : Token) (length : Nat) (l : Lexer) : Lexing := do
  let l ← (l.unwind (-1)).giveUp
  return { (l.emit token).forward length with mayBegin := false }

/-- Whether a plain scalar may begin here. -/
def startsPlain (l : Lexer) (c : Char) : Bool :=
  !(isGap c || "-?:,[]#&*!|>'\"%@`".toList.contains c || c == '\x7b' || c == '\x7d')
    || (!l.cursor.endsOr 1 isGap && (c == '-' || (l.flow == 0 && (c == '?' || c == ':'))))

/-- Reads the token that begins with a character. -/
def token (l : Lexer) (c : Char) : Lexing :=
  let atLineStart := l.cursor.column == 0
  let standsAlone := l.cursor.endsOr 1 isGap
  if atLineStart && c == '%' then l.documentMark .directive (l.cursor.run (!isBreak ·)).length
  else if atLineStart && l.cursor.seesSeparator then
    l.documentMark (if c == '-' then .documentStart else .documentEnd) 3
  else if c == '[' then l.openFlow .openFlowSequence
  else if c == '\x7b' then l.openFlow .openFlowMapping
  else if c == ']' then l.closeFlow .closeFlowSequence
  else if c == '\x7d' then l.closeFlow .closeFlowMapping
  else if c == ',' then l.comma
  else if c == '-' && standsAlone then l.item
  else if c == '?' && (l.flow != 0 || standsAlone) then l.name
  else if c == ':' && (l.flow != 0 || standsAlone) then l.value
  else if c == '*' then l.anchor .alias
  else if c == '&' then l.anchor .anchor
  else if c == '!' then l.tag
  else if c == '|' && l.flow == 0 then l.block false
  else if c == '>' && l.flow == 0 then l.block true
  else if c == '\'' then l.quoted false
  else if c == '"' then l.quoted true
  else if l.startsPlain c then l.plain
  else .error .strayCharacter

/-- Reads tokens up to the end. A problem stands as a token where it was met. -/
def run : Nat → Lexer → List Token
  | 0, l => l.tokens
  | steps + 1, l =>
    let step : Except Problem (Lexer ⊕ List Token) := do
      let l ← (l.skipGaps (l.cursor.rest.length + 1)).dropStale
      let l := l.unwind l.column
      match l.cursor.rest with
      | [] => do return .inr (← (l.unwind (-1)).giveUp).tokens
      | c :: _ => do return .inl (← l.token c)
    match step with
    | .error problem => l.tokens ++ [.broken problem]
    | .ok (.inl l) => run steps l
    | .ok (.inr tokens) => tokens

end Lexer

/-- The tokens of a text. -/
def tokens (s : String) : List Token :=
  let s := if s.toList.head? == some '\uFEFF' then String.ofList (s.toList.drop 1) else s
  Lexer.run (s.length + 2) (.start s)

end Colloquy.Yaml
