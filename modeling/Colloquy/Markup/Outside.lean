import Colloquy.Markup.Scan

/-! Tokens outside the document element: those of a document type among them. -/
namespace Colloquy.Markup

/-- A token before or after the document element. -/
inductive Outside where
  | gap
  | declaration (body : List Char) (left : Nat)
  | instruction
  | comment
  | declarationOpen (keyword : List Char)
  | literal (body : List Char)
  | name (word : List Char)
  | word
  | markedName
  | hashName (word : String)
  | openParen
  | closeParen (mark : Option Char)
  | bar
  | comma
  | openBracket
  | closeBracket
  | close
  | parameter
  | other
  | element

/-- A character that ends a name outside the document element. -/
def endsName (c : Char) : Bool := isGap c || ['>', ')', ',', '|', '[', '%'].contains c

/-- A mark of repetition. -/
def isRepetition (c : Char) : Bool := c == '+' || c == '*' || c == '?'

/-- Whether a name ends with its first colon, so that its second part is still to come. -/
def isHalfName (word : List Char) : Bool := word.head?.any isNameStart && word.dropWhile (· != ':') == [':']

/-- Whether a word is a name of one part or of two. -/
def isWholeName (word : List Char) : Bool :=
  word.head?.any isNameStart &&
    match word.dropWhile (· != ':') with
    | [] => true
    | _ :: second => !second.isEmpty && !second.contains ':'

/-- A word outside the document element; a mark of repetition can only follow a whole name. -/
def outsideName (cs : List Char) : Scan Outside :=
  let p c := isNameChar c || c == ':'
  let word := cs.takeWhile p
  let found := if isWholeName word then .name word else .word
  match cs.dropWhile p with
  | [] => if isHalfName word then stopAt [] else .ok (found, [])
  | c :: rest =>
    if endsName c then .ok (found, c :: rest)
    else if isWholeName word && isRepetition c then .ok (.markedName, rest)
    else stopAt (c :: rest)

/-- A closing bracket outside the document element; one more and an angle after it close a section. -/
def outsideBracket : List Char → Scan Outside
  | [']'] => stopAt []
  | ']' :: '>' :: rest => .ok (.other, rest)
  | rest => .ok (.closeBracket, rest)

/-- A closing parenthesis, with the mark of repetition that may follow it. -/
def outsideParen : List Char → Scan Outside
  | [] => .ok (.closeParen none, [])
  | c :: rest =>
    if isRepetition c then .ok (.closeParen (some c), rest)
    else if isGap c || ['>', ',', '|', ')'].contains c then .ok (.closeParen none, c :: rest)
    else stopAt (c :: rest)

/-- A quoted text outside the document element, after its opening quote. -/
def outsideLiteral (quote : Char) : List Char → Scan (List Char)
  | [] => stopAt []
  | c :: rest =>
    if c == quote then
      match rest with
      | [] => .ok ([], [])
      | d :: more =>
        if isGap d || d == '>' || d == '%' || d == '[' then .ok ([], d :: more) else stopAt (d :: more)
    else if isAllowed c then (outsideLiteral quote rest).map fun (body, left) => (c :: body, left)
    else stopAt (c :: rest)

/-- The keyword of a declaration, which white space or a percent sign ends. -/
def declarationKeyword (cs : List Char) : Scan Outside :=
  let p c := isNameStart c && c.toNat < 128
  let word := cs.takeWhile p
  match cs.dropWhile p with
  | [] => stopAt []
  | '%' :: rest =>
    if word.isEmpty || rest.head?.any (fun c => isGap c || c == '%') then stopAt ('%' :: rest)
    else if rest.isEmpty then stopAt [] else .ok (.declarationOpen word, '%' :: rest)
  | c :: rest => if isGap c && !word.isEmpty then .ok (.declarationOpen word, c :: rest) else stopAt (c :: rest)

/-- A percent sign, alone or with the name of a parameter entity after it. -/
def percentName (cs : List Char) : Scan Outside :=
  match name cs with
  | .error stop => if cs.head?.any fun c => isGap c || c == '%' then .ok (.other, cs) else .error stop
  | .ok (_, ';' :: rest) => .ok (.parameter, rest)
  | .ok (_, rest) => stopAt rest

/-- A number sign with the name after it. -/
def numberName (cs : List Char) : Scan Outside :=
  match name cs with
  | .error stop => .error stop
  | .ok (word, []) => .ok (.hashName word, [])
  | .ok (word, c :: rest) =>
    if isGap c || [')', '>', '%', '|'].contains c then .ok (.hashName word, c :: rest) else stopAt (c :: rest)

/-- What a less-than sign introduces outside the document element. -/
def outsideMarkup : List Char → Scan Outside
  | '!' :: '-' :: '-' :: rest => (commentBody rest).map fun (_, left) => (.comment, left)
  | '!' :: '-' :: rest => stopAt rest
  | '!' :: '[' :: rest => .ok (.other, rest)
  | '!' :: rest => declarationKeyword rest
  | '?' :: rest =>
    (instruction rest).map fun (found, left) =>
      (match found with
        | .declaration body spot => .declaration body spot
        | .other => .instruction, left)
  | c :: rest =>
    if isNameStart c || 0x80 ≤ c.toNat then .ok (.element, c :: rest) else stopAt (c :: rest)
  | [] => stopAt []

/-- The token of a mark in a document type. -/
def outsideMark (c : Char) (rest : List Char) : Scan Outside :=
  match c with
  | '[' => .ok (.openBracket, rest)
  | ']' => outsideBracket rest
  | '(' => .ok (.openParen, rest)
  | ')' => outsideParen rest
  | '|' => .ok (.bar, rest)
  | ',' => .ok (.comma, rest)
  | '>' => .ok (.close, rest)
  | '%' => percentName rest
  | '#' => numberName rest
  | c => stopAt (c :: rest)

/-- The first token of what starts with `c`, outside the document element. -/
def outside (c : Char) (rest : List Char) : Scan Outside :=
  if isGap c then .ok (.gap, skipGaps rest)
  else if c == '<' then outsideMarkup rest
  else if c == '"' || c == '\'' then (outsideLiteral c rest).map fun (body, left) => (.literal body, left)
  else if isNameChar c || c == ':' then outsideName (c :: rest)
  else outsideMark c rest

end Colloquy.Markup
