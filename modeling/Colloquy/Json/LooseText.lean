import Colloquy.Json.Reader
import Colloquy.Text.Blank
import Colloquy.Text.Word
import Colloquy.Text.Digit

/-! Reading texts whose quotes may be missing, misplaced or left open. What a quote, a comma or a brace means is decided
by looking ahead: one that could not be followed by what follows it belongs to the text. -/
namespace Colloquy.Json.Loose

/-- Where a value stands: as the name of a member, as its value, or as an item. -/
inductive Part where
  | name
  | member
  | item
  deriving DecidableEq, Repr

/-- Marks that may open a text. -/
def isQuote (c : Char) : Bool := c == '"' || c == '\'' || c == '“' || c == '”'

/-- Letters and digits, which may begin a text without quotes. -/
def isBare (c : Char) : Bool := c != '_' && Text.isWordChar c

/-- Letters. -/
def isLetter (c : Char) : Bool := isBare c && !Text.isDecimal c

/-- The rest without blanks at its start. -/
def skipBlank (cs : List Char) : List Char := cs.dropWhile Text.isBlank

/-- Whether the first character of the rest is one of some. -/
def startsWith (chars : List Char) (cs : List Char) : Bool := (cs.head?.map chars.contains).getD false

/-- What follows the next character that is one of some and is not escaped; the number of backslashes before a character
that is escaped is odd. -/
def seekFrom (chars : List Char) (isEscaped : Bool) : List Char → Option (List Char)
  | [] => none
  | c :: rest =>
    if c == '\\' then seekFrom chars (!isEscaped) rest
    else if chars.contains c && !isEscaped then some rest
    else seekFrom chars false rest

/-- What follows the next character that is one of some and is not escaped. -/
def seek (chars : List Char) (cs : List Char) : Option (List Char) := seekFrom chars false cs

/-- How a text is written: the marks around it, whether the first is missing, whether both are written twice, where it
stands, and what that is inside of. -/
structure Mode where
  opening : Char
  closing : Char
  bare : Bool
  doubled : Bool
  part : Option Part
  around : List Part

/-- Whether a text without quotes ends before a character. -/
def Mode.endsBare (mode : Mode) (c : Char) : Bool :=
  mode.bare && match mode.part with
    | some .name => c == ':' || Text.isBlank c
    | some .item => c == ']' || c == ','
    | _ => false

/-- Whether a quote ahead closes this text after a comma or brace in it. It does if the member ends there, or if no other
member begins after it. -/
def Mode.closesLater (mode : Mode) (afterQuote : List Char) : Bool :=
  let next := skipBlank afterQuote
  if next.isEmpty || startsWith [',', '}'] next then true
  else
    match seek [mode.opening] next with
    | none => true
    | some later =>
      let later := skipBlank later
      !later.isEmpty && !startsWith [':'] later

/-- Whether the text goes on although no quote closes it: more than a character stands before the next brace, or a
brace was opened in it. -/
def goesOn (done rest : List Char) : Bool :=
  let next := skipBlank rest
  let length := (next.takeWhile (· != '}')).length
  length > 1 || (length < next.length && done.contains '{')

/-- Whether the value of a member ends before a comma or brace, its closing quote missing. -/
def Mode.endsMember (mode : Mode) (done : List Char) (c : Char) (rest : List Char) : Bool :=
  mode.part == some .member && (c == ',' || c == '}') && done.head? != some mode.closing &&
    !startsWith ['\\'] rest &&
      match seek [mode.closing] rest with
      | some after => !mode.closesLater after
      | none => (seek [':'] rest).isSome || !goesOn done rest

/-- Whether a text among items ends before the bracket that closes them, no quote being left to close it. -/
def Mode.endsItem (mode : Mode) (done : List Char) (c : Char) (rest : List Char) : Bool :=
  c == ']' && mode.around.contains .item && done.head? != some mode.closing && (seek [mode.closing] rest).isNone

/-- Whether the value of a member ends before the last brace of all; what only closes a fence does not count. -/
def Mode.endsObject (mode : Mode) (c : Char) (rest : List Char) : Bool :=
  let next := skipBlank rest
  mode.part == some .member && c == '}' && (next.isEmpty || ['`', '`', '`'].isPrefixOf next)

/-- Whether a text ends before a character. -/
def Mode.ends (mode : Mode) (done : List Char) (c : Char) (rest : List Char) : Bool :=
  c == mode.closing || mode.endsBare c || mode.endsMember done c rest || mode.endsItem done c rest
    || mode.endsObject c rest

/-- Whether a name ends before a colon, its closing quote missing. -/
def Mode.endsName (mode : Mode) (afterColon : List Char) : Bool :=
  match seek [mode.opening] afterColon with
  | none => true
  | some inside =>
    match seek [mode.closing] inside with
    | none => false
    | some after => startsWith [',', '}'] (skipBlank after)

/-- What a closing mark inside a text is. -/
inductive Meaning where
  | closes
  | closesTwice
  | belongs
  | belongsInPairs
  | opensNext

/-- What is found first after a closing mark: another mark, or a character that may follow a text. -/
def Mode.scan (mode : Mode) (comma : Bool) : List Char → List Char
  | [] => []
  | c :: rest =>
    let comma := comma && !isLetter c
    let within (part : Part) : Bool := mode.around.contains part
    if c == mode.closing || c == mode.opening
      || (within .name && (c == ':' || c == '}'))
      || (within .member && c == '}')
      || (within .item && (c == ']' || c == ','))
      || (comma && mode.part == some .member && c == ',')
    then c :: rest
    else mode.scan comma rest

/-- Whether a colon comes before anything that ends a member. -/
def meetsColon (closing last : Char) : List Char → Bool
  | [] => false
  | c :: rest =>
    if c == ':' then true
    else if c == ',' || c == ']' || c == '}' || (c == closing && last != '\\') then false
    else meetsColon closing c rest

/-- How many marks follow that are not escaped, up to the end of a list. -/
def countMarks (mark : Char) (isEscaped : Bool) : List Char → Nat
  | [] => 0
  | c :: rest =>
    if c == '\\' then countMarks mark (!isEscaped) rest
    else if isEscaped then countMarks mark false rest
    else if c == ']' then 0
    else (if c == mark then 1 else 0) + countMarks mark false rest

/-- Whether the name of a member follows a comma: what stands between two marks has a colon after it. Where that is not
so, the place that was looked at last. -/
def Mode.nameAfterComma (mode : Mode) (afterComma : List Char) : Except (List Char) Unit :=
  match seek [mode.opening] afterComma with
  | none => .error []
  | some name =>
    match seek [mode.closing] (name.drop 1) with
    | none => .error []
    | some rest => if startsWith [':'] (skipBlank rest) then .ok () else .error (skipBlank rest)

/-- What a closing mark is if the text behind the next one decides it: a member that begins there tells that the next
mark opens its name. -/
def Mode.meaningBeforeName (mode : Mode) (spot : List Char) : Meaning :=
  match seek [mode.closing] (spot.drop 1) with
  | none => .belongsInPairs
  | some rest => if meetsColon mode.closing mode.closing rest then .closes else .belongsInPairs

/-- What a closing mark is when another one follows with more than blanks between. -/
def Mode.meaningBeforeMark (mode : Mode) (after : List Char) : Meaning :=
  match mode.part with
  | some .name => .belongs
  | some .item => if countMarks mode.closing false after % 2 == 1 then .belongsInPairs else .closes
  | _ =>
    let next := skipBlank after
    if startsWith [','] next then
      match mode.nameAfterComma (next.drop 1) with
      | .ok () => .belongs
      | .error spot => mode.meaningBeforeName spot
    else mode.meaningBeforeName next

/-- What a closing mark is, by what comes after it. -/
def Mode.meaning (mode : Mode) (unmatched : Bool) (after : List Char) : Meaning :=
  if mode.doubled && startsWith [mode.closing] after then .closesTwice
  else if mode.bare && mode.part == some .member then
    match after.dropWhile fun c => c != mode.closing && c != mode.opening with
    | _ :: inside => if startsWith [':'] (skipBlank inside) then .opensNext else .closes
    | [] => .closes
  else if unmatched then .belongsInPairs
  else
    let found := mode.scan true after
    if startsWith [','] found && mode.part == some .member then
      match seek [mode.closing] (found.drop 1) with
      | some rest => if startsWith ['}', ','] (skipBlank rest) then .belongs else .closes
      | none => .closes
    else if startsWith [mode.closing] found then
      let between := after.take (after.length - found.length)
      if between.all Text.isBlank then .closes
      else if between.getLast? == some '\\' then .closes
      else mode.meaningBeforeMark (found.drop 1)
    else .closes

/-- The character that a letter means after a backslash. -/
def escaped (c : Char) : Char :=
  if c == 't' then '\t' else if c == 'n' then '\n' else if c == 'r' then '\r' else if c == 'b' then '\x08' else c

/-- Backslashes that escape one another or the closing mark, after one that was read. -/
def absorb (closing : Char) : List Char → List Char → List Char × List Char
  | '\\' :: done, c :: rest =>
    if c == closing || c == '\\' then absorb closing (c :: done) rest else ('\\' :: done, c :: rest)
  | done, rest => (done, rest)
termination_by _ rest => rest.length

/-- What a unit of four digits means: a high half makes one character with a low half that is written right after it. -/
def readUnit (unit : Nat) (rest : List Char) : Char × List Char :=
  match rest with
  | '\\' :: 'u' :: a :: b :: c :: d :: after =>
    match unit? a b c d with
    | some low =>
      if 0xD800 ≤ unit && unit ≤ 0xDBFF && 0xDC00 ≤ low && low ≤ 0xDFFF then (charOfPair unit low, after)
      else (charOfUnit unit, rest)
    | none => (charOfUnit unit, rest)
  | _ => (charOfUnit unit, rest)

/-- Reads the character that four or two hexadecimal digits write after a letter. -/
def readCode? : List Char → Option (Char × List Char)
  | 'u' :: a :: b :: c :: d :: rest => (unit? a b c d).map (readUnit · rest)
  | 'x' :: a :: b :: rest => (unit? '0' '0' a b).map (readUnit · rest)
  | _ => none

/-- What a backslash and the characters after it mean; none if they mean themselves. -/
def Mode.unescape (mode : Mode) (done : List Char) : List Char → Option (List Char × List Char)
  | [] => none
  | c :: rest =>
    if c == mode.closing || c == 't' || c == 'n' || c == 'r' || c == 'b' || c == '\\' then
      some (absorb mode.closing (escaped c :: done) rest)
    else if c == 'u' || c == 'x' then (readCode? (c :: rest)).map fun (char, rest) => (char :: done, rest)
    else if isQuote c then some (c :: done, rest)
    else none

/-- The characters of a text, last first, and the rest from where it stops. It takes at most `steps` steps. -/
def Mode.characters (mode : Mode) : Nat → Bool → List Char → List Char → List Char × List Char
  | 0, _, done, cs => (done, cs)
  | _, _, done, [] => (done, [])
  | steps + 1, unmatched, done, c :: rest =>
    if mode.ends done c rest then (done, c :: rest)
    else
      match if c == '\\' then mode.unescape done rest else none with
      | some (done, rest) => mode.characters steps unmatched done rest
      | none =>
        match rest with
        | [] => (c :: done, [])
        | d :: after =>
          if d == ':' && !mode.bare && mode.part == some .name && mode.endsName after then (c :: done, rest)
          else if d == mode.closing && c != '\\' then
            match mode.meaning unmatched after with
            | .closes => (c :: done, rest)
            | .closesTwice => (c :: done, after)
            | .belongs => mode.characters steps unmatched (d :: c :: done) after
            | .belongsInPairs => mode.characters steps (!unmatched) (d :: c :: done) after
            | .opensNext => (c :: done, c :: rest)
          else mode.characters steps unmatched (c :: done) rest

/-- Ends a text where its characters stop. -/
def Mode.finish (mode : Mode) (done rest : List Char) : String × List Char :=
  let trimmed := String.ofList (done.dropWhile Text.isBlank).reverse
  if mode.bare && mode.part == some .name && (rest.head?.map Text.isBlank).getD false
    && !startsWith [':', ','] (skipBlank rest) then ("", skipBlank rest)
  else if startsWith [mode.closing] rest then
    (if mode.bare || done.head? == some '\n' then trimmed else String.ofList done.reverse, rest.drop 1)
  else (trimmed, rest)

/-- Reads the characters of a text and ends it. -/
def Mode.read (mode : Mode) (cs : List Char) : String × List Char :=
  let (done, rest) := mode.characters cs.length false [] cs
  mode.finish done rest

/-- The mark that closes a text after the one that opens it. -/
def closingOf (opening : Char) : Char := if opening == '“' then '”' else if opening == '\'' then '\'' else '"'

/-- Reads a text after its opening mark. Two marks in a row are an empty text, or one whose marks are all doubled. -/
def readQuoted (part : Option Part) (around : List Part) (mark : Char) (cs : List Char) : String × List Char :=
  let opening := if mark == '”' then '"' else mark
  let mode : Mode := ⟨opening, closingOf mark, false, false, part, around⟩
  match cs with
  | c :: rest =>
    if c != opening then mode.read cs
    else if (match part with
      | some .name => startsWith [':'] rest
      | some .member => startsWith [',', '}'] rest
      | some .item => startsWith [',', ']'] rest
      | none => false) then ("", rest)
    else if startsWith [opening] rest then ("", cs)
    else
      match seek [mode.closing] rest with
      | some after =>
        if startsWith [mode.closing] after then ({ mode with doubled := true }).read rest else closed mode cs rest
      | none => closed mode cs rest
  | [] => ("", [])
where
  /-- A text of which nothing stands between the first two marks. -/
  closed (mode : Mode) (cs rest : List Char) : String × List Char :=
    let next := skipBlank rest
    if (next.head?.map fun c => isQuote c || c == '{' || c == '[').getD false then ("", rest)
    else if startsWith [',', ']', '}'] next then mode.read cs
    else mode.read rest

/-- Reads a text that has no opening mark. -/
def readBare (part : Option Part) (around : List Part) (cs : List Char) : String × List Char :=
  Mode.read ⟨'"', '"', true, false, part, around⟩ cs

end Colloquy.Json.Loose
