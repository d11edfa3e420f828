import Colloquy.Json.Basic
import Colloquy.Decimal.Binary
import Colloquy.Text.Digit

/-! Reading JSON text. Scalars and marks are tokens; nesting is kept on an explicit stack, so that the reader is
one pass over the tokens. A name that an object repeats keeps its first place and its last value. There is no limit to
how deep values are nested nor to the digits of an integer. -/
namespace Colloquy.Json

/-- A piece of JSON text. -/
inductive Token where
  | scalar (value : Json)
  | openList
  | closeList
  | openObject
  | closeObject
  | comma
  | colon

/-- The value of a hexadecimal digit. -/
def hexValue? (c : Char) : Option Nat :=
  if '0' ≤ c && c ≤ '9' then some (c.toNat - '0'.toNat)
  else if 'a' ≤ c && c ≤ 'f' then some (c.toNat - 'a'.toNat + 10)
  else if 'A' ≤ c && c ≤ 'F' then some (c.toNat - 'A'.toNat + 10)
  else none

/-- The unit that four hexadecimal digits write. -/
def unit? (a b c d : Char) : Option Nat := do
  let a ← hexValue? a
  let b ← hexValue? b
  let c ← hexValue? c
  let d ← hexValue? d
  return ((a * 16 + b) * 16 + c) * 16 + d

/-- The character of an escape with one letter. -/
def letterEscape? : Char → Option Char
  | '"' => some '"'
  | '\\' => some '\\'
  | '/' => some '/'
  | 'b' => some '\x08'
  | 'f' => some '\x0c'
  | 'n' => some '\n'
  | 'r' => some '\r'
  | 't' => some '\t'
  | _ => none

/-- A half of a pair that stands alone is no character and is shown as the replacement character. -/
def charOfUnit (n : Nat) : Char := if 0xD800 ≤ n && n ≤ 0xDFFF then '\uFFFD' else Char.ofNat n

/-- The character that a high and a low half make. -/
def charOfPair (high low : Nat) : Char := Char.ofNat (0x10000 + (high - 0xD800) * 0x400 + (low - 0xDC00))

/-- Reads a string up to its closing quote, the characters so far in reverse; a high half waits in `pending`
for its low half. -/
def readText (pending : Option Nat) (done : List Char) : List Char → Option (String × List Char)
  | [] => none
  | '\\' :: 'u' :: a :: b :: c :: d :: rest =>
    match unit? a b c d with
    | none => none
    | some n =>
      match pending with
      | some high =>
        if 0xDC00 ≤ n && n ≤ 0xDFFF then
          readText none (charOfPair high n :: done) rest
        else if 0xD800 ≤ n && n ≤ 0xDBFF then readText (some n) ('\uFFFD' :: done) rest
        else readText none (charOfUnit n :: '\uFFFD' :: done) rest
      | none =>
        if 0xD800 ≤ n && n ≤ 0xDBFF then readText (some n) done rest
        else readText none (charOfUnit n :: done) rest
  | '\\' :: c :: rest =>
    match letterEscape? c with
    | none => none
    | some e => readText none (e :: flush pending done) rest
  | c :: rest =>
    if c == '"' then some (String.ofList (flush pending done).reverse, rest)
    else if c.toNat < 0x20 || c == '\\' then none
    else readText none (c :: flush pending done) rest
where
  /-- A high half without its low half becomes the replacement character. -/
  flush (pending : Option Nat) (done : List Char) : List Char :=
    if pending.isSome then '\uFFFD' :: done else done

/-- A number as written: sign, whole part, fraction and exponent. -/
structure Numeral where
  negative : Bool
  whole : List Char
  fraction : Option (List Char)
  exponent : Option (Bool × List Char)

/-- The number written by a string of ASCII digits. -/
def digitsValue (digits : List Char) : Nat := Text.numeral (digits.map fun c => c.toNat - '0'.toNat)

/-- A numeral with neither fraction nor exponent is an integer; any other is the nearest floating point number. -/
def Numeral.value (n : Numeral) : Json :=
  match n.fraction, n.exponent with
  | none, none => .int (if n.negative then -(digitsValue n.whole : Int) else digitsValue n.whole)
  | fraction, exponent =>
    let places := fraction.getD []
    let power : Int := match exponent with
      | none => 0
      | some (down, digits) => if down then -(digitsValue digits : Int) else digitsValue digits
    .float (Decimal.ofDecimal n.negative (digitsValue (n.whole ++ places)) (power - places.length))

/-- The whole part: a zero alone, or digits that do not start with zero. -/
def readWhole : List Char → Option (List Char × List Char)
  | '0' :: rest => some (['0'], rest)
  | c :: rest =>
    if Text.isAsciiDigit c then
      some (c :: rest.takeWhile Text.isAsciiDigit, rest.dropWhile Text.isAsciiDigit)
    else none
  | [] => none

/-- A point with digits after it; a point without them ends the number before it. -/
def readFraction : List Char → Option (List Char) × List Char
  | '.' :: rest =>
    match rest.takeWhile Text.isAsciiDigit with
    | [] => (none, '.' :: rest)
    | digits => (some digits, rest.dropWhile Text.isAsciiDigit)
  | cs => (none, cs)

/-- An exponent with its digits; without digits the letter ends the number before it. -/
def readExponent (cs : List Char) : Option (Bool × List Char) × List Char :=
  match cs with
  | e :: rest =>
    if e == 'e' || e == 'E' then
      let (down, body) := match rest with
        | '-' :: body => (true, body)
        | '+' :: body => (false, body)
        | body => (false, body)
      match body.takeWhile Text.isAsciiDigit with
      | [] => (none, cs)
      | digits => (some (down, digits), body.dropWhile Text.isAsciiDigit)
    else (none, cs)
  | [] => (none, [])

/-- A number and what follows it. -/
def readNumber (cs : List Char) : Option (Json × List Char) :=
  let (negative, body) := match cs with
    | '-' :: rest => (true, rest)
    | _ => (false, cs)
  (readWhole body).map fun (whole, rest) =>
    let (fraction, rest) := readFraction rest
    let (exponent, rest) := readExponent rest
    ((Numeral.mk negative whole fraction exponent).value, rest)

/-- The words that stand for values, with those of the numbers that are not finite. -/
def words : List (String × Json) := [
  ("null", .null), ("true", .bool true), ("false", .bool false),
  ("NaN", .float (0.0 / 0.0)), ("Infinity", .float (1.0 / 0.0)), ("-Infinity", .float (-1.0 / 0.0))]

/-- A word at the start of the text, and what follows it. -/
def readWord (cs : List Char) : Option (Json × List Char) :=
  words.findSome? fun (word, value) =>
    if word.toList.isPrefixOf cs then some (value, cs.drop word.length) else none

/-- The blanks that JSON allows between tokens. -/
def isGap (c : Char) : Bool := c == ' ' || c == '\t' || c == '\n' || c == '\r'

/-- The first token of a text that starts with none of the blanks, and what follows it. -/
def readToken : List Char → Option (Token × List Char)
  | '[' :: rest => some (.openList, rest)
  | ']' :: rest => some (.closeList, rest)
  | '\x7b' :: rest => some (.openObject, rest)
  | '\x7d' :: rest => some (.closeObject, rest)
  | ',' :: rest => some (.comma, rest)
  | ':' :: rest => some (.colon, rest)
  | '"' :: rest => (readText none [] rest).map fun (s, rest) => (.scalar (.text s), rest)
  | cs => ((readWord cs).or (readNumber cs)).map fun (value, rest) => (.scalar value, rest)

/-- The tokens of a text, when all of it is tokens and blanks; `budget` bounds their number. -/
def tokensWithin : Nat → List Char → Option (List Token)
  | _, [] => some []
  | 0, _ => none
  | budget + 1, c :: rest =>
    if isGap c then tokensWithin budget rest
    else
      match readToken (c :: rest) with
      | none => none
      | some (token, rest) => (tokensWithin budget rest).map (token :: ·)

/-- The tokens of a text; each is at least one character long. -/
def tokens (cs : List Char) : Option (List Token) := tokensWithin cs.length cs

/-- A list or object that is still open: its members in reverse, for an object with the name of the next. -/
inductive Frame where
  | list (items : List Json)
  | object (fields : List (String × Json)) (name : String)

/-- What the reader waits for. -/
inductive Await where
  | value
  | valueOrClose
  | nameOrClose
  | name
  | colon
  | next

/-- The reader between two tokens: the open frames, innermost first, and the finished value at the end. -/
structure Progress where
  frames : List Frame
  await : Await
  result : Option Json

/-- Puts a finished value into the innermost frame. -/
def Progress.deliver (frames : List Frame) (value : Json) : Progress :=
  match frames with
  | [] => ⟨[], .next, some value⟩
  | .list items :: rest => ⟨.list (value :: items) :: rest, .next, none⟩
  | .object fields name :: rest => ⟨.object ((name, value) :: fields) name :: rest, .next, none⟩

/-- One token; none when it cannot stand there. -/
def Progress.step (p : Progress) (token : Token) : Option Progress :=
  match p.await, token, p.frames with
  | .value, .scalar value, frames | .valueOrClose, .scalar value, frames => some (.deliver frames value)
  | .value, .openList, frames | .valueOrClose, .openList, frames =>
    some ⟨.list [] :: frames, .valueOrClose, none⟩
  | .value, .openObject, frames | .valueOrClose, .openObject, frames =>
    some ⟨.object [] "" :: frames, .nameOrClose, none⟩
  | .valueOrClose, .closeList, .list _ :: frames => some (.deliver frames (.list []))
  | .nameOrClose, .closeObject, .object _ _ :: frames => some (.deliver frames (.object []))
  | .nameOrClose, .scalar (.text s), .object fields _ :: frames
  | .name, .scalar (.text s), .object fields _ :: frames => some ⟨.object fields s :: frames, .colon, none⟩
  | .colon, .colon, frames => some ⟨frames, .value, none⟩
  | .next, .comma, .list items :: frames => some ⟨.list items :: frames, .value, none⟩
  | .next, .comma, .object fields name :: frames => some ⟨.object fields name :: frames, .name, none⟩
  | .next, .closeList, .list items :: frames => some (.deliver frames (.list items.reverse))
  | .next, .closeObject, .object fields _ :: frames =>
    some (.deliver frames (.object (Fields.ofPairs fields.reverse)))
  | _, _, _ => none

/-- The value that a text writes, when the text is JSON. -/
def read? (s : String) : Option Json := do
  let tokens ← tokens s.toList
  let finish ← tokens.foldlM Progress.step ⟨[], .value, none⟩
  finish.result

end Colloquy.Json
