import Colloquy.Check.Issue
import Colloquy.Text.Numeral
import Colloquy.Value.Basic

/-! Checks of single values, lenient where a value of another kind says the same: byte strings as the texts they
encode, whole floating point numbers and numerals as integers, and the usual words as truth values. -/
namespace Colloquy.Check
open Colloquy

/-- The text that bytes encode. -/
def decodeBytes (data : List UInt8) : Option String := String.fromUTF8? ⟨data.toArray⟩

/-- A text. -/
def text : Value → Checked String
  | .text s | .safe s => .ok s
  | .bytes data =>
    match decodeBytes data with
    | some s => .ok s
    | none => .complain .stringUnicode
  | _ => .complain .stringType

/-- Drops a fraction of zeros from a numeral. -/
def withoutZeroFraction (cs : List Char) : List Char :=
  match Text.cutAt (· == '.') cs with
  | (whole, some fraction) => if fraction.all (· == '0') then whole else cs
  | (_, none) => cs

/-- The integer that a numeral writes: ASCII digits, single underscores between them. -/
def numeral? (s : String) : Option Int :=
  let body := Text.trimBy Text.isSpace s.toList
  let (negative, digits) := Text.readSign body
  let digits := withoutZeroFraction digits
  if digits.all fun c => Text.isAsciiDigit c || c == '_' then
    (Text.digitsIn 10 false digits).map fun ds =>
      let n : Int := Text.numeralIn 10 ds
      if negative then -n else n
  else none

/-- An integer. -/
def int : Value → Checked Int
  | .int n => .ok n
  | .bool b => .ok (if b then 1 else 0)
  | .float x =>
    match Decimal.ratio? x with
    | none => .complain .finiteNumber
    | some (num, den) => if num % den == 0 then .ok (num / den) else .complain .intFromFloat
  | .text s | .safe s =>
    match numeral? s with
    | some n => .ok n
    | none => .complain .intParsing
  | .bytes data =>
    match (decodeBytes data).bind numeral? with
    | some n => .ok n
    | none => .complain .intParsing
  | _ => .complain .intType

/-- A floating point number; an integer may be too large for one. -/
def float : Value → Checked Float
  | .float x => .ok x
  | .int n =>
    let x := Decimal.ofInteger n
    if x.isInf then .complain .floatType else .ok x
  | .bool b => .ok (if b then 1.0 else 0.0)
  | .text s | .safe s =>
    match Text.readFloat? s with
    | some x => .ok x
    | none => .complain .floatParsing
  | .bytes data =>
    match (decodeBytes data).bind Text.readFloat? with
    | some x => .ok x
    | none => .complain .floatParsing
  | _ => .complain .floatType

/-- The words for true. -/
def trueWords : List String := ["1", "on", "t", "true", "y", "yes"]

/-- The words for false. -/
def falseWords : List String := ["0", "off", "f", "false", "n", "no"]

/-- The truth value of a word. -/
def boolWord (s : String) : Checked Bool :=
  let word := String.ofList (s.toList.map Text.smallLetter)
  if trueWords.contains word then .ok true
  else if falseWords.contains word then .ok false
  else .complain .boolParsing

/-- The truth value of one or zero. -/
def boolNumber (n : Int) : Checked Bool :=
  if n == 1 then .ok true else if n == 0 then .ok false else .complain .boolParsing

/-- A truth value. -/
def bool : Value → Checked Bool
  | .bool b => .ok b
  | .int n => boolNumber n
  | .float x =>
    match Decimal.ratio? x with
    | some (num, den) => if num % den == 0 then boolNumber (num / den) else .complain .boolType
    | none => .complain .boolType
  | .text s | .safe s => boolWord s
  | .bytes data =>
    match decodeBytes data with
    | some s => boolWord s
    | none => .complain .boolParsing
  | _ => .complain .boolType

/-- A text that is one of several. -/
def oneOf (words : List String) : Value → Checked String
  | .text s | .safe s => if words.contains s then .ok s else .complain .literalError
  | _ => .complain .literalError

/-- The items of a sequence of any kind. -/
def items : Value → Checked (List Value)
  | .text _ | .safe _ | .bytes _ | .mapping _ => .complain .listType
  | value =>
    match value.iterate with
    | .ok (items, none) => .ok items
    | _ => .complain .listType

/-- The members of a mapping. -/
def members : Value → Checked (Fields Value)
  | .mapping fields => .ok fields
  | _ => .complain .dictType

/-- The members of a mapping that stands for a whole. -/
def parts : Value → Checked (Fields Value)
  | .mapping fields => .ok fields
  | _ => .complain .modelType

variable {α : Type}

/-- Null, or what `check` accepts. -/
def nullable (check : Value → Checked α) : Value → Checked (Option α)
  | .null => .ok none
  | value => (check value).map some

/-- A list of what `check` accepts. -/
def list (check : Value → Checked α) (value : Value) : Checked (List α) :=
  match items value with
  | .ok found => .allIndexed (found.map check)
  | .error issues => .error issues

/-- A mapping to what `check` accepts. -/
def mapping (check : Value → Checked α) (value : Value) : Checked (Fields α) :=
  match members value with
  | .ok fields => .allNamed (fields.map fun (name, value) => (name, check value))
  | .error issues => .error issues

/-- A member that must be there. -/
def required (fields : Fields Value) (name : String) (check : Value → Checked α) : Checked α :=
  (match fields.get? name with
    | some value => check value
    | none => .complain .missing).within (.name name)

/-- A member with a value for when it is not there. -/
def optional (fields : Fields Value) (name : String) (fallback : α) (check : Value → Checked α) : Checked α :=
  match fields.get? name with
  | some value => (check value).within (.name name)
  | none => .ok fallback

end Colloquy.Check
