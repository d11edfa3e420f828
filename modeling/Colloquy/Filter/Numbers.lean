import Colloquy.Filter.Basic
import Colloquy.Text.Numeral
import Colloquy.Value.Format

/-! Filters on numbers: reading them out of values, rounding and adding. -/
namespace Colloquy.Filter

/-- The part of a value without its sign. -/
def magnitudeOf : Value → Except Misuse Value
  | .bool b => .ok (.int (if b then 1 else 0))
  | .int n => .ok (.int n.natAbs)
  | .float x => .ok (.float x.abs)
  | _ => .error .wrongType

/-- The characters of a byte string, when they are all ASCII. -/
def asciiText (data : List UInt8) : Option String :=
  if data.all (· < 0x80) then some (String.ofList (data.map fun byte => Char.ofNat byte.toNat)) else none

/-- The floating point number that a value is or writes; one that is out of range is refused. -/
def readFloat : Value → Except Misuse (Option Float)
  | .text s | .safe s => .ok (Text.readFloat? s)
  | .bytes data => .ok ((asciiText data).bind Text.readFloat?)
  | value =>
    match Value.Format.floatOf value with
    | .ok x => .ok (some x)
    | .error .overflow => .error .overflow
    | .error _ => .ok none

/-- The whole number that a value is, is cut to, or writes. -/
def readWhole (base : Value) : Value → Except Misuse (Option Int)
  | .bool b => .ok (some (if b then 1 else 0))
  | .int n => .ok (some n)
  | .float x =>
    match Decimal.ratio? x with
    | some (num, den) => .ok (some (Int.tdiv num den))
    | none => if x.isNaN then .ok none else .error .overflow
  | .text s | .safe s =>
    match base with
    | .int n => .ok (if n < 0 then none else Text.readInteger? n.toNat s)
    | _ => .ok none
  | .bytes data => .ok ((asciiText data).bind (Text.readInteger? 10))
  | _ => .ok none

/-- A value as a whole number: what it writes, else what its fraction is cut to, else the fallback. -/
def asWhole (value : Value) (argument : String → Value) : Except Misuse Value := do
  match ← readWhole (argument "base") value with
  | some n => return .int n
  | none =>
    match readFloat value with
    | .ok (some x) =>
      match Decimal.ratio? x with
      | some (num, den) => return .int (Int.tdiv num den)
      | none => return argument "default"
    | _ => return argument "default"

/-- A value as a floating point number, or the fallback. -/
def asFloat (value : Value) (argument : String → Value) : Except Misuse Value := do
  match ← readFloat value with
  | some x => return .float x
  | none => return argument "default"

/-- The sum of two values of one kind: numbers, lists or fixed sequences. -/
def plus : Value → Value → Except Misuse Value
  | .float x, other => do return .float (x + (← Value.Format.floatOf other))
  | other, .float x => do return .float ((← Value.Format.floatOf other) + x)
  | .list a, .list b => .ok (.list (a ++ b))
  | .tuple a, .tuple b => .ok (.tuple (a ++ b))
  | a, b => do return .int ((← whole a) + (← whole b))

/-- Adds the items of a sequence, or an attribute of each, to a start. -/
def sum (value : Value) (argument : String → Value) : Except Misuse Value := do
  let (items, ending) ← value.iterate
  let parts := attributeParts (argument "attribute")
  match argument "start" with
  | .text _ | .safe _ | .bytes _ => throw .wrongType
  | start =>
    let total ← items.foldlM (fun total item => do
      plus total (← defined (← attributeOf (some item) parts))) start
    match ending with
    | some misuse => throw misuse
    | none => return total

/-- A whole number rounded to a power of ten, a half to the even neighbour. -/
def roundTens (n : Int) (zeros : Nat) : Int :=
  let unit := Decimal.tenTo zeros
  let rounded : Int := Decimal.roundRatio n.natAbs unit * unit
  if n < 0 then -rounded else rounded

/-- Rounds to the nearest number with a given number of places; without places, to a whole number. -/
def roundNearest (value places : Value) : Except Misuse Value :=
  match value, places with
  | .float x, .null =>
    match Decimal.roundWhole x with
    | some n => .ok (.int n)
    | none => .error (if x.isNaN then .badValue "cannot convert float NaN to integer" else .overflow)
  | .float x, places => do
    let rounded := Decimal.roundPlaces x (← whole places)
    if rounded.isInf && !x.isInf then throw .overflow
    return .float rounded
  | value, .null => (whole value).map .int
  | value, places => do
    let n ← whole value
    let places ← whole places
    return .int (if 0 ≤ places then n else roundTens n (-places).toNat)

/-- Ten to a power: whole for a power that is not negative. -/
def unitOf (places : Int) : Value :=
  if 0 ≤ places then .int (Decimal.tenTo places.toNat) else .float (Decimal.ofDecimal false 1 places)

/-- The product of two numbers. -/
def times : Value → Value → Except Misuse Value
  | .float x, other => do return .float (x * (← Value.Format.floatOf other))
  | other, .float x => do return .float ((← Value.Format.floatOf other) * x)
  | a, b => do return .int ((← whole a) * (← whole b))

/-- The quotient of a whole number and a number, as the nearest floating point number. -/
def quotient (n : Int) : Value → Except Misuse Float
  | .int d =>
    let x := Decimal.ofRatio (n < 0) n.natAbs d.natAbs
    if x.isInf then .error .overflow else .ok x
  | other => do return (← Value.Format.floatOf (.int n)) / (← Value.Format.floatOf other)

/-- Rounds up or down to a given number of places. -/
def roundToward (up : Bool) (value places : Value) : Except Misuse Value := do
  let unit := unitOf (← whole places)
  match ← times value unit with
  | .int n => return .float (← quotient n unit)
  | .float x =>
    match Decimal.ratio? x with
    | some (num, den) => return .float (← quotient (if up then -(Int.fdiv (-num) den) else Int.fdiv num den) unit)
    | none => throw (if x.isNaN then .badValue "cannot convert float NaN to integer" else .overflow)
  | _ => throw .wrongType

/-- Rounds a number to the nearest one, up or down. -/
def round (subject : Option Value) (argument : String → Value) : Filtered := do
  let places := argument "precision"
  let method := argument "method"
  if !(match method with
    | .list _ | .mapping _ | .model _ _ => false
    | _ => true) then throw .wrongType
  match method.text?, subject with
  | some "common", none => throw .wrongType
  | some "common", some value => return some (← roundNearest value places)
  | some "ceil", subject => return some (← roundToward true (← defined subject) places)
  | some "floor", subject => return some (← roundToward false (← defined subject) places)
  | _, _ => throw (.badArgument "method must be common, ceil or floor")

/-- The filters on numbers. -/
def numbers : Fields Filter := [
  ("abs", .plain [] fun subject _ =>
    match subject with
    | none => .error .wrongType
    | some value => (magnitudeOf value).map some),
  ("int", total [.optional "default" (.int 0), .optional "base" (.int 10)] asWhole),
  ("float", total [.optional "default" (.float 0.0)] asFloat),
  ("round", .plain [.optional "precision" (.int 0), .optional "method" (.text "common")] round),
  ("sum", total [.optional "attribute" .null, .optional "start" (.int 0)] sum)]

end Colloquy.Filter
