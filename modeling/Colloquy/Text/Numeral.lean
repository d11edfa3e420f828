import Colloquy.Decimal.Binary
import Colloquy.Text.Blank
import Colloquy.Text.Digit

/-! Numbers written out. Digits of every script count as their values, single underscores may stand between
digits, and white space may stand around. An integer has a limited number of digits, whatever its size. -/
namespace Colloquy.Text

/-- The value of a digit or a letter of the Latin alphabet, letters following nine. -/
def letterDigit? (c : Char) : Option Nat :=
  match digitValue? c with
  | some d => some d
  | none =>
    if 'a' ≤ c && c ≤ 'z' then some (c.toNat - 'a'.toNat + 10)
    else if 'A' ≤ c && c ≤ 'Z' then some (c.toNat - 'A'.toNat + 10)
    else none

/-- The digits of a numeral in a base, an underscore allowed after a digit and before another. -/
def digitsIn (base : Nat) (afterDigit : Bool) : List Char → Option (List Nat)
  | [] => if afterDigit then some [] else none
  | '_' :: rest => if afterDigit then digitsIn base false rest else none
  | c :: rest =>
    match letterDigit? c with
    | some d => if d < base then (digitsIn base true rest).map (d :: ·) else none
    | none => none

/-- The number that digits write in a base. -/
def numeralIn (base : Nat) (digits : List Nat) : Nat := digits.foldl (fun n d => base * n + d) 0

/-- The sign of a number and what follows it. -/
def readSign : List Char → Bool × List Char
  | '-' :: rest => (true, rest)
  | '+' :: rest => (false, rest)
  | cs => (false, cs)

/-- The base that a letter after a zero announces. -/
def announcedBase (c : Char) : Option Nat :=
  if c == 'x' || c == 'X' then some 16
  else if c == 'o' || c == 'O' then some 8
  else if c == 'b' || c == 'B' then some 2
  else none

/-- Drops one underscore. -/
def skipJoint : List Char → List Char
  | '_' :: rest => rest
  | cs => cs

/-- The base of a numeral and its digits without an announcement. Base zero means the announced base, ten without
one; a number that starts with zero is then zero itself. -/
def settleBase (base : Nat) (cs : List Char) : Option (Nat × List Char) :=
  match cs with
  | '0' :: c :: rest =>
    match announcedBase c with
    | some announced =>
      if base == announced || base == 0 then some (announced, skipJoint rest) else some (base, cs)
    | none =>
      if base != 0 then some (base, cs)
      else if (c :: rest).all fun d => d == '_' || digitValue? d == some 0 then some (10, cs)
      else none
  | _ => some (if base == 0 then 10 else base, cs)

/-- Whether an integer is read from so many digits in a base. There is no limit where the base is a power of two. -/
def fits (base count : Nat) : Bool := [2, 4, 8, 16, 32].contains base || count ≤ mostDigits

/-- The integer that a text writes in a base from two to thirty-six, or in the base it announces. -/
def readInteger? (base : Nat) (s : String) : Option Int :=
  if base == 1 || 36 < base then none
  else
    let (negative, body) := readSign (trimBy isSpace s.toList)
    match settleBase base body with
    | none => none
    | some (base, digits) =>
      ((digitsIn base false digits).filter fun ds => fits base ds.length).map fun ds =>
        let n : Int := numeralIn base ds
        if negative then -n else n

/-- The parts of a decimal fraction: the digits before and after the point and the exponent. -/
structure DecimalParts where
  whole : List Nat
  fraction : List Nat
  exponent : Int

/-- The characters up to one that satisfies `p`, with what follows it if there is one. -/
def cutAt (p : Char → Bool) (cs : List Char) : List Char × Option (List Char) :=
  match cs.dropWhile fun c => !p c with
  | [] => (cs, none)
  | _ :: rest => (cs.takeWhile fun c => !p c, some rest)

/-- Digits that may be missing altogether. -/
def someDigits (cs : List Char) : Option (List Nat) := if cs.isEmpty then some [] else digitsIn 10 false cs

/-- The exponent of a number; none written means zero. -/
def exponentOf : Option (List Char) → Option Int
  | none => some 0
  | some cs =>
    let (negative, digits) := readSign cs
    (digitsIn 10 false digits).map fun ds =>
      let n : Int := numeralIn 10 ds
      if negative then -n else n

/-- The parts of a decimal fraction; one digit at least stands before or after the point. -/
def decimalParts? (cs : List Char) : Option DecimalParts :=
  let (mantissa, exponent) := cutAt (fun c => c == 'e' || c == 'E') cs
  let (whole, fraction) := cutAt (· == '.') mantissa
  match someDigits whole, someDigits (fraction.getD []), exponentOf exponent with
  | some [], some [], _ => none
  | some whole, some fraction, some exponent => some ⟨whole, fraction, exponent⟩
  | _, _, _ => none

/-- The small letter of a capital of the Latin alphabet. -/
def smallLetter (c : Char) : Char := if 'A' ≤ c && c ≤ 'Z' then Char.ofNat (c.toNat + 32) else c

/-- The floating point number that a text writes: a decimal fraction, an infinity or not-a-number. -/
def readFloat? (s : String) : Option Float :=
  let (negative, body) := readSign (trimBy isSpace s.toList)
  let word := String.ofList (body.map smallLetter)
  if word == "inf" || word == "infinity" then
    some (Decimal.floatOfBits negative (2047 * Decimal.twoTo 52))
  else if word == "nan" then some (0.0 / 0.0)
  else
    (decimalParts? body).map fun parts =>
      let digits := parts.whole ++ parts.fraction
      Decimal.ofDecimal negative (numeralIn 10 digits) (parts.exponent - parts.fraction.length)

end Colloquy.Text
