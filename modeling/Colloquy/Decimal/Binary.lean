/-! Binary floating point numbers taken apart and put together. A finite number is a sign and `mantissa * 2 ^
exponent`; a ratio is read as the nearest such number, a half going to the even mantissa. -/
namespace Colloquy.Decimal

/-- A power of two. -/
def twoTo (n : Nat) : Nat := Nat.pow 2 n

/-- A power of ten. -/
def tenTo (n : Nat) : Nat := Nat.pow 10 n

/-- The whole number nearest to `num / den`, the even one of two that are equally near. -/
def roundRatio (num den : Nat) : Nat :=
  let quotient := num / den
  let twice := 2 * (num % den)
  if twice < den then quotient
  else if den < twice then quotient + 1
  else if quotient % 2 == 0 then quotient else quotient + 1

/-- The value of a floating point number. -/
inductive Binary where
  | nan
  | infinite (negative : Bool)
  | finite (negative : Bool) (mantissa : Nat) (exponent : Int)

/-- Takes a number apart; the mantissa has at most 53 bits. -/
def Binary.ofFloat (x : Float) : Binary :=
  let bits := x.toBits.toNat
  let negative := twoTo 63 ≤ bits
  let field : Nat := bits / twoTo 52 % twoTo 11
  let fraction : Nat := bits % twoTo 52
  if field == 2047 then if fraction == 0 then .infinite negative else .nan
  else if field == 0 then .finite negative fraction (-1074)
  else .finite negative (fraction + twoTo 52) (field - 1075)

/-- The number with this sign, or its infinity when the bits would overflow. -/
def floatOfBits (negative : Bool) (bits : Nat) : Float :=
  let bounded := min bits (2047 * twoTo 52)
  Float.ofBits (UInt64.ofNat (bounded + if negative then twoTo 63 else 0))

/-- The nearest floating point number to `num / den`. -/
def ofRatio (negative : Bool) (num den : Nat) : Float :=
  if num == 0 then floatOfBits negative 0
  else
    let scale : Int := (Nat.log2 num : Int) - Nat.log2 den - 53
    let exponent : Int := max scale (-1074)
    let mantissa (e : Int) := if e < 0 then roundRatio (num * twoTo (-e).toNat) den
      else roundRatio num (den * twoTo e.toNat)
    let first := mantissa exponent
    if first ≤ twoTo 53 then floatOfBits negative ((exponent + 1074).toNat * twoTo 52 + first)
    else floatOfBits negative ((exponent + 1075).toNat * twoTo 52 + mantissa (exponent + 1))

/-- The nearest floating point number to `digits * 10 ^ power`, an exponent far out of range giving zero or
infinity at once. -/
def ofDecimal (negative : Bool) (digits : Nat) (power : Int) : Float :=
  if digits == 0 then floatOfBits negative 0
  else
    let places : Int := (Nat.log2 digits : Int) / 3 + 1
    if power > 400 then floatOfBits negative (2047 * twoTo 52)
    else if power + places < -400 then floatOfBits negative 0
    else if power < 0 then ofRatio negative digits (tenTo (-power).toNat)
    else ofRatio negative (digits * tenTo power.toNat) 1

/-- The nearest floating point number to an integer. -/
def ofInteger (n : Int) : Float := ofRatio (n < 0) n.natAbs 1

/-- A finite number as a signed ratio; infinities and not-a-number have none. -/
def ratio? (x : Float) : Option (Int × Nat) :=
  match Binary.ofFloat x with
  | .finite negative mantissa exponent =>
    let signed : Int := if negative then -(mantissa : Int) else mantissa
    if exponent < 0 then some (signed, twoTo (-exponent).toNat)
    else some (signed * twoTo exponent.toNat, 1)
  | _ => none

end Colloquy.Decimal
