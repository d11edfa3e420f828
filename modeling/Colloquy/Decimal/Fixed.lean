import Colloquy.Decimal.Shortest

/-! Decimals of a chosen precision. A number is rounded to a given number of places or of significant digits, a
half to the even neighbour, and laid out positionally or with an exponent. -/
namespace Colloquy.Decimal

/-- The number `num / den` in units of `10 ^ -places`, rounded. -/
def scaled (num den : Nat) (places : Int) : Nat :=
  if places < 0 then roundRatio num (den * tenTo (-places).toNat) else roundRatio (num * tenTo places.toNat) den

/-- The number rounded to `places` decimals; those that are not finite stay. -/
def roundPlaces (x : Float) (places : Int) : Float :=
  match ratio? x with
  | none => x
  | some (num, den) =>
    let negative := twoTo 63 ≤ x.toBits.toNat
    ofDecimal negative (scaled num.natAbs den places) (-places)

/-- The number rounded to a whole one; those that are not finite have none. -/
def roundWhole (x : Float) : Option Int :=
  (ratio? x).map fun (num, den) =>
    let n : Int := roundRatio num.natAbs den
    if num < 0 then -n else n

/-- Digits with zeros in front up to a width. -/
def padded (width : Nat) (digits : List Char) : List Char :=
  List.replicate (width - digits.length) '0' ++ digits

/-- Whole digits and `places` decimals; a point with no decimals after it is kept only on demand. -/
def fixed (places : Nat) (keepsPoint : Bool) (num den : Nat) : List Char :=
  let digits := padded (places + 1) (digitsOf (scaled num den places))
  let whole := digits.take (digits.length - places)
  let fraction := digits.drop (digits.length - places)
  whole ++ (if fraction.isEmpty && !keepsPoint then [] else '.' :: fraction)

/-- A number's significant digits and the exponent of the first one. -/
def significant (count : Nat) (num den : Nat) : List Char × Int :=
  if num == 0 then (List.replicate count '0', 0)
  else
    let top := magnitude num den
    let digits := digitsOf (scaled num den (count - 1 - top))
    if count < digits.length then (digits.take count, top + 1) else (digits, top)

/-- One digit, the others after a point, and an exponent. -/
def withExponent (digits : List Char) (top : Int) (mark : Char) (keepsPoint : Bool) : List Char :=
  let rest := digits.drop 1
  digits.take 1 ++ (if rest.isEmpty && !keepsPoint then [] else '.' :: rest) ++ mark :: exponentText 2 top

/-- Significant digits laid out positionally unless the exponent is far from zero. Zeros at the end are kept only on
demand. -/
def general (precision : Nat) (mark : Char) (keepsZeros : Bool) (num den : Nat) : List Char :=
  let count := max precision 1
  let (digits, top) := significant count num den
  let shown := if keepsZeros then digits else
    match dropFinalZeros digits with
    | [] => ['0']
    | kept => kept
  if top < -4 || (count : Int) ≤ top then withExponent shown top mark keepsZeros
  else if top < 0 then '0' :: '.' :: List.replicate (-top - 1).toNat '0' ++ shown
  else
    let whole := top.toNat + 1
    let all := shown ++ List.replicate (whole - shown.length) '0'
    let fraction := all.drop whole
    all.take whole ++ (if fraction.isEmpty && !keepsZeros then [] else '.' :: fraction)

end Colloquy.Decimal
