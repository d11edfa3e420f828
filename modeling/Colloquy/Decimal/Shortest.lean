import Colloquy.Decimal.Binary

/-! The shortest decimal that reads back as a given floating point number. For one digit, two digits and so on,
the two neighbours of the value on that decimal grid are tested against the interval of reals that round to
the number; the first grid with a hit wins, and of two hits the nearer, or the even one where both are as near. -/
namespace Colloquy.Decimal

/-- Digits before a power of ten: the value is `digits * 10 ^ power`. -/
structure Scientific where
  digits : Nat
  power : Int

/-- The largest `p` with `10 ^ p ≤ num / den`, searched downward from an upper bound. -/
def magnitudeFrom (num den : Nat) : Nat → Int → Int
  | 0, p => p
  | steps + 1, p =>
    let fits := if p < 0 then den ≤ num * tenTo (-p).toNat else den * tenTo p.toNat ≤ num
    if fits then p else magnitudeFrom num den steps (p - 1)

/-- The decimal exponent of the leading digit of `num / den`. -/
def magnitude (num den : Nat) : Int :=
  let bits : Int := (Nat.log2 num : Int) - Nat.log2 den
  magnitudeFrom num den 4 (bits * 30103 / 100000 + 1)

/-- The interval of reals that round to `mantissa * 2 ^ exponent`, in quarters of `2 ^ exponent`. -/
structure Reach where
  low : Nat
  high : Nat
  closed : Bool

/-- The lower half gap is halved again where the mantissa is the least of its binade. -/
def Reach.of (mantissa : Nat) (exponent : Int) : Reach where
  low := if mantissa == twoTo 52 && exponent > -1074 then 4 * mantissa - 1 else 4 * mantissa - 2
  high := 4 * mantissa + 2
  closed := mantissa % 2 == 0

/-- Whether `a / b` lies in the interval, whose quarters are `num / den` each. -/
def Reach.holds (reach : Reach) (num den a b : Nat) : Bool :=
  let left := a * den
  let low := reach.low * num * b
  let high := reach.high * num * b
  if reach.closed then low ≤ left && left ≤ high else low < left && left < high

/-- The nearer of two neighbours on a grid, given twice the value and the sum of both; the even one if they are
equally near. -/
def nearer (below twice sum : Nat) : Nat :=
  if twice < sum then below
  else if sum < twice then below + 1
  else if below % 2 == 0 then below else below + 1

/-- Tries grids of `count` digits and more, up to seventeen. -/
def shortestFrom (mantissa : Nat) (reach : Reach) (num den : Nat) (top : Int) : Nat → Nat → Scientific
  | 0, _ => ⟨0, 0⟩
  | steps + 1, count =>
    let power := top - count + 1
    let up := if power < 0 then tenTo (-power).toNat else 1
    let down := if power < 0 then 1 else tenTo power.toNat
    let exact := 4 * mantissa * num * up
    let unit := den * down
    let below := exact / unit
    let above := below + 1
    let low := reach.holds num den (below * down) up && 0 < below
    let high := reach.holds num den (above * down) up
    if low && high then
      ⟨nearer below (2 * exact) ((below + above) * unit), power⟩
    else if low then ⟨below, power⟩
    else if high then ⟨above, power⟩
    else shortestFrom mantissa reach num den top steps (count + 1)

/-- The fewest digits that read back as `mantissa * 2 ^ exponent`, a positive number. -/
def shortest (mantissa : Nat) (exponent : Int) : Scientific :=
  let quarter := exponent - 2
  let num := if quarter < 0 then 1 else twoTo quarter.toNat
  let den := if quarter < 0 then twoTo (-quarter).toNat else 1
  shortestFrom mantissa (Reach.of mantissa exponent) num den (magnitude (4 * mantissa * num) den) 17 1

/-- How a decimal is laid out: the exponents written positionally, the least width of an exponent, and whether
a whole number keeps a fraction of one zero. -/
structure Layout where
  leastPositional : Int
  mostPositional : Int
  exponentWidth : Nat
  keepsFraction : Bool

/-- Positional from four zeros after the point up to sixteen digits before it; whole numbers end in `.0`. -/
def Layout.plain : Layout := ⟨-4, 15, 2, true⟩

/-- Digits written from the most significant one. -/
def digitsOf (n : Nat) : List Char := Nat.toDigits 10 n

/-- Drops the zeros at the end of a digit string. -/
def dropFinalZeros (digits : List Char) : List Char :=
  (digits.reverse.dropWhile (· == '0')).reverse

/-- An exponent with its sign and at least `width` digits. -/
def exponentText (width : Nat) (e : Int) : List Char :=
  let digits := digitsOf e.natAbs
  (if e < 0 then '-' else '+') :: List.replicate (width - digits.length) '0' ++ digits

/-- Lays out a positive decimal given by its significant digits and the exponent of the first one. -/
def Layout.render (layout : Layout) (digits : List Char) (top : Int) : List Char :=
  if top < layout.leastPositional || layout.mostPositional < top then
    match digits with
    | [] => []
    | d :: rest =>
      (if rest.isEmpty then [d] else d :: '.' :: rest) ++ 'e' :: exponentText layout.exponentWidth top
  else if top < 0 then
    '0' :: '.' :: List.replicate (-top - 1).toNat '0' ++ digits
  else
    let whole := top.toNat + 1
    let padded := digits ++ List.replicate (whole - digits.length) '0'
    let fraction := padded.drop whole
    padded.take whole ++
      (if fraction.isEmpty then if layout.keepsFraction then ['.', '0'] else [] else '.' :: fraction)

/-- The names of the numbers that are not finite. -/
structure Names where
  nan : String
  infinity : String

/-- The text of a floating point number: the fewest digits that read back. -/
def textOf (layout : Layout) (names : Names) (x : Float) : String :=
  match Binary.ofFloat x with
  | .nan => names.nan
  | .infinite negative => (if negative then "-" else "") ++ names.infinity
  | .finite negative mantissa exponent =>
    let sign := if negative then "-" else ""
    if mantissa == 0 then sign ++ String.ofList (layout.render ['0'] 0)
    else
      let decimal := shortest mantissa exponent
      let digits := digitsOf decimal.digits
      let top := decimal.power + digits.length - 1
      sign ++ String.ofList (layout.render (dropFinalZeros digits) top)

/-- The text of a floating point number in messages: `1.5`, `1e+16`, `nan`, `-inf`. -/
def floatText (x : Float) : String := textOf .plain ⟨"nan", "inf"⟩ x

end Colloquy.Decimal
