import Colloquy.Decimal.Fixed
import Colloquy.Value.Text

/-! Formatting with directives. A format is literal characters and directives, each a percent sign, flags, a width, a
precision and the letter of a conversion; a directive takes the next argument or the one it names. -/
namespace Colloquy.Value.Format

/-- How many characters a directive asks for: a number, or the next argument. -/
inductive Measure where
  | unset
  | fixed (n : Nat)
  | argument
  deriving DecidableEq

/-- What a directive says before its conversion. -/
structure Layout where
  left : Bool
  plus : Bool
  blank : Bool
  hash : Bool
  zero : Bool
  width : Measure
  precision : Measure

/-- A piece of a format. -/
inductive Piece where
  | literal (c : Char)
  | directive (key : Option String) (layout : Layout) (conversion : Char) (position : Nat)
  | incomplete
  | incompleteKey

/-- The name of an argument, up to the closing parenthesis of its level, with the rest. -/
def readKey (level : Nat) : List Char → Option (List Char × List Char)
  | [] => none
  | '(' :: rest => (readKey (level + 1) rest).map fun (key, left) => ('(' :: key, left)
  | ')' :: rest =>
    match level with
    | 0 => some ([], rest)
    | level + 1 => (readKey level rest).map fun (key, left) => (')' :: key, left)
  | c :: rest => (readKey level rest).map fun (key, left) => (c :: key, left)

/-- A character that is a flag. -/
def isFlag (c : Char) : Bool := c == '-' || c == '+' || c == ' ' || c == '#' || c == '0'

/-- A width or a precision, with the rest. -/
def readMeasure : List Char → Measure × List Char
  | '*' :: rest => (.argument, rest)
  | cs =>
    match cs.takeWhile Text.isAsciiDigit with
    | [] => (.unset, cs)
    | digits => (.fixed (Text.numeral (digits.map fun c => c.toNat - '0'.toNat)), cs.dropWhile Text.isAsciiDigit)

/-- A precision after a point; a point alone means none at all. -/
def readPrecision : List Char → Measure × List Char
  | '.' :: rest =>
    match readMeasure rest with
    | (.unset, rest) => (.fixed 0, rest)
    | found => found
  | cs => (.unset, cs)

/-- Drops one letter that says nothing about the argument. -/
def skipSize : List Char → List Char
  | 'h' :: rest | 'l' :: rest | 'L' :: rest => rest
  | cs => cs

/-- What follows the name in a directive: its layout and conversion, with the rest; `total` is the length of the
format. -/
def readLayout (total : Nat) (key : Option String) (cs : List Char) : Piece × List Char :=
  let flags := cs.takeWhile isFlag
  let (width, rest) := readMeasure (cs.dropWhile isFlag)
  let (precision, rest) := readPrecision rest
  let layout : Layout := {
    left := flags.contains '-'
    plus := flags.contains '+'
    blank := flags.contains ' '
    hash := flags.contains '#'
    zero := flags.contains '0'
    width
    precision }
  match skipSize rest with
  | [] => (.incomplete, [])
  | c :: rest => (.directive key layout c (total - rest.length - 1), rest)

/-- A directive after its percent sign, with the rest. -/
def readDirective (total : Nat) : List Char → Piece × List Char
  | '(' :: rest =>
    match readKey 0 rest with
    | none => (.incompleteKey, [])
    | some (key, rest) => readLayout total (some (String.ofList key)) rest
  | cs => readLayout total none cs

/-- The pieces of a format, as many as `steps` allows. -/
def piecesWithin (total : Nat) : Nat → List Char → List Piece
  | 0, _ => []
  | _, [] => []
  | steps + 1, '%' :: rest =>
    let (piece, rest) := readDirective total rest
    piece :: piecesWithin total steps rest
  | steps + 1, c :: rest => .literal c :: piecesWithin total steps rest

/-- The pieces of a format; each takes a character at least. -/
def pieces (cs : List Char) : List Piece := piecesWithin cs.length cs.length cs

/-- Where arguments come from: a row of them, or names, the whole of which counts as one argument once. -/
inductive Supply where
  | row (rest : List Value)
  | names (all : Fields Value) (whole : Option Value)

/-- The next argument. -/
def Supply.next : Supply → Except Misuse (Value × Supply)
  | row (value :: rest) => .ok (value, row rest)
  | row [] => .error .wrongType
  | names all (some whole) => .ok (whole, names all none)
  | names _ none => .error .wrongType

/-- Makes the argument under a name the next one. -/
def Supply.select (supply : Supply) (key : String) : Except Misuse Supply :=
  match supply with
  | row _ => .error .wrongType
  | names all _ =>
    match all.get? key with
    | some value => .ok (names all (some value))
    | none => .error .missingKey

/-- Whether no argument is left over. -/
def Supply.isSpent : Supply → Bool
  | row rest => rest.isEmpty
  | names _ _ => true

/-- A converted argument: sign and announcement stand before any zeros that fill the width. -/
structure Converted where
  sign : List Char
  announcement : List Char
  body : List Char
  fillsWithZeros : Bool

/-- The sign to write, when the number is not negative. -/
def Layout.signFor (layout : Layout) (negative : Bool) : List Char :=
  if negative then ['-'] else if layout.plus then ['+'] else if layout.blank then [' '] else []

/-- Text, cut to the precision. -/
def asPlain (precision : Option Nat) (s : String) : Converted :=
  ⟨[], [], (match precision with
    | some n => s.toList.take n
    | none => s.toList), false⟩

/-- A whole number in a base, with at least as many digits as the precision says. -/
def asWhole (layout : Layout) (precision : Option Nat) (base : Nat) (announcement : List Char) (n : Int) :
    Converted :=
  ⟨layout.signFor (n < 0), if layout.hash then announcement else [],
    Decimal.padded (precision.getD 1) (Nat.toDigits base n.natAbs), layout.zero⟩

/-- Capital letters of the Latin alphabet. -/
def capitals (cs : List Char) : List Char := cs.map Char.toUpper

/-- A floating point number, laid out by `layOut` from its exact ratio. -/
def asFraction (layout : Layout) (layOut : Nat → Nat → List Char) (x : Float) : Converted :=
  let negative := Decimal.twoTo 63 ≤ x.toBits.toNat
  match Decimal.ratio? x with
  | some (num, den) => ⟨layout.signFor negative, [], layOut num.natAbs den, layout.zero⟩
  | none =>
    if x.isNaN then ⟨layout.signFor false, [], ['n', 'a', 'n'], layout.zero⟩
    else ⟨layout.signFor negative, [], ['i', 'n', 'f'], layout.zero⟩

/-- The whole number that a number is or is cut to. -/
def wholeOf : Value → Except Misuse Int
  | bool b => .ok (if b then 1 else 0)
  | int n => .ok n
  | float x =>
    match Decimal.ratio? x with
    | some (num, den) => .ok (Int.tdiv num den)
    | none => .error (if x.isNaN then .badValue "cannot convert float NaN to integer" else .overflow)
  | _ => .error .wrongType

/-- The whole number of a value that is one. -/
def exactWhole : Value → Except Misuse Int
  | bool b => .ok (if b then 1 else 0)
  | int n => .ok n
  | _ => .error .wrongType

/-- The floating point number of a number; one that is out of range is refused. -/
def floatOf : Value → Except Misuse Float
  | bool b => .ok (if b then 1.0 else 0.0)
  | int n =>
    let x := Decimal.ofInteger n
    if x.isInf then .error .overflow else .ok x
  | float x => .ok x
  | _ => .error .wrongType

/-- The character that a number or a text of one character stands for. -/
def characterOf : Value → Except Misuse Char
  | int n => if 0 ≤ n && n < 0x110000 then .ok (Char.ofNat n.toNat) else .error .overflow
  | bool b => .ok (Char.ofNat (if b then 1 else 0))
  | value =>
    match value.text?.map String.toList with
    | some [c] => .ok c
    | _ => .error .wrongType

/-- The notation of a value in ASCII, other characters escaped. -/
def asciiShown (value : Value) : String :=
  String.ofList (value.shown.toList.flatMap fun c => if c.toNat < 0x80 then [c] else Text.escapeCode c.toNat)

/-- Why a letter is no conversion. -/
def unsupported (c : Char) (position : Nat) : Misuse :=
  .badValue ("unsupported format character '" ++ (if 31 < c.toNat && c.toNat < 127 then String.singleton c else "?") ++
    "' (0x" ++ String.ofList (Nat.toDigits 16 c.toNat) ++ ") at index " ++ toString position)

/-- How arguments are read: what is done to the text of one, and the numbers and characters that it stands for. -/
structure Rules where
  guarded : String → String
  whole : Value → Except Misuse Int
  exact : Value → Except Misuse Int
  fraction : Value → Except Misuse Float
  character : Value → Except Misuse Char

/-- Arguments are read as they are. -/
def Rules.plain : Rules := ⟨id, wholeOf, exactWhole, floatOf, characterOf⟩

/-- Converts an argument. -/
def convert (rules : Rules) (layout : Layout) (precision : Option Nat) (conversion : Char)
    (position : Nat) (value : Value) : Except Misuse Converted :=
  let places := precision.getD 6
  match conversion with
  | 's' => .ok (asPlain precision (match value with
    | safe s => s
    | other => rules.guarded other.asText))
  | 'r' => .ok (asPlain precision (rules.guarded value.shown))
  | 'a' => .ok (asPlain precision (rules.guarded (asciiShown value)))
  | 'd' | 'i' | 'u' => (rules.whole value).map (asWhole layout precision 10 [])
  | 'o' => (rules.exact value).map (asWhole layout precision 8 ['0', 'o'])
  | 'x' => (rules.exact value).map (asWhole layout precision 16 ['0', 'x'])
  | 'X' =>
    (rules.exact value).map fun n =>
      let found := asWhole layout precision 16 ['0', 'X'] n
      { found with body := capitals found.body }
  | 'e' => (rules.fraction value).map (asFraction layout fun num den =>
    let (digits, top) := Decimal.significant (places + 1) num den
    Decimal.withExponent digits top 'e' layout.hash)
  | 'E' => (rules.fraction value).map fun x =>
    let found := asFraction layout (fun num den =>
      let (digits, top) := Decimal.significant (places + 1) num den
      Decimal.withExponent digits top 'E' layout.hash) x
    { found with body := capitals found.body }
  | 'f' => (rules.fraction value).map (asFraction layout (Decimal.fixed places layout.hash))
  | 'F' => (rules.fraction value).map fun x =>
    let found := asFraction layout (Decimal.fixed places layout.hash) x
    { found with body := capitals found.body }
  | 'g' => (rules.fraction value).map (asFraction layout (Decimal.general places 'e' layout.hash))
  | 'G' => (rules.fraction value).map fun x =>
    let found := asFraction layout (Decimal.general places 'E' layout.hash) x
    { found with body := capitals found.body }
  | 'c' => (rules.character value).map fun c => asPlain none (String.singleton c)
  | other => .error (unsupported other position)

/-- A converted argument brought to a width. -/
def Converted.fill (found : Converted) (left : Bool) (width : Nat) : List Char :=
  let content := found.sign ++ found.announcement ++ found.body
  let missing := width - content.length
  if left then content ++ List.replicate missing ' '
  else if found.fillsWithZeros then
    found.sign ++ found.announcement ++ List.replicate missing '0' ++ found.body
  else List.replicate missing ' ' ++ content

/-- A width or precision as a number, negative when an argument says so. -/
def Measure.settle (rules : Rules) (measure : Measure) (supply : Supply) : Except Misuse (Option Int × Supply) :=
  match measure with
  | unset => .ok (none, supply)
  | fixed n => .ok (some n, supply)
  | argument =>
    match supply.next with
    | .error misuse => .error misuse
    | .ok (value, supply) => (rules.exact value).map fun n => (some n, supply)

/-- What one directive writes, with the arguments that are left. -/
def direct (rules : Rules) (key : Option String) (layout : Layout) (conversion : Char)
    (position : Nat) (supply : Supply) : Except Misuse (List Char × Supply) := do
  let supply ← match key with
    | some key => supply.select key
    | none => .ok supply
  let (width, supply) ← layout.width.settle rules supply
  let (precision, supply) ← layout.precision.settle rules supply
  if conversion == '%' then return (['%'], supply)
  let (value, supply) ← supply.next
  let width := width.getD 0
  let found ← convert rules layout (precision.map Int.toNat) conversion position value
  return (found.fill (layout.left || width < 0) width.natAbs, supply)

/-- Writes the pieces one after the other; every argument of a row must be taken. -/
def writePieces (rules : Rules) : List Piece → Supply → Except Misuse (List Char)
  | [], supply => if supply.isSpent then .ok [] else .error .wrongType
  | .literal c :: rest, supply => (writePieces rules rest supply).map (c :: ·)
  | .incomplete :: _, _ => .error (.badValue "incomplete format")
  | .incompleteKey :: _, .row _ => .error .wrongType
  | .incompleteKey :: _, _ => .error (.badValue "incomplete format key")
  | .directive key layout conversion position :: rest, supply =>
    match direct rules key layout conversion position supply with
    | .error misuse => .error misuse
    | .ok (written, supply) => (writePieces rules rest supply).map (written ++ ·)

/-- Fills a format with arguments. -/
def write (rules : Rules) (format : String) (supply : Supply) : Except Misuse String :=
  (writePieces rules (pieces format.toList) supply).map String.ofList

end Colloquy.Value.Format
