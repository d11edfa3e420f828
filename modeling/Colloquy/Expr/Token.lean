import Colloquy.Expr.Fault
import Colloquy.Text.Blank
import Colloquy.Text.Digit

/-! The lexemes of a region with their offsets. A region ends at the first pair of closing braces outside a
quoted text; names and numbers are as long as they can be. -/
namespace Colloquy

/-- A lexeme with its offset in characters. -/
structure Token where
  lexeme : Lexeme
  position : Nat
  deriving DecidableEq, Repr, Inhabited

/-- A tokenized region: its tokens and the offset of the braces that close it. -/
structure Region where
  tokens : List Token
  close : Nat
  deriving DecidableEq, Repr, Inhabited

namespace Token

/-- A character that may start a name. -/
def isNameStart (c : Char) : Bool := c.isAlpha || c == '_'

/-- A character that may continue a name. -/
def isNameChar (c : Char) : Bool := c.isAlphanum || c == '_'

/-- What an escaped character stands for: `n` and `t` for controls, anything else for itself. -/
def unescape (c : Char) : Char := if c == 'n' then '\n' else if c == 't' then '\t' else c

/-- The characters of a quoted text up to the closing mark, and how many characters were read with it. -/
def readQuoted (mark : Char) : List Char → Option (List Char × Nat)
  | [] => none
  | '\\' :: e :: rest => (readQuoted mark rest).map fun (cs, n) => (unescape e :: cs, n + 2)
  | c :: rest =>
    if c == mark then some ([], 1) else (readQuoted mark rest).map fun (cs, n) => (c :: cs, n + 1)

/-- The number that ASCII digits write. -/
def decimalOf (digits : List Char) : Nat := Text.numeral (digits.map fun c => c.toNat - '0'.toNat)

/-- The number that ASCII digits write, unless they are too many. -/
def readDecimal (digits : List Char) : Except Text.Oversize Nat :=
  if digits.length ≤ Text.mostDigits then .ok (decimalOf digits) else .error ⟨digits.length⟩

/-- The lexeme of a single mark. -/
def mark? : Char → Option Lexeme
  | '$' => some .dollar
  | '.' => some .dot
  | '[' => some .leftBracket
  | ']' => some .rightBracket
  | '|' => some .pipe
  | ',' => some .comma
  | '=' => some .equals
  | _ => none

/-- The lexeme that starts with `c`, and how many characters after `c` belong to it. -/
def readLexeme (c : Char) (rest : List Char) : Except (Unread Expr.Fault) (Lexeme × Nat) :=
  if c == '"' || c == '\'' then
    match readQuoted c rest with
    | some (cs, n) => .ok (.text (String.ofList cs), n)
    | none => .error (.malformed .unterminatedText)
  else if Text.isAsciiDigit c then
    let digits := rest.takeWhile Text.isAsciiDigit
    ((readDecimal (c :: digits)).mapError .oversized).map fun (n : Nat) => (.int n, digits.length)
  else if c == '-' && !(rest.takeWhile Text.isAsciiDigit).isEmpty then
    let digits := rest.takeWhile Text.isAsciiDigit
    ((readDecimal digits).mapError .oversized).map fun (n : Nat) => (.int (-n), digits.length)
  else if isNameStart c then
    let more := rest.takeWhile isNameChar
    .ok (.ident (String.ofList (c :: more)), more.length)
  else
    match mark? c with
    | some lexeme => .ok (lexeme, 0)
    | none => .error (.malformed (.unrecognized c))

/-- Reads the tokens of a region whose text is at `position`; `opening` is where an unclosed region is
reported. -/
def scan (opening : Int) (position : Nat) : List Char → Except (Unread Expr.Failure) Region
  | [] => .error (.malformed ⟨.unterminatedRegion, opening⟩)
  | c :: rest =>
    if Text.isBlank c then scan opening (position + 1) rest
    else if c == '\x7d' && rest.head? == some '\x7d' then .ok ⟨[], position⟩
    else
      match readLexeme c rest with
      | .error reason => .error (reason.map fun fault => ⟨fault, position⟩)
      | .ok (lexeme, more) =>
        match scan opening (position + 1 + more) (rest.drop more) with
        | .error reason => .error reason
        | .ok region => .ok { region with tokens := ⟨lexeme, position⟩ :: region.tokens }
termination_by cs => cs.length
decreasing_by all_goals simp +arith

end Token

/-- The region whose inside starts at offset `start` of a text, `cs` being the text from there on. -/
def Region.read (start : Nat) (cs : List Char) : Except (Unread Expr.Failure) Region :=
  Token.scan ((start : Int) - 2) start cs

/-- The offset after the closing braces. -/
def Region.stop (region : Region) : Nat := region.close + 2

end Colloquy
