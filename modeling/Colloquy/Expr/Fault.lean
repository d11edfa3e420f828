import Colloquy.Text.Digit
import Colloquy.Text.Quoted

/-! Lexemes of the expression language, what can be wrong with an expression, and why else it may not be read. -/
namespace Colloquy

/-- A lexeme inside a region. -/
inductive Lexeme where
  | ident (name : String)
  | int (n : Int)
  | text (s : String)
  | dollar
  | dot
  | leftBracket
  | rightBracket
  | pipe
  | comma
  | equals
  deriving DecidableEq, Repr, Inhabited

/-- The name of a lexeme's class; the end of the region counts as a class of its own. -/
def Lexeme.label : Option Lexeme → String
  | some (.ident _) => "IDENT"
  | some (.int _) => "INT"
  | some (.text _) => "STRING"
  | some .dollar => "DOLLAR"
  | some .dot => "DOT"
  | some .leftBracket => "LBRACKET"
  | some .rightBracket => "RBRACKET"
  | some .pipe => "PIPE"
  | some .comma => "COMMA"
  | some .equals => "EQUALS"
  | none => "END"

/-- How a message shows a lexeme: an integer by its digits, anything else quoted. -/
def Lexeme.shown : Option Lexeme → String
  | some (.int n) => toString n
  | some (.ident name) => Text.quoted name
  | some (.text s) => Text.quoted s
  | some .dollar => Text.quoted "$"
  | some .dot => Text.quoted "."
  | some .leftBracket => Text.quoted "["
  | some .rightBracket => Text.quoted "]"
  | some .pipe => Text.quoted "|"
  | some .comma => Text.quoted ","
  | some .equals => Text.quoted "="
  | none => Text.quoted "\x7d\x7d"

namespace Expr

/-- What a rule of the grammar insists on. -/
inductive Wanted where
  | name
  | rightBracket
  | close
  deriving DecidableEq, Repr

/-- The class name in messages. -/
def Wanted.label : Wanted → String
  | name => "IDENT"
  | rightBracket => "RBRACKET"
  | close => "END"

/-- What can be wrong; `found` is the lexeme at the spot, or none at the end of the region. -/
inductive Fault where
  | unterminatedText
  | unterminatedRegion
  | emptyRegion
  | unrecognized (c : Char)
  | expected (wanted : Wanted) (found : Option Lexeme)
  | unexpected (found : Option Lexeme)
  | expectedOperand (found : Option Lexeme)
  | invalidIndex (found : Option Lexeme)
  deriving DecidableEq, Repr

/-- The text of a fault. -/
def Fault.message : Fault → String
  | unterminatedText => "Unterminated string literal"
  | unterminatedRegion => "Unterminated interpolation"
  | emptyRegion => "Empty interpolation"
  | unrecognized c => "Unrecognized character " ++ Text.quoted (String.singleton c)
  | expected wanted found =>
    "Expected " ++ wanted.label ++ " but found " ++ Lexeme.label found ++ " (" ++ Lexeme.shown found ++ ")"
  | unexpected found => "Unexpected " ++ Lexeme.label found ++ " (" ++ Lexeme.shown found ++ ")"
  | expectedOperand found =>
    "Expected a value but found " ++ Lexeme.label found ++ " (" ++ Lexeme.shown found ++ ")"
  | invalidIndex found => "Invalid index " ++ Lexeme.shown found

/-- A fault with its offset in characters. -/
structure Failure where
  fault : Fault
  position : Int
  deriving DecidableEq, Repr

/-- The same fault further on in a longer text. -/
def Failure.shift (offset : Int) (failure : Failure) : Failure :=
  { failure with position := failure.position + offset }

end Expr

/-- Why a text is not read: something is wrong with it, or it holds an integer with too many digits, wherever that is. -/
inductive Unread (φ : Type) where
  | malformed (failure : φ)
  | oversized (numeral : Text.Oversize)
  deriving DecidableEq, Repr

/-- The same reason, what is wrong being told in another way. -/
def Unread.map {φ ψ : Type} (f : φ → ψ) : Unread φ → Unread ψ
  | malformed failure => malformed (f failure)
  | oversized numeral => oversized numeral

end Colloquy
