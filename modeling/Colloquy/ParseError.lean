import Colloquy.Expr.Fragment
import Colloquy.Markup.Reader

/-! Malformed input: an expression or a document that cannot be read. The error knows the offset, the line and the
column as far as they are known. -/
namespace Colloquy

/-- What could not be read. -/
inductive ParseProblem where
  | expression (fault : Expr.Fault)
  | markup (failure : Markup.Failure)
  deriving DecidableEq, Repr

/-- The text of a problem. -/
def ParseProblem.message : ParseProblem → String
  | expression fault => fault.message
  | markup failure => failure.message

/-- A problem with the offset and the place where it was found. -/
structure ParseError where
  problem : ParseProblem
  position : Option Int
  place : Option Text.Place
  deriving DecidableEq, Repr

namespace ParseError

/-- The text of a parse error: the place when it is known, else the offset when that is known. -/
def describe (summary : String) (position line column : Option Int) : String :=
  match line with
  | some line =>
    summary ++ " (line " ++ toString line ++ ", column " ++
      (column.elim "None" toString) ++ ")"
  | none =>
    match position with
    | some position => summary ++ " (at position " ++ toString position ++ ")"
    | none => summary

/-- The text of the error. -/
def message (error : ParseError) : String :=
  describe error.problem.message error.position (error.place.map (·.line)) (error.place.map (·.column))

/-- A fault in an expression that stands alone. -/
def ofExpression (failure : Expr.Failure) : ParseError :=
  ⟨.expression failure.fault, some failure.position, none⟩

/-- A fault in a region of a text. -/
def ofFragment (failure : Fragment.Failure) : ParseError :=
  ⟨.expression failure.fault, some failure.position, some failure.place⟩

/-- A malformed document; columns are counted from one here. -/
def ofMarkup (failure : Markup.Failure) : ParseError :=
  ⟨.markup failure, none, some ⟨failure.line, failure.column + 1⟩⟩

end ParseError
end Colloquy
