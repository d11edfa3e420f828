/-! Expressions that texts may hold: paths into bindings, constants, calls and pipelines of filters. Arguments
are constants or paths, so an expression nests no deeper than its pipeline. -/
namespace Colloquy

/-- A step into a value: a member by its name or an item by its index, from the end when negative. -/
inductive Segment where
  | field (name : String)
  | index (i : Int)
  deriving DecidableEq, Repr, Inhabited

/-- A bound name and the steps into its value. -/
structure Path where
  root : String
  steps : List Segment
  deriving DecidableEq, Repr, Inhabited

/-- What may stand as an argument. -/
inductive Operand where
  | int (n : Int)
  | text (s : String)
  | path (p : Path)
  deriving DecidableEq, Repr, Inhabited

/-- One argument, by position or by keyword. -/
inductive Argument where
  | positional (value : Operand)
  | keyword (name : String) (value : Operand)
  deriving DecidableEq, Repr, Inhabited

/-- Arguments by position and by keyword, each kind in its own order; a keyword may be repeated. -/
structure Arguments where
  positional : List Operand
  keywords : List (String × Operand)
  deriving DecidableEq, Repr, Inhabited

namespace Arguments

/-- No arguments. -/
def none : Arguments := ⟨[], []⟩

/-- Puts an argument in front of those of its kind. -/
def cons (args : Arguments) : Argument → Arguments
  | .positional value => { args with positional := value :: args.positional }
  | .keyword name value => { args with keywords := (name, value) :: args.keywords }

/-- Whether there is no argument of either kind. -/
def isEmpty (args : Arguments) : Bool := args.positional.isEmpty && args.keywords.isEmpty

end Arguments

/-- A filter with its arguments. -/
structure FilterCall where
  name : String
  args : Arguments
  deriving DecidableEq, Repr, Inhabited

/-- The start of a pipeline. -/
inductive Primary where
  | operand (value : Operand)
  | call (name : String) (args : Arguments)
  deriving DecidableEq, Repr, Inhabited

/-- A primary passed through filters, from left to right; without filters it is the primary itself. -/
structure Expr where
  base : Primary
  filters : List FilterCall
  deriving DecidableEq, Repr, Inhabited

/-- The expression that is just a path. -/
def Expr.ofPath (p : Path) : Expr := ⟨.operand (.path p), []⟩

end Colloquy
