import Colloquy.Check.Issue
import Colloquy.Value.Text

/-! Data as a check looks at it: a whole, a sequence of any kind, or a mapping, whose names need not be texts. What is
read from data comes with how well the data fits what it is read as; of several readings the best one counts. -/
namespace Colloquy.Check

/-- How well data fits a kind: it can be taken for it, it is of a kind derived from it, or it is of that very kind. -/
inductive Fit where
  | lax
  | strict
  | exact
  deriving DecidableEq, Repr

/-- The rank of a fit, better ones being higher. -/
def Fit.rank : Fit → Nat
  | lax => 0
  | strict => 1
  | exact => 2

/-- The worse of two fits. -/
def Fit.worse (a b : Fit) : Fit := if a.rank ≤ b.rank then a else b

/-- What data is read as, and how well it fits. -/
structure Fitted (α : Type) where
  value : α
  fit : Fit

variable {α : Type}

/-- The reading that fits better, the first of equals; if neither is one, the issues of both. -/
def better : Checked (Fitted α) → Checked (Fitted α) → Checked (Fitted α)
  | .ok a, .ok b => .ok (if a.fit.rank < b.fit.rank then b else a)
  | .ok a, .error _ => .ok a
  | .error _, .ok b => .ok b
  | .error issues, .error more => .error (issues ++ more)

/-- The reading that fits best, the first of equals; if there is none, the issues of all. -/
def best : List (Checked (Fitted α)) → Checked (Fitted α)
  | [] => .error []
  | first :: rest => better first (best rest)

/-- Data as a check looks at it; a sequence says how well it fits a list. -/
inductive Datum where
  | whole (value : Value)
  | sequence (fit : Fit) (items : List Datum)
  | mapping (entries : List (Value × Datum))
  deriving Inhabited

end Colloquy.Check

namespace Colloquy

/-- The step to what stands under a name. -/
def Step.ofName : Value → Step
  | .text s | .safe s => .name s
  | .int n => .index n
  | .bool b => .index (if b then 1 else 0)
  | value => .name value.shown

namespace Value
open Check

mutual

/-- A value as data. Everything whose items can be taken one after the other is a sequence but for texts and bytes. -/
def datum : Value → Datum
  | list items => .sequence .exact (datumItems items)
  | tuple items => .sequence .lax (datumItems items)
  | stream items none => .sequence .lax (datumItems items)
  | range start stop step => .sequence .lax ((rangeItems start stop step).map .whole)
  | model _ fields => .sequence .lax (datumPairs fields)
  | mapping fields => .mapping (datumFields fields)
  | value => .whole value

/-- Several values as data. -/
def datumItems : List Value → List Datum
  | [] => []
  | item :: rest => datum item :: datumItems rest

/-- Named values as pairs. -/
def datumPairs : List (String × Value) → List Datum
  | [] => []
  | (name, value) :: rest => .sequence .lax [.whole (text name), datum value] :: datumPairs rest

/-- Named values as entries. -/
def datumFields : List (String × Value) → List (Value × Datum)
  | [] => []
  | (name, value) :: rest => (text name, datum value) :: datumFields rest

end

end Value
end Colloquy
