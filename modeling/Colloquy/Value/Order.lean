import Colloquy.Value.Basic
import Colloquy.Decimal.Binary

/-! Equality and order of values. Numbers of every kind are compared by their exact value; texts, byte strings
and sequences are compared with their own kind, and nothing else has an order. -/
namespace Colloquy

/-- A number as it is compared: an exact ratio, an infinity, or none. -/
inductive Magnitude where
  | finite (num : Int) (den : Nat)
  | infinite (negative : Bool)
  | nan

namespace Magnitude

/-- The magnitude of a floating point number. -/
def ofFloat (x : Float) : Magnitude :=
  match Decimal.Binary.ofFloat x with
  | .nan => .nan
  | .infinite negative => .infinite negative
  | .finite _ _ _ =>
    match Decimal.ratio? x with
    | some (num, den) => .finite num den
    | none => .nan

/-- Equality; a number that is none equals nothing. -/
def eq : Magnitude → Magnitude → Bool
  | finite a b, finite c d => a * d == c * b
  | infinite a, infinite b => a == b
  | _, _ => false

/-- Strict order. -/
def lt : Magnitude → Magnitude → Bool
  | finite a b, finite c d => a * d < c * b
  | infinite a, infinite b => a && !b
  | infinite a, finite _ _ => a
  | finite _ _, infinite b => !b
  | _, _ => false

end Magnitude

namespace Value

/-- The magnitude of a number; truth values count as one and zero. -/
def magnitude? : Value → Option Magnitude
  | bool b => some (.finite (if b then 1 else 0) 1)
  | int n => some (.finite n 1)
  | float x => some (.ofFloat x)
  | _ => none

mutual

/-- Equality of values. -/
def eq (a b : Value) : Bool :=
  match a.magnitude?, b.magnitude? with
  | some m, some n => m.eq n
  | some _, none | none, some _ => false
  | none, none =>
    match a, b with
    | null, null => true
    | text s, text t | text s, safe t | safe s, text t | safe s, safe t => s == t
    | bytes s, bytes t => s == t
    | list s, list t => eqItems s t
    | tuple s, tuple t => eqItems s t
    | mapping s, mapping t => s.length == t.length && eqFields s t
    | range a b c, range d e f =>
      let n := rangeLength a b c
      n == rangeLength d e f && (n == 0 || a == d && (n == 1 || c == f))
    | model k s, model l t => k == l && eqFields s t
    | function f, function g => f == g
    | _, _ => false
termination_by sizeOf a

/-- Equality item by item. -/
def eqItems (a b : List Value) : Bool :=
  match a, b with
  | [], [] => true
  | x :: xs, y :: ys => eq x y && eqItems xs ys
  | _, _ => false
termination_by sizeOf a

/-- Every field of the first is in the second with an equal value. -/
def eqFields (a b : List (String × Value)) : Bool :=
  match a with
  | [] => true
  | (name, value) :: rest =>
    (match b.lookup name with
      | some other => eq value other
      | none => false) && eqFields rest b
termination_by sizeOf a

end

/-- Lexicographic order of byte strings. -/
def ltBytes : List UInt8 → List UInt8 → Bool
  | [], [] => false
  | [], _ => true
  | _, [] => false
  | a :: as, b :: bs => a < b || a == b && ltBytes as bs

mutual

/-- Strict order of values, for those that have one. -/
def lt? (a b : Value) : Except Misuse Bool :=
  match a.magnitude?, b.magnitude? with
  | some m, some n => .ok (m.lt n)
  | some _, none | none, some _ => .error .wrongType
  | none, none =>
    match a, b with
    | text s, text t | text s, safe t | safe s, text t | safe s, safe t => .ok (s < t)
    | bytes s, bytes t => .ok (ltBytes s t)
    | list s, list t => ltItems? s t
    | tuple s, tuple t => ltItems? s t
    | _, _ => .error .wrongType
termination_by sizeOf a

/-- Order by the first pair that differs, else by length. -/
def ltItems? (a b : List Value) : Except Misuse Bool :=
  match a, b with
  | [], [] => .ok false
  | [], _ => .ok true
  | _, [] => .ok false
  | x :: xs, y :: ys => if eq x y then ltItems? xs ys else lt? x y
termination_by sizeOf a

end

/-- Inserts an item behind those that are not greater. -/
def insertBy {α : Type} (lt : α → α → Except Misuse Bool) (x : α) : List α → Except Misuse (List α)
  | [] => .ok [x]
  | y :: rest =>
    match lt x y with
    | .error misuse => .error misuse
    | .ok true => .ok (x :: y :: rest)
    | .ok false => (insertBy lt x rest).map (y :: ·)

/-- Sorts so that equal items keep their order. -/
def sortBy {α : Type} (lt : α → α → Except Misuse Bool) (items : List α) : Except Misuse (List α) :=
  items.foldlM (fun sorted x => insertBy lt x sorted) []

end Value
end Colloquy
