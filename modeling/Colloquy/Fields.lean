/-! Finite maps that remember the order in which their names first appeared. Writing a name that is present
keeps its place; writing a new one appends it. -/
namespace Colloquy

/-- Names with values, in order of first appearance. -/
abbrev Fields (α : Type) := List (String × α)

namespace Fields
variable {α β : Type}

/-- The value under a name. -/
def get? : Fields α → String → Option α
  | [], _ => none
  | (key, value) :: rest, name => if key == name then some value else get? rest name

/-- Whether a name is present. -/
def has (fields : Fields α) (name : String) : Bool := (fields.get? name).isSome

/-- Writes a name in place, or appends it. -/
def put : Fields α → String → α → Fields α
  | [], name, value => [(name, value)]
  | (key, old) :: rest, name, value =>
    if key == name then (key, value) :: rest else (key, old) :: put rest name value

/-- Removes a name. -/
def drop (fields : Fields α) (name : String) : Fields α := fields.filter fun (key, _) => key != name

/-- The names in order. -/
def names (fields : Fields α) : List String := fields.map Prod.fst

/-- Writes every entry of the second map into the first, in order. -/
def merge (fields more : Fields α) : Fields α :=
  more.foldl (fun all (name, value) => put all name value) fields

/-- The map that a list of pairs writes, later pairs winning. -/
def ofPairs (pairs : List (String × α)) : Fields α := merge [] pairs

/-- Changes the values and keeps the names. -/
def mapValues (f : α → β) (fields : Fields α) : Fields β := fields.map fun (name, value) => (name, f value)

@[simp] theorem get?_nil (name : String) : get? ([] : Fields α) name = none := rfl

theorem get?_put (fields : Fields α) (name other : String) (value : α) :
    (fields.put name value).get? other = if name = other then some value else fields.get? other := by
  induction fields with
  | nil => simp [put, get?, beq_iff_eq]
  | cons entry rest ih =>
    obtain ⟨key, old⟩ := entry
    by_cases same : key = name
    · subst same
      by_cases hit : key = other <;> simp [put, get?, hit]
    · by_cases hit : key = other
      · subst hit
        simp [put, get?, same, Ne.symm same]
      · simp [put, get?, same, hit, ih]

@[simp] theorem get?_put_self (fields : Fields α) (name : String) (value : α) :
    (fields.put name value).get? name = some value := by simp [get?_put]

theorem get?_put_other (fields : Fields α) {name other : String} (value : α) (apart : name ≠ other) :
    (fields.put name value).get? other = fields.get? other := by simp [get?_put, apart]

end Fields
end Colloquy
