import Colloquy.Check.Datum
import Colloquy.Check.Value
import Colloquy.Value.Order
import Colloquy.Value.Text

/-! Settings: the values that a configuration file can hold. Unlike elsewhere, a mapping may have names that are
no texts. -/
namespace Colloquy

/-- A value of a configuration file. -/
inductive Setting where
  | leaf (value : Value)
  | list (items : List Setting)
  | mapping (entries : List (Setting × Setting))
  deriving Inhabited

namespace Setting

/-- A text. -/
def text (s : String) : Setting := .leaf (.text s)

mutual

/-- A value as a setting. -/
def ofValue : Value → Setting
  | .list items => list (ofItems items)
  | .mapping fields => mapping (ofFields fields)
  | value => leaf value

/-- Several values as settings. -/
def ofItems : List Value → List Setting
  | [] => []
  | item :: rest => ofValue item :: ofItems rest

/-- Named values as entries. -/
def ofFields : List (String × Value) → List (Setting × Setting)
  | [] => []
  | (name, value) :: rest => (text name, ofValue value) :: ofFields rest

end

/-- Names that can be looked up: neither lists nor mappings. -/
def isName : Setting → Bool
  | leaf (.mapping _) | leaf (.list _) | leaf (.model _ _) => false
  | leaf _ => true
  | _ => false

/-- Whether two names are the same. -/
def sameName : Setting → Setting → Bool
  | leaf a, leaf b => a.eq b
  | _, _ => false

section Entries

variable {α : Type}

/-- The value under a name. -/
def valueUnder (entries : List (Setting × α)) (name : Setting) : Option α :=
  (entries.find? fun entry => sameName entry.1 name).map Prod.snd

/-- Writes a value under a name, in place if the name is there. -/
def put (entries : List (Setting × α)) (name : Setting) (value : α) : List (Setting × α) :=
  match entries with
  | [] => [(name, value)]
  | (key, old) :: rest =>
    if sameName key name then (key, value) :: rest else (key, old) :: put rest name value

/-- Removes a name. -/
def drop (entries : List (Setting × α)) (name : Setting) : List (Setting × α) :=
  entries.filter fun entry => !sameName entry.1 name

end Entries

mutual

/-- The value that a setting is; a mapping with a name that is no text is an object that nothing is known about. -/
def toValue : Setting → Value
  | leaf value => value
  | list items => .list (toItems items)
  | mapping entries =>
    match toFields entries with
    | some fields => .mapping fields
    | none => .foreign

/-- The values of several settings. -/
def toItems : List Setting → List Value
  | [] => []
  | item :: rest => toValue item :: toItems rest

/-- The values under names that are texts. -/
def toFields : List (Setting × Setting) → Option (List (String × Value))
  | [] => some []
  | (name, value) :: rest =>
    match Check.text (toValue name), toFields rest with
    | .ok name, some more => some ((name, toValue value) :: more)
    | _, _ => none

end

mutual

/-- A setting as data. -/
def datum : Setting → Check.Datum
  | leaf value => value.datum
  | list items => .sequence .exact (datumItems items)
  | mapping entries => .mapping (datumEntries entries)

/-- Several settings as data. -/
def datumItems : List Setting → List Check.Datum
  | [] => []
  | item :: rest => datum item :: datumItems rest

/-- Entries as data, their names being values. -/
def datumEntries : List (Setting × Setting) → List (Value × Check.Datum)
  | [] => []
  | (name, value) :: rest => (toValue name, datum value) :: datumEntries rest

end

/-- Whether a setting counts as true. -/
def isTrue : Setting → Bool
  | leaf value => value.isTrue
  | list items => !items.isEmpty
  | mapping entries => !entries.isEmpty

/-- The items that a setting yields one after the other. -/
def collect : Setting → Except Misuse (List Setting)
  | leaf value => value.collect.map ofItems
  | list items => .ok items
  | mapping entries => .ok (entries.map Prod.fst)

/-- The entries that pairs write, the first pair being number `i`. -/
def entriesOf (i : Nat) (entries : List (Setting × Setting)) :
    List Setting → Except Misuse (List (Setting × Setting))
  | [] => .ok entries
  | pair :: rest => do
    match ← pair.collect with
    | [name, value] => if isName name then entriesOf (i + 1) (put entries name value) rest else throw .wrongType
    | items => throw (.badValue ("dictionary update sequence element #" ++ toString i ++ " has length " ++
        toString items.length ++ "; 2 is required"))

/-- The entries of a mapping, or those that a sequence of pairs writes; nothing at all has none. -/
def entriesOr : Option Setting → Except Misuse (List (Setting × Setting))
  | none => .ok []
  | some (mapping entries) => .ok entries
  | some setting => if setting.isTrue then do entriesOf 0 [] (← setting.collect) else .ok []

/-- The step to what stands under a name. -/
def step (name : Setting) : Step := .ofName name.toValue

end Setting
end Colloquy
