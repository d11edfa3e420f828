import Colloquy.Filter.Basic

/-! Calling functions: those of the host, and the two that are there without being bound. -/
namespace Colloquy

namespace Value

/-- Arguments that have been evaluated. -/
structure Given where
  positional : List Value
  keywords : Fields Value

/-- The name under which a value is put into a mapping; sequences and mappings cannot be names. -/
def memberName : Value → Except Misuse String
  | text s | safe s => .ok s
  | list _ | tuple _ | mapping _ | model _ _ => .error .wrongType
  | bool b => .ok (if b then "true" else "false")
  | null => .ok "null"
  | other => .ok other.asText

/-- The members that pairs write, the first pair being number `i`. -/
def membersOf (i : Nat) : List Value → Except Misuse (List (String × Value))
  | [] => .ok []
  | pair :: rest => do
    match ← pair.collect with
    | [name, value] => return (← memberName name, value) :: (← membersOf (i + 1) rest)
    | items => throw (.badValue ("dictionary update sequence element #" ++ toString i ++ " has length " ++
        toString items.length ++ "; 2 is required"))

/-- The members of a mapping, or those that a sequence of pairs writes. -/
def asMembers : Value → Except Misuse (Fields Value)
  | mapping fields => .ok fields
  | value => do return Fields.ofPairs (← membersOf 0 (← value.collect))

/-- A mapping made of another one or of pairs, and of named values. -/
def makeMapping (given : Given) : Except Misuse Value :=
  match given.positional with
  | [] => .ok (mapping (Fields.ofPairs given.keywords))
  | [value] => do return mapping (Fields.merge (← asMembers value) given.keywords)
  | _ => .error .wrongType

/-- A range from zero or a start up to a stop, in steps of one or of another size. -/
def makeRange (given : Given) : Except Misuse Value := do
  if !given.keywords.isEmpty then throw .wrongType
  match ← given.positional.mapM Filter.whole with
  | [stop] => return range 0 stop 1
  | [start, stop] => return range start stop 1
  | [start, stop, step] =>
    if step == 0 then throw (.badValue "range() arg 3 must not be zero") else return range start stop step
  | _ => throw .wrongType

end Value

/-- What a host function does. -/
def HostFunction.call (f : HostFunction) (given : Value.Given) : Except Misuse Value :=
  match f with
  | .shout => do
    let assigned ← Parameter.assign [.required "text", .optional "suffix" (.text "!")] given.positional given.keywords
    match Filter.argumentOf assigned "text", (Filter.argumentOf assigned "suffix").text? with
    | .bytes _, _ => throw .wrongType
    | value, suffix =>
      match value.text?, suffix with
      | none, _ => throw .noAttribute
      | _, none => throw .wrongType
      | some s, some suffix => return .text (Text.upper s ++ suffix)
  | .describe => do
    let json ← (Value.list [.list given.positional, .mapping given.keywords]).toJson false
    return .text (Json.write .spaced json)
  | .nothing => .ok .null
  | .first =>
    match given.positional with
    | value :: _ => .ok value
    | [] => .error .badIndex
  | .failing cause => .error cause

/-- The functions that need not be bound. Those that make placeholder text, cycle, join or hold names are left out and
count as unbound. -/
def standardFunction? : String → Option (Value.Given → Except Misuse Value)
  | "range" => some Value.makeRange
  | "dict" => some Value.makeMapping
  | _ => none

end Colloquy
