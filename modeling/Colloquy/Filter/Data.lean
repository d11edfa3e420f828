import Colloquy.Filter.Sequences
import Colloquy.Filter.Texts

/-! Filters that look at a value as a whole: its JSON, its stand-in when it is not defined, and its members.
With them ends the table of all filters. -/
namespace Colloquy.Filter

mutual

/-- A JSON value with the members of every object in the order of their names. -/
def inNameOrder : Json → Json
  | .list items => .list (itemsInNameOrder items)
  | .object fields => .object ((fieldsInNameOrder fields).mergeSort fun a b => a.1 ≤ b.1)
  | value => value

/-- Several JSON values so ordered. -/
def itemsInNameOrder : List Json → List Json
  | [] => []
  | item :: rest => inNameOrder item :: itemsInNameOrder rest

/-- Named JSON values so ordered, the names left in place. -/
def fieldsInNameOrder : List (String × Json) → List (String × Json)
  | [] => []
  | (name, value) :: rest => (name, inNameOrder value) :: fieldsInNameOrder rest

end

/-- Characters that have a meaning in markup, as they are written in JSON for it. -/
def guardChar (c : Char) : List Char :=
  if c == '<' || c == '>' || c == '&' || c == '\'' then Json.unitEscape c.toNat else [c]

/-- The indentation that an argument asks for: a number of blanks, or the very text. -/
def indentOf : Value → Except Misuse (Option String)
  | .null => .ok none
  | .text s | .safe s => .ok (some s)
  | value => (bounded 63 value).map fun n => some (String.ofList (List.replicate n.toNat ' '))

/-- The JSON of a value as a safe text. A text is never indented, whatever is asked for. -/
def asJson (subject : Option Value) (argument : String → Value) : Filtered := do
  let some value := subject | throw .wrongType
  let indent ← if value.text?.isSome then .ok none else indentOf (argument "indent")
  let style : Json.Style := match indent with
    | none => .spaced
    | indent => { Json.Style.spaced with between := ",", indent }
  let written := Json.write style (inNameOrder (← value.toJson false))
  return some (.safe (String.ofList (written.toList.flatMap guardChar)))

/-- A stand-in for a value that is not defined, and on demand for one that counts as false. -/
def orElse (subject : Option Value) (argument : String → Value) : Filtered :=
  let stand := argument "default_value"
  match subject with
  | none => .ok (some stand)
  | some value => .ok (some (if (argument "boolean").isTrue && !value.isTrue then stand else value))

/-- The filter that puts a stand-in. -/
def orElseFilter : Filter :=
  .plain [.optional "default_value" (.text ""), .optional "boolean" (.bool false)] orElse

/-- A member of a message; other values have none. -/
def memberOf (value : Value) (argument : String → Value) : Filtered :=
  match (argument "name").text? with
  | none => .error .wrongType
  | some name =>
    match value with
    | .model _ fields => .ok (Fields.get? fields name)
    | _ => .ok none

/-- The filters on values as a whole. -/
def data : Fields Filter := [
  ("tojson", .plain [.optional "indent" .null] asJson),
  ("default", orElseFilter),
  ("d", orElseFilter),
  ("attr", .plain [.required "name"] fun subject argument => do memberOf (← defined subject) argument)]

/-- The filters that need a running template. -/
def contextuals : Fields Filter :=
  ["map", "select", "reject", "selectattr", "rejectattr", "random"].map fun name => (name, .contextual)

/-- All filters. Eight others are left out and count as unknown: those that write the size of a file, group items, print
for inspection, strip tags, quote or mark up addresses, wrap words, and write attributes. -/
def all : Fields Filter := texts ++ sequences ++ numbers ++ data ++ contextuals

/-- The filter of a name. -/
def find? (name : String) : Option Filter := all.get? name

end Colloquy.Filter
