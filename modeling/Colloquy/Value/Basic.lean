import Colloquy.Fields
import Colloquy.Json.Basic

/-! The values that names are bound to. Most are JSON; beside these there are fixed sequences, byte strings,
ranges, messages, host functions, scopes, and objects that nothing is known about. A stream is what some filters
leave: items to be taken once, possibly ending in a misuse. -/
namespace Colloquy

/-- A way in which an operation can be unable to use a value. -/
inductive Misuse where
  | undefined
  | wrongType
  | noAttribute
  | badIndex
  | missingKey
  | overflow
  | zeroDivision
  | assertion
  | badValue (message : String)
  | badArgument (message : String)
  | needsContext
  deriving DecidableEq, Repr, Inhabited

/-- The functions that a host may bind: four that return, each where it can use what it is given, and those that fail,
each in its own way. -/
inductive HostFunction where
  | shout
  | describe
  | nothing
  | first
  | failing (cause : Misuse)
  deriving DecidableEq, Repr

/-- The kinds of message and of the parts of one. -/
inductive ModelKind where
  | message
  | systemMessage
  | userMessage
  | assistantMessage
  | toolResult
  | toolCall
  | toolFunction
  deriving DecidableEq, Repr

/-- The name of a kind. -/
def ModelKind.name : ModelKind → String
  | message => "Message"
  | systemMessage => "SystemMessage"
  | userMessage => "UserMessage"
  | assistantMessage => "AssistantMessage"
  | toolResult => "ToolResultMessage"
  | toolCall => "ChatCompletionMessageToolCall"
  | toolFunction => "ChatCompletionMessageToolCallFunction"

/-- Whether the kind is a message, which is shown as an outline. -/
def ModelKind.isMessage : ModelKind → Bool
  | toolCall | toolFunction => false
  | _ => true

/-- A value that a name may be bound to, or that an expression may yield. -/
inductive Value where
  | null
  | bool (b : Bool)
  | int (n : Int)
  | float (x : Float)
  | text (s : String)
  | safe (s : String)
  | bytes (data : List UInt8)
  | list (items : List Value)
  | tuple (items : List Value)
  | mapping (fields : List (String × Value))
  | range (start stop step : Int)
  | stream (items : List Value) (ending : Option Misuse)
  | model (kind : ModelKind) (fields : List (String × Value))
  | function (f : HostFunction)
  | scope (depth : Nat) (bindings : List (String × Value))
  | foreign
  deriving Inhabited

namespace Value

mutual

/-- A JSON value as a value. -/
def ofJson : Json → Value
  | .null => .null
  | .bool b => .bool b
  | .int n => .int n
  | .float x => .float x
  | .text s => .text s
  | .list items => .list (ofItems items)
  | .object fields => .mapping (ofFields fields)

/-- Several JSON values. -/
def ofItems : List Json → List Value
  | [] => []
  | item :: rest => ofJson item :: ofItems rest

/-- Named JSON values. -/
def ofFields : List (String × Json) → List (String × Value)
  | [] => []
  | (name, value) :: rest => (name, ofJson value) :: ofFields rest

end

/-- How many numbers a range holds. -/
def rangeLength (start stop step : Int) : Nat :=
  if 0 < step then ((stop - start + step - 1) / step).toNat
  else if step < 0 then ((start - stop - step - 1) / (-step)).toNat
  else 0

/-- The numbers of a range. -/
def rangeItems (start stop step : Int) : List Value :=
  (List.range (rangeLength start stop step)).map fun (i : Nat) => int (start + (i : Int) * step)

/-- A number of a range by its index, from the end when negative. -/
def rangeItem? (start stop step i : Int) : Option Value :=
  let n := rangeLength start stop step
  let i := if i < 0 then n + i else i
  if 0 ≤ i && i < n then some (int (start + i * step)) else none

/-- The characters of a text when the value is one. -/
def text? : Value → Option String
  | text s | safe s => some s
  | _ => none

/-- The number of items of a value that has one. -/
def length? : Value → Option Nat
  | text s | safe s => some s.length
  | bytes data => some data.length
  | list items | tuple items => some items.length
  | mapping fields => some fields.length
  | range start stop step => some (rangeLength start stop step)
  | _ => none

/-- Whether the value counts as true: what is empty or zero does not. -/
def isTrue : Value → Bool
  | null => false
  | bool b => b
  | int n => n != 0
  | float x => x != 0.0
  | value => (value.length?.map (· != 0)).getD true

/-- The items that a value yields one after the other, with the misuse that may end them. -/
def iterate : Value → Except Misuse (List Value × Option Misuse)
  | text s | safe s => .ok (s.toList.map fun c => text (String.singleton c), none)
  | bytes data => .ok (data.map fun byte => int byte.toNat, none)
  | list items | tuple items => .ok (items, none)
  | mapping fields => .ok (fields.map fun (name, _) => text name, none)
  | range start stop step => .ok (rangeItems start stop step, none)
  | stream items ending => .ok (items, ending)
  | model _ fields => .ok (fields.map fun (name, value) => tuple [text name, value], none)
  | _ => .error .wrongType

/-- All items of a value; a misuse at their end is passed on. -/
def collect (value : Value) : Except Misuse (List Value) :=
  match value.iterate with
  | .error misuse => .error misuse
  | .ok (items, none) => .ok items
  | .ok (_, some misuse) => .error misuse

/-- The last items first, for values whose items can be reached from the end. -/
def reversed : Value → Except Misuse (List Value)
  | text s => (text s).collect.map List.reverse
  | safe s => (safe s).collect.map List.reverse
  | bytes data => (bytes data).collect.map List.reverse
  | list items | tuple items => .ok items.reverse
  | mapping fields => (mapping fields).collect.map List.reverse
  | range start stop step => .ok (rangeItems start stop step).reverse
  | _ => .error .wrongType

/-- An item by its index, from the end when negative. -/
def nth? (items : List Value) (i : Int) : Option Value :=
  if 0 ≤ i then items[i.toNat]? else if -i ≤ items.length then items[(items.length + i).toNat]? else none

end Value
end Colloquy
