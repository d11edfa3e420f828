import Colloquy.Check.Datum
import Colloquy.Check.Value
import Colloquy.Json.Basic

/-! Data as JSON. It is read as each kind of JSON in turn, and the reading that fits best counts, so that JSON is taken as
it is, while other sequences count as lists and byte strings as the texts they encode. What is not JSON is refused as a
whole, with one complaint however many parts offend. Data may be nested to any depth. -/
namespace Colloquy.Check

/-- A kind of JSON that has no parts: its name, the complaint about data with parts, how it is read from a value, and how
well the value fits. -/
structure ScalarKind where
  name : String
  refusal : Complaint
  read : Value → Checked Json
  fit : Value → Fit

/-- How well a value fits a text. -/
def fitsText : Value → Fit
  | .text _ => .exact
  | .safe _ => .strict
  | _ => .lax

/-- How well a value fits an integer. -/
def fitsInt : Value → Fit
  | .int _ => .exact
  | _ => .lax

/-- How well a value fits a floating point number. -/
def fitsFloat : Value → Fit
  | .float _ => .exact
  | .int _ => .strict
  | _ => .lax

/-- How well a value fits a truth value. -/
def fitsBool : Value → Fit
  | .bool _ => .exact
  | _ => .lax

/-- Texts. -/
def textKind : ScalarKind := ⟨"str", .stringType, fun value => (text value).map .text, fitsText⟩

/-- Integers. -/
def intKind : ScalarKind := ⟨"int", .intType, fun value => (int value).map .int, fitsInt⟩

/-- Floating point numbers. -/
def floatKind : ScalarKind := ⟨"float", .floatType, fun value => (float value).map .float, fitsFloat⟩

/-- Truth values. -/
def boolKind : ScalarKind := ⟨"bool", .boolType, fun value => (bool value).map .bool, fitsBool⟩

/-- The kinds without parts, in the order in which they are tried. -/
def scalarKinds : List ScalarKind := [textKind, intKind, floatKind, boolKind]

/-- Reads a value as a kind without parts; anything that has parts is none. -/
def ScalarKind.readFrom (kind : ScalarKind) : Option Value → Checked (Fitted Json)
  | some value => (kind.read value).map fun found => ⟨found, kind.fit value⟩
  | none => .complain kind.refusal

/-- The kind of JSON that fits best, from what the data is as a mapping, as a list and as a value without parts. -/
def bestKind (asMapping asList : Checked (Fitted Json)) (value : Option Value) : Checked (Fitted Json) :=
  best (asMapping.within (.name "dict[str,...]") :: asList.within (.name "list[...]") ::
    scalarKinds.map fun kind => (kind.readFrom value).within (.name kind.name))

/-- One complaint in place of all. -/
def asOneIssue {α : Type} (outcome : Checked α) : Checked α := outcome.mapError fun _ => [⟨.invalidJson, []⟩]

/-- A list from what its items are. -/
def listOf (fit : Fit) (items : List (Checked (Fitted Json))) : Checked (Fitted Json) :=
  (Checked.allIndexed items).map fun found =>
    ⟨.list (found.map Fitted.value), (found.map Fitted.fit).foldl Fit.worse fit⟩

/-- An object from its names, which have to be texts, and from what stands under them. -/
def objectOf (entries : List (Value × Checked (Fitted Json))) : Checked (Fitted Json) :=
  (Checked.all (entries.map fun (name, outcome) =>
    (Checked.both ((text name).within (.name "[key]")) outcome).within (.ofName name))).map fun members =>
      ⟨.object (Fields.ofPairs (members.map fun (name, found) => (name, found.value))),
        ((entries.map fun entry => fitsText entry.1) ++ members.map fun (_, found) => found.fit).foldl Fit.worse .exact⟩

namespace Datum

mutual

/-- What data is as JSON, and how well it fits. Null is told first; anything else is the kind that fits best, and each part
that is none gives one complaint. -/
def read : Datum → Checked (Fitted Json)
  | whole .null => .ok ⟨.null, .exact⟩
  | whole value => asOneIssue (bestKind (.complain .dictType) (.complain .listType) (some value))
  | sequence fit items => asOneIssue (bestKind (.complain .dictType) (listOf fit (readItems items)) none)
  | mapping entries => asOneIssue (bestKind (objectOf (readEntries entries)) (.complain .listType) none)

/-- What several parts are. -/
def readItems : List Datum → List (Checked (Fitted Json))
  | [] => []
  | item :: rest => read item :: readItems rest

/-- What stands under names. -/
def readEntries : List (Value × Datum) → List (Value × Checked (Fitted Json))
  | [] => []
  | (name, datum) :: rest => (name, read datum) :: readEntries rest

end

/-- Data as JSON. -/
def json (datum : Datum) : Checked Json := datum.read.map Fitted.value

end Datum

/-- A value as JSON. -/
def json (value : Value) : Checked Json := value.datum.json

end Colloquy.Check
