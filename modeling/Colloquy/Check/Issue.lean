import Colloquy.Fields

/-! Checking data against a shape. A check either yields what the data says or lists every issue it found, each with
the steps that lead to the offending part; checks of several parts list the issues of all of them. -/
namespace Colloquy

/-- What is wrong with a part of the data. -/
inductive Complaint where
  | missing
  | stringType
  | stringUnicode
  | intType
  | intParsing
  | intFromFloat
  | finiteNumber
  | floatType
  | floatParsing
  | boolType
  | boolParsing
  | dictType
  | listType
  | modelType
  | modelAttributesType
  | literalError
  | callableType
  | unionTagInvalid
  | unionTagNotFound
  | valueError
  | invalidJson
  deriving DecidableEq, Repr

/-- The name of a complaint. -/
def Complaint.name : Complaint → String
  | missing => "missing"
  | stringType => "string_type"
  | stringUnicode => "string_unicode"
  | intType => "int_type"
  | intParsing => "int_parsing"
  | intFromFloat => "int_from_float"
  | finiteNumber => "finite_number"
  | floatType => "float_type"
  | floatParsing => "float_parsing"
  | boolType => "bool_type"
  | boolParsing => "bool_parsing"
  | dictType => "dict_type"
  | listType => "list_type"
  | modelType => "model_type"
  | modelAttributesType => "model_attributes_type"
  | literalError => "literal_error"
  | callableType => "callable_type"
  | unionTagInvalid => "union_tag_invalid"
  | unionTagNotFound => "union_tag_not_found"
  | valueError => "value_error"
  | invalidJson => "invalid_json"

/-- A step into data: a name or an index. -/
inductive Step where
  | name (s : String)
  | index (i : Int)
  deriving DecidableEq, Repr

/-- A complaint about the part that the steps lead to. -/
structure Issue where
  complaint : Complaint
  place : List Step
  deriving DecidableEq, Repr

/-- The outcome of a check. -/
abbrev Checked (α : Type) := Except (List Issue) α

namespace Checked
variable {α β : Type}

/-- One complaint about the data as a whole. -/
def complain (complaint : Complaint) : Checked α := .error [⟨complaint, []⟩]

/-- Places the issues of a part inside the whole. -/
def within (step : Step) (outcome : Checked α) : Checked α :=
  outcome.mapError fun issues => issues.map fun issue => { issue with place := step :: issue.place }

/-- Both outcomes, or the issues of both. -/
def both (first : Checked α) (second : Checked β) : Checked (α × β) :=
  match first, second with
  | .ok a, .ok b => .ok (a, b)
  | .ok _, .error issues => .error issues
  | .error issues, .ok _ => .error issues
  | .error issues, .error more => .error (issues ++ more)

/-- All outcomes, or the issues of all. -/
def all : List (Checked α) → Checked (List α)
  | [] => .ok []
  | first :: rest => (both first (all rest)).map fun (a, more) => a :: more

/-- The outcomes under names, or the issues of all, each placed under its name. -/
def allNamed (fields : List (String × Checked α)) : Checked (List (String × α)) :=
  all (fields.map fun (name, outcome) => (outcome.within (.name name)).map fun a => (name, a))

/-- The outcomes of items, or the issues of all, each placed at its index. -/
def allIndexed (items : List (Checked α)) : Checked (List α) :=
  all (items.zipIdx.map fun (outcome, i) => outcome.within (.index i))

end Checked
end Colloquy
