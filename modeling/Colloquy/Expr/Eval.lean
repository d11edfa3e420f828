import Colloquy.Expr.Fragment
import Colloquy.Filter.Data
import Colloquy.Value.Call

/-! Evaluating expressions and rendering texts against bindings. A reference whose value is not bound is left in the
text as it was written; a filter that does not exist is an error even then. -/
namespace Colloquy

/-- The bindings that are visible at some point. -/
abbrev Bindings := String → Option Value

/-- Why an expression cannot be evaluated. -/
inductive EvalError where
  | unknownFilter (name : String)
  | misuse (cause : Misuse)
  deriving DecidableEq, Repr

/-- The wording of an error about a filter that does not exist. -/
def unknownFilterMessage (name : String) : String := "No filter named '" ++ name ++ "'"

/-- An outcome: a value, none when a value it depends on is not bound, or an error. -/
abbrev Evaluated := Except EvalError (Option Value)

/-- The value at one step into another: a member of a mapping or message, or an item of a sequence. -/
def Value.step (value : Value) : Segment → Option Value
  | .field name =>
    match value with
    | mapping fields | model _ fields => Fields.get? fields name
    | _ => none
  | .index i =>
    match value with
    | list items | tuple items => nth? items i
    | bytes data => nth? (data.map fun byte => int byte.toNat) i
    | range start stop step => rangeItem? start stop step i
    | _ => none

/-- The value at the end of several steps. -/
def Value.walk (value : Value) : List Segment → Option Value
  | [] => some value
  | step :: rest =>
    match value.step step with
    | some value => value.walk rest
    | none => none

/-- The value that a path leads to. -/
def Path.eval (bindings : Bindings) (path : Path) : Option Value :=
  (bindings path.root).bind fun value => value.walk path.steps

/-- The value of an operand. -/
def Operand.eval (bindings : Bindings) : Operand → Option Value
  | int n => some (.int n)
  | text s => some (.text s)
  | path p => p.eval bindings

/-- All values, if each is there. -/
def allPresent {α : Type} : List (Option α) → Option (List α)
  | [] => some []
  | some value :: rest => (allPresent rest).map (value :: ·)
  | none :: _ => none

/-- All named values, if each is there. -/
def allNamedPresent {α : Type} : List (String × Option α) → Option (List (String × α))
  | [] => some []
  | (name, some value) :: rest => (allNamedPresent rest).map ((name, value) :: ·)
  | (_, none) :: _ => none

/-- The effective arguments: of a keyword that is repeated only the last value counts, also for whether all
are bound. -/
def Arguments.eval (bindings : Bindings) (args : Arguments) : Option Value.Given := do
  let positional ← allPresent (args.positional.map (Operand.eval bindings))
  let keywords ← allNamedPresent (Fields.ofPairs (args.keywords.map fun (name, value) => (name, value.eval bindings)))
  return ⟨positional, keywords⟩

/-- The function that a name calls: the one bound to it, else the standard one. -/
def functionOf (bindings : Bindings) (name : String) : Option (Value.Given → Except Misuse Value) :=
  match bindings name with
  | some (.function f) => some f.call
  | _ => standardFunction? name

/-- A misuse as an outcome. -/
def ofMisuse {α : Type} (outcome : Except Misuse α) : Except EvalError α := outcome.mapError .misuse

/-- The value of the start of a pipeline. -/
def Primary.eval (bindings : Bindings) : Primary → Evaluated
  | operand value => .ok (value.eval bindings)
  | call name args =>
    match args.eval bindings, functionOf bindings name with
    | some given, some f => ofMisuse ((f given).map some)
    | _, _ => .ok none

/-- Passes a value, or the lack of one, through filters. An argument that is not bound and a filter that insists
on a value that is not there end the pipeline without a value. -/
def pipe (bindings : Bindings) (subject : Option Value) : List FilterCall → Evaluated
  | [] => .ok subject
  | ⟨name, args⟩ :: rest =>
    match Filter.find? name with
    | none => .error (.unknownFilter name)
    | some filter =>
      match args.eval bindings with
      | none => .ok none
      | some given =>
        match filter.apply subject given.positional given.keywords with
        | .ok value => pipe bindings value rest
        | .error .undefined => .ok none
        | .error cause => .error (.misuse cause)

/-- The value of an expression. -/
def Expr.eval (bindings : Bindings) (expr : Expr) : Evaluated :=
  match expr.base.eval bindings with
  | .ok value => pipe bindings value expr.filters
  | .error error => .error error

/-- The text of a fragment. -/
def Fragment.render (bindings : Bindings) : Fragment → Except EvalError String
  | text s => .ok s
  | reference expr source _ =>
    match expr.eval bindings with
    | .ok (some value) => .ok value.messageText
    | .ok none => .ok source
    | .error error => .error error

/-- The text of several fragments. -/
def renderAll (bindings : Bindings) : List Fragment → Except EvalError String
  | [] => .ok ""
  | fragment :: rest =>
    match fragment.render bindings with
    | .error error => .error error
    | .ok written => (renderAll bindings rest).map (written ++ ·)

end Colloquy
