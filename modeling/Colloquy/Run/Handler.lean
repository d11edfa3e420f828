import Colloquy.Action.Check
import Colloquy.Json.Mend
import Colloquy.Run.World
import Colloquy.Tool.Basic

/-! Handlers serve the calls of tools. Those of the host are given by what they answer; two are always at hand, one that
asks the person and one that takes code; and a generation serves the calls of its own tool. -/
namespace Colloquy

/-- What a handler of the host answers: an action, something that is to be read as one, or an error. -/
inductive Reaction where
  | act (action : Action)
  | hand (item : Item)
  | fail (cause : Misuse)

/-- A handler. What one of the host answers depends on how often it was called before, on the arguments, and on the
store; it changes nothing but through its action. -/
inductive Handler where
  | host (name : String) (react : Nat → Item → Store → Reaction)
  | ask
  | code
  | generation (tool : Tool) (target : Item) (key : String) (feedback : Bool)

/-- The arguments of a call: none for an empty text, else what can be read of them. -/
def ToolCall.given (call : ToolCall) : Json := if call.arguments.isEmpty then .object [] else Json.mend call.arguments

namespace Handler

/-- The content for a call that asks nothing. -/
def noQuestion : String := "The 'ask' tool requires an 'input' question."

/-- The question in some arguments: their input if they are named. -/
def questionOf : Json → Json
  | .object fields => (Fields.get? fields "input").getD .null
  | arguments => arguments

/-- Whether some arguments say that the code is complete. -/
def isComplete : Json → Bool
  | .object fields => (((Fields.get? fields "complete").map Value.ofJson).map Value.isTrue).getD false
  | _ => false

/-- Relays a question to the person. -/
def relay (arguments : Json) : Run Action := do
  let question := Value.ofJson (questionOf arguments)
  if !question.isTrue then return .loop (.leaf (.text noQuestion)) none
  match ← Run.ask question.asText with
  | some answer => return .loop (.leaf (.text answer)) none
  | none => return .loop (.leaf .null) none

/-- Takes code; complete code is reviewed. -/
def take (arguments : Json) : Run Action := do
  let content ← Run.build fun store => store.place (.ofJson arguments)
  return if isComplete arguments then .review content none none none else .close content none

/-- Takes the value that a generation is to produce. -/
def produce (tool : Tool) (target : Item) (key : String) (feedback : Bool) (arguments : Json) : Run Action := do
  let value ← Run.build fun store => store.place (tool.unwrap (.ofJson arguments))
  let commit := some ⟨target, key, value, false⟩
  return if feedback then .review value commit none none else .close value commit

/-- Passes a call on to the host. -/
def serve (name : String) (react : Nat → Item → Store → Reaction) (arguments : Json) : Run Action := do
  let item ← Run.build fun store => store.place (.ofJson arguments)
  Run.record (.served name (.ofJson arguments))
  let before ← Run.read fun world => (world.served.get? name).getD 0
  Run.change fun world => { world with served := world.served.put name (before + 1) }
  let store ← Run.read World.store
  match react before item store with
  | .act action => return action
  | .hand item => Run.check ((Action.check store item).mapError .malformed)
  | .fail cause => Run.fail (.misuse cause)

/-- What a handler wants done for some arguments. -/
def respond (handler : Handler) (arguments : Json) : Run Action :=
  match handler with
  | host name react => serve name react arguments
  | ask => relay arguments
  | code => take arguments
  | generation tool target key feedback => produce tool target key feedback arguments

end Handler
end Colloquy
