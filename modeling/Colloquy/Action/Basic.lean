import Colloquy.Store.Commit

/-! Actions: what a handler wants done after a call. The content goes back to the model, at once or after a person has
reviewed it; a commit, if there is one, is written into its target. -/
namespace Colloquy

/-- What is run when a review ends: a note in the history under the handler's name, or a function of the host. -/
inductive Hook where
  | note (handler : String)
  | call (f : HostFunction)
  deriving DecidableEq, Repr

/-- An action. A loop asks for another round, a review may ask for one, and a close does not. -/
inductive Action where
  | loop (content : Item) (commit : Option Commit)
  | review (content : Item) (commit : Option Commit) (onAccept onReject : Option Hook)
  | close (content : Item) (commit : Option Commit)
  deriving Inhabited

namespace Action

/-- The content of an action. -/
def content : Action → Item
  | loop content _ | review content _ _ _ | close content _ => content

/-- The commit of an action. -/
def commit : Action → Option Commit
  | loop _ commit | review _ commit _ _ | close _ commit => commit

end Action
end Colloquy
