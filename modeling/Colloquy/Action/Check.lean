import Colloquy.Action.Basic
import Colloquy.Check.Value

/-! Reading actions from mappings. The tag tells the kind of action; a target keeps its identity, so that a commit reaches
the very record or scope that was named. -/
namespace Colloquy

/-- The members of an item that is a record. -/
def Store.recordMembers (store : Store) : Item → Option (Fields Item)
  | .record id => some (store.membersOf id)
  | _ => none

/-- Reads a commit. -/
def Commit.check (store : Store) (item : Item) : Checked Commit :=
  match store.recordMembers item with
  | none => .complain .modelType
  | some fields => do
    let values := store.viewAll fields
    let target : Checked Item := match fields.get? "target" with
      | some target => .ok target
      | none => .complain .missing
    let (target, key, applied) ← Checked.both (target.within (.name "target"))
      (.both (Check.required values "key" Check.text) (Check.optional values "applied" false Check.bool))
    return ⟨target, key, (fields.get? "value").getD (.leaf .null), applied⟩

namespace Action

/-- Reads a function to be run when a review ends. -/
def checkHook : Item → Checked (Option Hook)
  | .leaf .null => .ok none
  | .leaf (.function f) => .ok (some (.call f))
  | _ => .complain .callableType

/-- Reads an optional member by its item. -/
def optionalItem {α : Type} (fields : Fields Item) (name : String) (check : Item → Checked (Option α)) :
    Checked (Option α) :=
  match fields.get? name with
  | none => .ok none
  | some item => (check item).within (.name name)

/-- Reads the commit of an action. -/
def checkCommit (store : Store) : Item → Checked (Option Commit)
  | .leaf .null => .ok none
  | item => (Commit.check store item).map some

/-- The tags of the kinds of action. -/
def tags : List String := ["loop", "feedback", "noop"]

/-- Reads an action of the kind that the tag tells. -/
def checkTagged (store : Store) (fields : Fields Item) (tag : String) : Checked Action :=
  let content := (fields.get? "content").getD (.leaf .null)
  let commit : Checked (Option Commit) := optionalItem fields "commit" (checkCommit store)
  let found : Checked Action :=
    if tag == "loop" then commit.map (loop content ·)
    else if tag == "noop" then commit.map (close content ·)
    else do
      let (commit, onAccept, onReject) ← Checked.both commit
        (.both (optionalItem fields "on_accept" checkHook) (optionalItem fields "on_reject" checkHook))
      return review content commit onAccept onReject
  if tags.contains tag then Checked.within (.name tag) found else .complain .unionTagInvalid

/-- Reads an action from what a handler hands back. -/
def check (store : Store) (item : Item) : Checked Action :=
  match item with
  | .record id =>
    let fields := store.membersOf id
    match fields.get? "action" with
    | none => .complain .unionTagNotFound
    | some (.leaf (.text tag)) => checkTagged store fields tag
    | some _ => .complain .unionTagInvalid
  | .scope _ | .leaf (.model _ _) | .leaf .foreign => .complain .unionTagNotFound
  | _ => .complain .modelAttributesType

end Action
end Colloquy
