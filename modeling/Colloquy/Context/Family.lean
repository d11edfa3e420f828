import Colloquy.Context.Basic
import Colloquy.Reply.Basic

/-! Families of contexts. A context is held with its model and with the places where its parameters, its table and its
account of tokens are kept. A derived context is a copy and so keeps the places of the one it comes from, but for the
table, which is a new one; setting parameters takes a new place too. What stands in a place is never changed, except
that accounts grow: that one is shared by the whole family. -/
namespace Colloquy

/-- A context as it is held in a family. -/
structure Member where
  model : String
  params : Nat
  handlers : Nat
  account : Nat

/-- Contexts in the order in which they were derived, the first one made on its own; what is kept in their places; and
the requests that their client was called with. -/
structure Family (η : Type) where
  members : List Member
  params : List (Fields Json)
  tables : List (Fields η)
  accounts : List (List Usage)
  sent : List Request

/-- Why a step on a family fails. -/
inductive FamilyError where
  | setting (cause : SettingError)
  | noReply
  | unread (cause : ReplyError)

/-- A step on a family. -/
inductive FamilyStep (η : Type) where
  | setModel (member : Nat) (model : Value)
  | setParams (member : Nat) (params : Value)
  | derive (member : Nat) (handlers : Fields η)
  | complete (member : Nat) (messages : List Message) (tools : List Tool) (choice model : Option String)
      (reply : Option Reply)

/-- The member that a step is made on. -/
def FamilyStep.target {η : Type} : FamilyStep η → Nat
  | setModel i _ | setParams i _ | derive i _ | complete i _ _ _ _ _ => i

/-- What a step answers: the context that it set or made, or a request and what came back. -/
inductive FamilyAnswer (η : Type) where
  | context (context : Context η)
  | completion (request : Request) (completion : Completion)

namespace Family
variable {η : Type}

/-- The family of a single context. -/
def single (context : Context η) : Family η :=
  ⟨[⟨context.model, 0, 0, 0⟩], [context.params], [context.handlers], [[]], []⟩

/-- The context that is held in a family, with what stands in its places. -/
def view (family : Family η) (held : Member) : Context η :=
  ⟨held.model, family.params[held.params]?.getD [], family.tables[held.handlers]?.getD []⟩

/-- A member by its number. -/
def member (family : Family η) (i : Nat) : Context η :=
  match family.members[i]? with
  | some held => family.view held
  | none => ⟨Context.defaultModel, [], []⟩

/-- The tokens used, as a member reads them. -/
def usageOf (family : Family η) (i : Nat) : List Usage :=
  (family.members[i]?.bind fun held => family.accounts[held.account]?).getD []

/-- The tokens used, as the first member reads them. -/
def usage (family : Family η) : List Usage := family.usageOf 0

/-- Sets the model that is held. -/
def setModel (family : Family η) (i : Nat) (held : Member) (model : String) : Family η :=
  { family with members := family.members.set i { held with model } }

/-- Puts parameters in a new place, which is the member's from then on. -/
def setParams (family : Family η) (i : Nat) (held : Member) (params : Fields Json) : Family η :=
  { family with
    members := family.members.set i { held with params := family.params.length }
    params := family.params ++ [params] }

/-- Adds a copy of a member, whose table stands in a new place. -/
def derive (family : Family η) (held : Member) (table : Fields η) : Family η :=
  { family with
    members := family.members ++ [{ held with handlers := family.tables.length }]
    tables := family.tables ++ [table] }

/-- Calls the client with a request. -/
def ask (family : Family η) (request : Request) : Family η := { family with sent := family.sent ++ [request] }

/-- Enters tokens in the account of a member. -/
def count (family : Family η) (held : Member) (usage : List Usage) : Family η :=
  { family with accounts := family.accounts.modify held.account (· ++ usage) }

/-- Takes a step on a member. A setting that is refused changes nothing. A call that cannot be made reaches no client,
and a reply that cannot be read counts no tokens. -/
def stepOn (family : Family η) (held : Member) : FamilyStep η → Except FamilyError (FamilyAnswer η) × Family η
  | .setModel i model =>
    match (family.view held).setModel model with
    | .error cause => (.error (.setting cause), family)
    | .ok context => (.ok (.context context), family.setModel i held context.model)
  | .setParams i params =>
    match (family.view held).setParams params with
    | .error cause => (.error (.setting cause), family)
    | .ok context => (.ok (.context context), family.setParams i held context.params)
  | .derive _ handlers =>
    let context := (family.view held).withHandlers handlers
    (.ok (.context context), family.derive held context.handlers)
  | .complete _ messages tools choice model reply =>
    match (family.view held).call messages tools choice model with
    | .error cause => (.error (.setting (.misuse cause)), family)
    | .ok request =>
      match reply with
      | none => (.error .noReply, family.ask request)
      | some reply =>
        match reply.convert with
        | .error cause => (.error (.unread cause), family.ask request)
        | .ok completion =>
          (.ok (.completion request completion), (family.ask request).count held completion.usage.toList)

/-- Takes a step, if there is a member to take it on. -/
def step (family : Family η) (step : FamilyStep η) : Except FamilyError (FamilyAnswer η) × Family η :=
  match family.members[step.target]? with
  | none => (.error (.setting (.misuse .badIndex)), family)
  | some held => family.stepOn held step

/-- Takes several steps, each on the family that the one before it left. -/
def run (family : Family η) : List (FamilyStep η) → Family η
  | [] => family
  | step :: rest => (family.step step).2.run rest

end Family
end Colloquy
