import Mathlib.Data.List.Infix
import Colloquy.Proofs.Context.Settings

/-! What a family keeps apart and what it shares. A step on one member leaves all others as they are, although a derived
member starts with the places of the one it comes from: nothing is ever written into those. So the state of a member is
what its own settings make of the state in which it was derived, whatever is done with other members in between. The
account is one for all, and holds the tokens of every reply that was converted. -/
namespace Colloquy

/-- Whether a step sets something on its member. -/
def FamilyStep.sets {η : Type} : FamilyStep η → Bool
  | setModel _ _ | setParams _ _ => true
  | derive _ _ | complete _ _ _ _ _ _ => false

namespace Family
variable {η : Type} {family after : Family η} {held changed : Member} {i j : Nat}

/-! ## Places -/

/-- What a member holds stands somewhere, its account in the one place that all members share. -/
structure Placed (family : Family η) (held : Member) : Prop where
  params : held.params < family.params.length
  handlers : held.handlers < family.tables.length
  account : held.account = 0

/-- A family all of whose members are placed, with a single account. -/
structure Sound (family : Family η) : Prop where
  placed : ∀ held ∈ family.members, family.Placed held
  account : ∃ usage, family.accounts = [usage]

/-- What stands in a place of one family stands there in the other. -/
structure Keeps (family after : Family η) : Prop where
  params : family.params <+: after.params
  tables : family.tables <+: after.tables

theorem Keeps.placed (keeps : Keeps family after) (placed : family.Placed held) : after.Placed held :=
  ⟨Nat.lt_of_lt_of_le placed.params keeps.params.length_le, Nat.lt_of_lt_of_le placed.handlers keeps.tables.length_le,
    placed.account⟩

theorem Keeps.view (keeps : Keeps family after) (placed : family.Placed held) : after.view held = family.view held := by
  have params := List.prefix_iff_getElem?.mp keeps.params held.params placed.params
  have tables := List.prefix_iff_getElem?.mp keeps.tables held.handlers placed.handlers
  rw [Family.view, Family.view, params, tables, List.getElem?_eq_getElem placed.params,
    List.getElem?_eq_getElem placed.handlers]

theorem member_eq (found : family.members[i]? = some held) : family.member i = family.view held := by
  rw [member, found]

theorem single_sound (context : Context η) : (single context).Sound :=
  ⟨by simp [single, Placed.mk], [], rfl⟩

/-! ### What is written -/

section Written
variable (keeps : Keeps family after) (sound : family.Sound)
include keeps sound

/-- A member that holds what it held is the context that it was. -/
theorem Keeps.member (there : i < family.members.length) (same : after.members[i]? = family.members[i]?) :
    after.member i = family.member i := by
  have found := List.getElem?_eq_getElem there
  rw [member_eq found, member_eq (same.trans found)]
  exact keeps.view (sound.placed _ (List.getElem_mem there))

/-- Where one member holds something else, the others are the contexts that they were. -/
theorem Keeps.set_member (members : after.members = family.members.set i changed) (there : j < family.members.length) :
    after.member j = if i = j then after.view changed else family.member j := by
  by_cases same : i = j
  · subst same
    have now : after.members[i]? = some changed := by rw [members, List.getElem?_set_self there]
    rw [if_pos rfl, member_eq now]
  · rw [if_neg same]
    exact keeps.member sound there (by rw [members, List.getElem?_set_ne same])

theorem Keeps.set_sound (members : after.members = family.members.set i changed) (placed : after.Placed changed)
    (accounts : after.accounts = family.accounts) : after.Sound := by
  refine ⟨fun other member => ?_, accounts ▸ sound.account⟩
  rw [members] at member
  rcases List.mem_or_eq_of_mem_set member with old | rfl
  · exact keeps.placed (sound.placed other old)
  · exact placed

theorem Keeps.append_sound (members : after.members = family.members ++ [changed]) (placed : after.Placed changed)
    (accounts : after.accounts = family.accounts) : after.Sound := by
  refine ⟨fun other member => ?_, accounts ▸ sound.account⟩
  rw [members] at member
  rcases List.mem_append.mp member with old | new
  · exact keeps.placed (sound.placed other old)
  · cases List.mem_singleton.mp new
    exact placed

end Written

theorem count_nil (family : Family η) (held : Member) : family.count held [] = family := by
  have same : (· ++ []) = (id : List Usage → List Usage) := funext List.append_nil
  rw [count, same, List.modify_id]

theorem count_accounts (sound : family.Sound) (found : family.members[i]? = some held) (usage : List Usage) :
    (family.count held usage).accounts = family.accounts.map (· ++ usage) := by
  obtain ⟨used, single⟩ := sound.account
  rw [count, (sound.placed held (List.mem_of_getElem? found)).account, single]
  rfl

/-! ## Steps -/

/-- What can come of a step on a member. -/
inductive Taken (family : Family η) (held : Member) :
    FamilyStep η → Except FamilyError (FamilyAnswer η) → Family η → Prop
  | modelRefused (i : Nat) {model : Value} {cause : SettingError}
      (refused : (family.view held).setModel model = .error cause) :
      Taken family held (.setModel i model) (.error (.setting cause)) family
  | modelSet (i : Nat) {model : Value} {context : Context η} (set : (family.view held).setModel model = .ok context) :
      Taken family held (.setModel i model) (.ok (.context context)) (family.setModel i held context.model)
  | paramsRefused (i : Nat) {params : Value} {cause : SettingError}
      (refused : (family.view held).setParams params = .error cause) :
      Taken family held (.setParams i params) (.error (.setting cause)) family
  | paramsSet (i : Nat) {params : Value} {context : Context η}
      (set : (family.view held).setParams params = .ok context) :
      Taken family held (.setParams i params) (.ok (.context context)) (family.setParams i held context.params)
  | derived (i : Nat) (handlers : Fields η) :
      Taken family held (.derive i handlers) (.ok (.context ((family.view held).withHandlers handlers)))
        (family.derive held ((family.view held).withHandlers handlers).handlers)
  | uncalled (i : Nat) {messages : List Message} {tools : List Tool} {choice model : Option String}
      (reply : Option Reply) {cause : Misuse}
      (refused : (family.view held).call messages tools choice model = .error cause) :
      Taken family held (.complete i messages tools choice model reply) (.error (.setting (.misuse cause))) family
  | unanswered (i : Nat) {messages : List Message} {tools : List Tool} {choice model : Option String}
      {request : Request} (called : (family.view held).call messages tools choice model = .ok request) :
      Taken family held (.complete i messages tools choice model none) (.error .noReply) (family.ask request)
  | unread (i : Nat) {messages : List Message} {tools : List Tool} {choice model : Option String} {request : Request}
      {reply : Reply} {cause : ReplyError} (called : (family.view held).call messages tools choice model = .ok request)
      (unread : reply.convert = .error cause) :
      Taken family held (.complete i messages tools choice model (some reply)) (.error (.unread cause))
        (family.ask request)
  | completed (i : Nat) {messages : List Message} {tools : List Tool} {choice model : Option String}
      {request : Request} {reply : Reply} {completion : Completion}
      (called : (family.view held).call messages tools choice model = .ok request)
      (read : reply.convert = .ok completion) :
      Taken family held (.complete i messages tools choice model (some reply)) (.ok (.completion request completion))
        ((family.ask request).count held completion.usage.toList)

theorem stepOn_taken (family : Family η) (held : Member) (step : FamilyStep η) :
    Taken family held step (family.stepOn held step).1 (family.stepOn held step).2 := by
  cases step with
  | setModel i model =>
    simp only [stepOn]
    cases set : (family.view held).setModel model with
    | error cause => exact .modelRefused i set
    | ok context => exact .modelSet i set
  | setParams i params =>
    simp only [stepOn]
    cases set : (family.view held).setParams params with
    | error cause => exact .paramsRefused i set
    | ok context => exact .paramsSet i set
  | derive i handlers => exact .derived i handlers
  | complete i messages tools choice model reply =>
    simp only [stepOn]
    cases called : (family.view held).call messages tools choice model with
    | error cause => exact .uncalled i reply called
    | ok request =>
      cases reply with
      | none => exact .unanswered i called
      | some reply =>
        dsimp only
        cases read : reply.convert with
        | error cause => exact .unread i called read
        | ok completion => exact .completed i called read

/-- The request that a step calls the client with, if it comes to that. -/
def asks (family : Family η) : FamilyStep η → Option Request
  | .complete i messages tools choice model _ =>
    if i < family.members.length then ((family.member i).call messages tools choice model).toOption else none
  | .setModel _ _ | .setParams _ _ | .derive _ _ => none

/-- The reply that the client has for a step. -/
def replyTo : FamilyStep η → Option Reply
  | .complete _ _ _ _ _ reply => reply
  | .setModel _ _ | .setParams _ _ | .derive _ _ => none

/-- The completion that a step comes to, if the client is called and its reply can be read. -/
def converts (family : Family η) (step : FamilyStep η) : Option Completion :=
  (family.asks step).bind fun _ => (replyTo step).bind fun reply => reply.convert.toOption

/-- What a step leaves of a family, whatever it answers. -/
structure Stepped (family : Family η) (step : FamilyStep η) (answer : Except FamilyError (FamilyAnswer η))
    (after : Family η) : Prop where
  sound : after.Sound
  member : ∀ j < family.members.length,
    after.member j = if step.target = j then (family.member j).settle step else family.member j
  born : after.members.length = family.members.length ∨ ∃ i handlers, step = .derive i handlers ∧
    i < family.members.length ∧ after.members.length = family.members.length + 1 ∧
    after.member family.members.length = (family.member i).withHandlers handlers
  accounts : after.accounts = family.accounts.map (· ++ (family.converts step).toList.filterMap Completion.usage)
  sent : after.sent = family.sent ++ (family.asks step).toList
  refused : ∀ error, step.sets = true → answer = .error error → after = family

/-- A step that asks for nothing and sets nothing leaves a family as it was. -/
theorem Stepped.same {step : FamilyStep η} {answer : Except FamilyError (FamilyAnswer η)} (sound : family.Sound)
    (silent : family.asks step = none)
    (settles : ∀ j < family.members.length, step.target = j → (family.member j).settle step = family.member j) :
    Stepped family step answer family := by
  refine ⟨sound, fun j there => ?_, .inl rfl, by simp [converts, silent], by simp [silent], fun _ _ _ => rfl⟩
  split
  · rename_i same
    exact (settles j there same).symm
  · rfl

/-- A step that changes what its member holds, and keeps all places. -/
theorem Stepped.set {step : FamilyStep η} {answer : FamilyAnswer η} (keeps : Keeps family after) (sound : family.Sound)
    (members : after.members = family.members.set step.target changed) (placed : after.Placed changed)
    (settles : after.view changed = (family.member step.target).settle step) (silent : family.asks step = none)
    (accounts : after.accounts = family.accounts) (sent : after.sent = family.sent) :
    Stepped family step (.ok answer) after := by
  refine ⟨keeps.set_sound sound members placed accounts, fun j there => ?_, .inl ?_, ?_, ?_, nofun⟩
  · rw [keeps.set_member sound members there]
    split
    · rename_i same
      rw [settles, same]
    · rfl
  · rw [members, List.length_set]
  · simp [accounts, converts, silent]
  · simp [sent, silent]

section Stepped
variable (sound : family.Sound) (found : family.members[i]? = some held)
include sound found

theorem setModel_stepped {model : Value} {context : Context η} (set : (family.view held).setModel model = .ok context) :
    Stepped family (.setModel i model) (.ok (.context context)) (family.setModel i held context.model) := by
  obtain ⟨params, handlers, account⟩ := sound.placed held (List.mem_of_getElem? found)
  refine .set ⟨List.prefix_refl _, List.prefix_refl _⟩ sound rfl ⟨params, handlers, account⟩ ?_ rfl rfl rfl
  rw [FamilyStep.target, member_eq found, Context.settle_modelSet i set]
  exact (Context.setModel_ok set).1.symm

theorem setParams_stepped {params : Value} {context : Context η}
    (set : (family.view held).setParams params = .ok context) :
    Stepped family (.setParams i params) (.ok (.context context)) (family.setParams i held context.params) := by
  obtain ⟨-, handlers, account⟩ := sound.placed held (List.mem_of_getElem? found)
  have keeps : Keeps family (family.setParams i held context.params) := ⟨List.prefix_append _ _, List.prefix_refl _⟩
  refine .set keeps sound rfl ⟨by simp [setParams], handlers, account⟩ ?_ rfl rfl rfl
  rw [FamilyStep.target, member_eq found, Context.settle_paramsSet i set, (Context.setParams_ok set).1]
  simp [view, setParams]

theorem derive_stepped (handlers : Fields η) :
    Stepped family (.derive i handlers) (.ok (.context ((family.view held).withHandlers handlers)))
      (family.derive held ((family.view held).withHandlers handlers).handlers) := by
  obtain ⟨params, -, account⟩ := sound.placed held (List.mem_of_getElem? found)
  have keeps : Keeps family (family.derive held ((family.view held).withHandlers handlers).handlers) :=
    ⟨List.prefix_refl _, List.prefix_append _ _⟩
  refine ⟨keeps.append_sound sound rfl ⟨params, by simp [derive], account⟩ rfl, fun j there => ?_,
    .inr ⟨i, handlers, rfl, (List.getElem?_eq_some_iff.mp found).1, by simp [derive], ?_⟩,
    by simp [converts, asks, derive], (List.append_nil _).symm, nofun⟩
  · rw [keeps.member sound there (List.getElem?_append_left there)]
    exact (ite_self _).symm
  · rw [member_eq found, member_eq (List.getElem?_concat_length ..)]
    simp [view, derive, Context.withHandlers]

/-- Calling the client leaves the members as they were; what its reply adds to the account is what the step counts. -/
theorem called_stepped {messages : List Message} {tools : List Tool} {choice model : Option String}
    {reply : Option Reply} {request : Request} {answer : Except FamilyError (FamilyAnswer η)} {usage : List Usage}
    (called : (family.view held).call messages tools choice model = .ok request)
    (used : usage = (reply.bind fun reply => reply.convert.toOption).toList.filterMap Completion.usage) :
    Stepped family (.complete i messages tools choice model reply) answer ((family.ask request).count held usage) := by
  have asked : family.asks (.complete i messages tools choice model reply) = some request := by
    rw [asks, if_pos (List.getElem?_eq_some_iff.mp found).1, member_eq found, called]
    rfl
  have keeps : Keeps family (family.ask request) := ⟨List.prefix_refl _, List.prefix_refl _⟩
  have inner : (family.ask request).Sound :=
    ⟨fun other member => keeps.placed (sound.placed other member), sound.account⟩
  have counted := count_accounts inner found usage
  refine ⟨⟨fun other member => ?_, ?_⟩, fun j there => (ite_self _).symm, .inl rfl, ?_, ?_, nofun⟩
  · obtain ⟨params, handlers, account⟩ := sound.placed other member
    exact ⟨params, handlers, account⟩
  · obtain ⟨total, single⟩ := inner.account
    exact ⟨total ++ usage, by rw [counted, single]; rfl⟩
  · rw [counted, used, converts, asked]
    rfl
  · rw [asked]
    rfl

end Stepped

theorem stepOn_stepped (sound : family.Sound) {step : FamilyStep η} (found : family.members[step.target]? = some held) :
    Stepped family step (family.stepOn held step).1 (family.stepOn held step).2 := by
  have taken := stepOn_taken family held step
  generalize (family.stepOn held step).1 = answer at taken ⊢
  generalize (family.stepOn held step).2 = after at taken ⊢
  cases taken with
  | modelRefused i refused =>
    refine .same sound rfl fun j _ same => ?_
    subst same
    rw [member_eq found, Context.settle_modelRefused i refused]
  | modelSet i set => exact setModel_stepped sound found set
  | paramsRefused i refused =>
    refine .same sound rfl fun j _ same => ?_
    subst same
    rw [member_eq found, Context.settle_paramsRefused i refused]
  | paramsSet i set => exact setParams_stepped sound found set
  | derived i handlers => exact derive_stepped sound found handlers
  | uncalled i reply refused =>
    refine .same sound ?_ fun _ _ _ => rfl
    have found : family.members[i]? = some held := found
    rw [asks, if_pos (List.getElem?_eq_some_iff.mp found).1, member_eq found, refused]
    rfl
  | @unanswered i messages tools choice model request called =>
    rw [← count_nil (family.ask request) held]
    exact called_stepped sound found called rfl
  | @unread i messages tools choice model request reply issues called unread =>
    rw [← count_nil (family.ask request) held]
    exact called_stepped sound found called (by rw [Option.bind_some, unread]; rfl)
  | @completed i messages tools choice model request reply completion called read =>
    refine called_stepped sound found called ?_
    rw [Option.bind_some, read]
    cases used : completion.usage <;> simp [Except.toOption, used]

theorem step_stepped (sound : family.Sound) (step : FamilyStep η) :
    Stepped family step (family.step step).1 (family.step step).2 := by
  cases found : family.members[step.target]? with
  | some held =>
    rw [Family.step, found]
    exact stepOn_stepped sound found
  | none =>
    have missing := List.getElem?_eq_none_iff.mp found
    rw [Family.step, found]
    refine .same sound ?_ fun j there same => absurd there (Nat.not_lt.mpr (same ▸ missing))
    cases step with
    | complete i messages tools choice model reply => exact if_neg (Nat.not_lt.mpr missing)
    | setModel i model => rfl
    | setParams i params => rfl
    | derive i handlers => rfl

/-- Members are never lost. -/
theorem Stepped.grows {step : FamilyStep η} {answer : Except FamilyError (FamilyAnswer η)}
    (stepped : Stepped family step answer after) : family.members.length ≤ after.members.length := by
  rcases stepped.born with same | ⟨i, handlers, -, -, grown, -⟩ <;> omega

/-- A member of what a step leaves was there before, or the step derived it. -/
theorem Stepped.numbered {step : FamilyStep η} {answer : Except FamilyError (FamilyAnswer η)}
    (stepped : Stepped family step answer after) (there : i < after.members.length) :
    i < family.members.length ∨ ∃ parent handlers, step = .derive parent handlers ∧ parent < i ∧
      family.members.length = i ∧ after.member i = (family.member parent).withHandlers handlers := by
  by_cases old : i < family.members.length
  · exact .inl old
  · rcases stepped.born with same | ⟨parent, handlers, derives, known, grown, made⟩
    · omega
    · have newest : family.members.length = i := by omega
      subst newest
      exact .inr ⟨parent, handlers, derives, known, rfl, made⟩

/-! ## Runs -/

/-- The completions that steps come to, in order. -/
def converted (family : Family η) : List (FamilyStep η) → List Completion
  | [] => []
  | step :: rest => (family.converts step).toList ++ (family.step step).2.converted rest

theorem run_append (family : Family η) (early late : List (FamilyStep η)) :
    family.run (early ++ late) = (family.run early).run late := by
  induction early generalizing family with
  | nil => rfl
  | cons step rest ih => exact ih _

theorem run_sound (sound : family.Sound) (steps : List (FamilyStep η)) : (family.run steps).Sound := by
  induction steps generalizing family with
  | nil => exact sound
  | cons step rest ih => exact ih (step_stepped sound step).sound

/-- Only the settings of its own steps change a member. -/
theorem run_member (sound : family.Sound) (steps : List (FamilyStep η)) (there : j < family.members.length) :
    (family.run steps).member j = (family.member j).after j steps := by
  -- The family changes from step to step; that it never shrinks keeps the number one of a member.
  induction steps generalizing family with
  | nil => rfl
  | cons step rest ih =>
    have stepped := step_stepped sound step
    rw [Context.after_cons, ← stepped.member j there]
    exact ih stepped.sound (Nat.lt_of_lt_of_le there stepped.grows)

theorem run_accounts (sound : family.Sound) (steps : List (FamilyStep η)) :
    (family.run steps).accounts =
      family.accounts.map (· ++ (family.converted steps).filterMap Completion.usage) := by
  induction steps generalizing family with
  | nil => simp [run, converted]
  | cons step rest ih =>
    have stepped := step_stepped sound step
    refine (ih stepped.sound).trans ?_
    rw [stepped.accounts, List.map_map, converted, List.filterMap_append]
    refine List.map_congr_left fun usage _ => ?_
    exact List.append_assoc ..

/-- How a member came to be: a step derived it from an earlier one, in the state that that one was in. Since then its own
settings alone have counted. -/
structure Derived (context : Context η) (steps : List (FamilyStep η)) (i parent : Nat) (handlers : Fields η)
    (early late : List (FamilyStep η)) : Prop where
  split : steps = early ++ .derive parent handlers :: late
  number : ((single context).run early).members.length = i
  earlier : parent < i
  state : ((single context).run steps).member i =
    ((((single context).run early).member parent).withHandlers handlers).after i late

/-- Every member but the first was derived. By induction on the steps from the end, since the last one either made the
member or leaves its origin as it is. -/
theorem run_derived (context : Context η) (steps : List (FamilyStep η)) (i : Nat) (later : 0 < i)
    (there : i < ((single context).run steps).members.length) :
    ∃ parent handlers early late, Derived context steps i parent handlers early late := by
  induction steps using List.reverseRecOn with
  | nil =>
    have first : i < 1 := there
    omega
  | append_singleton steps step ih =>
    have stepped := step_stepped (run_sound (single_sound context) steps) step
    have last : (single context).run (steps ++ [step]) = (((single context).run steps).step step).2 := run_append ..
    rw [last] at there
    rcases stepped.numbered there with old | ⟨parent, handlers, rfl, known, newest, made⟩
    · obtain ⟨parent, handlers, early, late, origin⟩ := ih old
      refine ⟨parent, handlers, early, late ++ [step], by simp [origin.split], origin.number, origin.earlier, ?_⟩
      rw [last, stepped.member i old, origin.state, Context.after_append, Context.after_cons]
      rfl
    · exact ⟨parent, handlers, steps, [], rfl, newest, known, by rw [last, made]; rfl⟩

/-- Every member of a family is as the settings allow it. -/
theorem run_accepted {context : Context η} (accepted : context.Accepted) (steps : List (FamilyStep η)) :
    ∀ i < ((single context).run steps).members.length, (((single context).run steps).member i).Accepted := by
  induction steps using List.reverseRecOn with
  | nil =>
    intro i there
    have first : i < 1 := there
    obtain rfl : i = 0 := by omega
    exact accepted
  | append_singleton steps step ih =>
    have stepped := step_stepped (run_sound (single_sound context) steps) step
    have last : (single context).run (steps ++ [step]) = (((single context).run steps).step step).2 := run_append ..
    rw [last]
    intro i there
    rcases stepped.numbered there with old | ⟨parent, handlers, rfl, known, newest, made⟩
    · rw [stepped.member i old]
      split
      · exact (ih i old).settle step
      · exact ih i old
    · rw [made]
      exact (ih parent (newest ▸ known)).withHandlers handlers

theorem usageOf_eq (sound : family.Sound) (there : i < family.members.length) :
    family.accounts = [family.usageOf i] := by
  obtain ⟨usage, single⟩ := sound.account
  have found := List.getElem?_eq_getElem there
  have placed := sound.placed _ (List.getElem_mem there)
  rw [usageOf, found, Option.bind_some, placed.account, single]
  rfl

/-- What is known of a family that some steps made of a single context. -/
structure Isolated (context : Context η) (steps : List (FamilyStep η)) (family : Family η) : Prop where
  first : family.member 0 = context.after 0 steps
  derived : ∀ i, 0 < i → i < family.members.length →
    ∃ parent handlers early late, Derived context steps i parent handlers early late
  others : ∀ step, ∀ j < family.members.length, step.target ≠ j ∨ step.sets = false →
    (family.step step).2.member j = family.member j
  refused : ∀ step error, step.sets = true → (family.step step).1 = .error error → (family.step step).2 = family
  accepted : ∀ i < family.members.length, (family.member i).Accepted
  shared : ∀ held ∈ family.members, ∀ other ∈ family.members, held.account = other.account
  usage : ∀ i < family.members.length,
    family.usageOf i = ((single context).converted steps).filterMap Completion.usage

/-- The members of a family are isolated from one another. Each is what its own settings make of the context that was
given, or of its parent as it was; no step changes another member, and one that is refused nothing at all. All are as the
settings allow, and all read the tokens of every reply that was converted. -/
theorem run_isolated {model params : Value} {handlers : Fields η} {context : Context η}
    (made : Context.make model params handlers = .ok context) (steps : List (FamilyStep η)) :
    Isolated context steps ((single context).run steps) := by
  have sound := run_sound (single_sound context) steps
  refine ⟨run_member (single_sound context) steps Nat.one_pos, run_derived context steps, fun step j there apart => ?_,
    fun step error sets failed => (step_stepped sound step).refused error sets failed,
    run_accepted (Context.make_accepted made) steps, fun held member other among => ?_, fun i there => ?_⟩
  · rw [(step_stepped sound step).member j there]
    split
    · rename_i same
      rcases apart with other | idle
      · exact absurd same other
      · cases step with
        | setModel i model => cases idle
        | setParams i params => cases idle
        | derive i handlers => rfl
        | complete i messages tools choice model reply => rfl
    · rfl
  · rw [(sound.placed held member).account, (sound.placed other among).account]
  · have accounts := run_accounts (single_sound context) steps
    rw [usageOf_eq sound there] at accounts
    exact List.singleton_injective accounts

/-- A context and one that is derived from it; of the settings on the first, one is refused. -/
theorem run_isolated_pair :
    let context : Context Nat := ⟨"openai:gpt-4o", [], [("ask", 1)]⟩
    let steps : List (FamilyStep Nat) := [.derive 0 [("code", 2)], .setModel 1 (.text "anthropic:claude"),
      .setModel 0 (.text "claude"), .setParams 0 (.mapping [("seed", .int 7)])]
    Context.make (.text "openai:gpt-4o") .null context.handlers = .ok context ∧
      Isolated context steps ((single context).run steps) ∧
      ((single context).run steps).member 0 = ⟨"openai:gpt-4o", [("seed", .int 7)], [("ask", 1)]⟩ := by
  intro context steps
  have made : Context.make (.text "openai:gpt-4o") .null context.handlers = .ok context := by
    rw [Context.make, Context.modelName_text (by decide) (by decide)]
    rfl
  have refused : context.setModel (.text "claude") = .error .modelFormat := by
    simp [Context.setModel, Context.modelName, Value.text?, bind, Except.bind]
  have isolated := run_isolated made steps
  refine ⟨made, isolated, ?_⟩
  rw [isolated.first]
  change (context.settle (.setModel 0 (.text "claude"))).settle (.setParams 0 (.mapping [("seed", .int 7)])) = _
  rw [Context.settle_modelRefused 0 refused]
  rfl

end Family
end Colloquy
