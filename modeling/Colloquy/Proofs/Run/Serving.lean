import Colloquy.Proofs.Run.Handler

/-! Serving one call. What can come of a commit, of a hook, of carrying out an action and of serving a call is said once,
each outcome with the world that it leaves; all that is known about a call follows from these. -/
namespace Colloquy.Run

/-- What can come of the commit of an action. -/
inductive Applied (call : ToolCall) (world : World) : Option Commit → Except RunError Unit → World → Prop
  | nothing : Applied call world none (.ok ()) world
  | written {commit : Commit} {store : Store} (written : commit.write world.store = .ok store) :
      Applied call world (some commit) (.ok ()) (world.wrote call commit store)
  | refused {commit : Commit} {kind : String} (refused : commit.write world.store = .error kind) :
      Applied call world (some commit) (.error (.notWritable kind)) world

/-- How a hook can end that is given some arguments: only a function of the host can fail, with an error of its own. -/
inductive HookEnds (given : List Value) : Option Hook → Except RunError Unit → Prop
  | nothing : HookEnds given none (.ok ())
  | noted (handler : String) : HookEnds given (some (.note handler)) (.ok ())
  | returned {f : HostFunction} {value : Value} (called : f.call ⟨given, []⟩ = .ok value) :
      HookEnds given (some (.call f)) (.ok ())
  | raised {f : HostFunction} {cause : Misuse} (called : f.call ⟨given, []⟩ = .error cause) :
      HookEnds given (some (.call f)) (.error (.misuse cause))

/-- What can come of a hook: it is written down, however it ends. -/
inductive Hooked (happened : Hook → Event) (given : List Value) (world : World) :
    Option Hook → Except RunError Unit → World → Prop
  | nothing : Hooked happened given world none (.ok ()) world
  | ran {hook : Hook} {result : Except RunError Unit} (ends : HookEnds given (some hook) result) :
      Hooked happened given world (some hook) result (world.record (happened hook))

/-- The actions that nobody reviews: their content, their commit, and whether they ask for another round. -/
inductive Settles : Action → Item → Option Commit → Bool → Prop
  | loop (content : Item) (commit : Option Commit) : Settles (.loop content commit) content commit true
  | close (content : Item) (commit : Option Commit) : Settles (.close content commit) content commit false

/-- The answer of a reviewer who accepts: none, or a blank one. -/
def Accepts (answer : Option String) : Prop := ∀ revision, answer = some revision → Text.isBlankText revision = true

/-- What can come of carrying out an action. -/
inductive Carried (call : ToolCall) (world : World) : Action → Except RunError Bool → World → Prop
  | settled {action : Action} {content : Item} {commit : Option Commit} {again : Bool} {middle : World}
      (settles : Settles action content commit again) (applied : Applied call world commit (.ok ()) middle) :
      Carried call world action (.ok again) (middle.said (.ofResult call (middle.store.view content)))
  | refused {action : Action} {content : Item} {commit : Option Commit} {again : Bool} {error : RunError}
      {after : World} (settles : Settles action content commit again)
      (applied : Applied call world commit (.error error) after) : Carried call world action (.error error) after
  | unshown {content : Item} {commit : Option Commit} {onAccept onReject : Option Hook} {fault : Text.Wrap.Fault}
      (laid : reviewText (world.store.view content) = .error fault) :
      Carried call world (.review content commit onAccept onReject) (.error (.layout fault)) world
  | unanswered {content : Item} {commit : Option Commit} {onAccept onReject : Option Hook} {text : String}
      (laid : reviewText (world.store.view content) = .ok text) (nobody : world.answers = []) :
      Carried call world (.review content commit onAccept onReject) (.error .outOfAnswers) (world.shown text)
  | unwritten {content : Item} {commit : Option Commit} {onAccept onReject : Option Hook} {text : String}
      {answer : Option String} {rest : List (Option String)} {error : RunError} {after : World}
      (laid : reviewText (world.store.view content) = .ok text) (answered : world.answers = answer :: rest)
      (accepts : Accepts answer)
      (applied : Applied call (((world.shown text).heard answer rest).said (.ofResult call (.text acceptedText))) commit
        (.error error) after) :
      Carried call world (.review content commit onAccept onReject) (.error error) after
  | accepted {content : Item} {commit : Option Commit} {onAccept onReject : Option Hook} {text : String}
      {answer : Option String} {rest : List (Option String)} {middle after : World} {result : Except RunError Unit}
      (laid : reviewText (world.store.view content) = .ok text) (answered : world.answers = answer :: rest)
      (accepts : Accepts answer)
      (applied : Applied call (((world.shown text).heard answer rest).said (.ofResult call (.text acceptedText))) commit
        (.ok ()) middle)
      (hooked : Hooked .accepted [] middle onAccept result after) :
      Carried call world (.review content commit onAccept onReject) (result.map fun _ => false) after
  | revised {content : Item} {commit : Option Commit} {onAccept onReject : Option Hook} {text revision : String}
      {rest : List (Option String)} {after : World} {result : Except RunError Unit}
      (laid : reviewText (world.store.view content) = .ok text) (answered : world.answers = some revision :: rest)
      (visible : Text.isBlankText revision = false)
      (hooked : Hooked (.rejected · revision) [.text revision]
        (((world.shown text).heard (some revision) rest).said (.ofResult call (.text revision))) onReject result after) :
      Carried call world (.review content commit onAccept onReject) (result.map fun _ => true) after

theorem apply_applied (call : ToolCall) (commit : Option Commit) (world : World) :
    Applied call world commit (apply call commit world).1 (apply call commit world).2 := by
  cases commit with
  | none => exact .nothing
  | some commit =>
    cases written : commit.write world.store with
    | ok store =>
      have ran : apply call (some commit) world = (.ok (), world.wrote call commit store) := by
        simp only [apply]
        rw [read_bind, written]
        rfl
      rw [ran]
      exact .written written
    | error kind =>
      have ran : apply call (some commit) world = (.error (.notWritable kind), world) := by
        simp only [apply]
        rw [read_bind, written]
        rfl
      rw [ran]
      exact .refused written

theorem runHook_hooked (happened : Hook → Event) (given : List Value) (hook : Option Hook) (world : World) :
    Hooked happened given world hook (runHook happened given hook world).1 (runHook happened given hook world).2 := by
  cases hook with
  | none => exact .nothing
  | some hook =>
    cases hook with
    | note handler => exact .ran (.noted handler)
    | call f =>
      simp only [runHook]
      rw [record_bind]
      cases called : f.call ⟨given, []⟩ with
      | ok value => exact .ran (.returned called)
      | error cause => exact .ran (.raised called)

/-- What comes of an answer after a commit. -/
theorem settle_carried {call : ToolCall} {action : Action} {content : Item} {commit : Option Commit} {again : Bool}
    (settles : Settles action content commit again) (world : World) :
    Carried call world action (carryOut call action world).1 (carryOut call action world).2 := by
  have body : carryOut call action = (do apply call commit; answerItem call content; return again) := by
    cases settles <;> rfl
  rw [body]
  have applied := apply_applied call commit world
  cases ran : apply call commit world with
  | mk result middle =>
    rw [ran] at applied
    cases result with
    | error error =>
      rw [bind_error ran]
      exact .refused settles applied
    | ok done =>
      rw [bind_ok ran]
      exact .settled settles applied

section Review
variable {content : Item} {world : World} {text : String}

theorem review_unshown {fault : Text.Wrap.Fault} (laid : reviewText (world.store.view content) = .error fault) :
    review content world = (.error (.layout fault), world) := by
  unfold review
  rw [read_bind, laid]
  rfl

theorem review_unanswered (laid : reviewText (world.store.view content) = .ok text) (nobody : world.answers = []) :
    review content world = (.error .outOfAnswers, world.shown text) := by
  have asked : ask reviewPrompt (world.record (.displayed text)) = (.error .outOfAnswers, world.shown text) :=
    ask_unanswered nobody
  unfold review
  rw [read_bind, laid]
  change (ask reviewPrompt >>= _) (world.record (.displayed text)) = _
  rw [bind_error asked]

theorem review_answered {answer : Option String} {rest : List (Option String)}
    (laid : reviewText (world.store.view content) = .ok text) (answered : world.answers = answer :: rest) :
    review content world =
      (.ok (answer.filter fun revision => !Text.isBlankText revision), (world.shown text).heard answer rest) := by
  have asked : ask reviewPrompt (world.record (.displayed text)) = (.ok answer, (world.shown text).heard answer rest) :=
    ask_answered answered
  unfold review
  rw [read_bind, laid]
  change (ask reviewPrompt >>= _) (world.record (.displayed text)) = _
  rw [bind_ok asked]
  rfl

end Review

/-- A reviewer's answer is kept as a revision exactly when there is something in it. -/
theorem revision_cases (answer : Option String) :
    (answer.filter (fun revision => !Text.isBlankText revision) = none ∧ Accepts answer) ∨
      ∃ revision, answer.filter (fun revision => !Text.isBlankText revision) = some revision ∧
        answer = some revision ∧ Text.isBlankText revision = false := by
  cases answer with
  | none => exact .inl ⟨rfl, fun revision given => by cases given⟩
  | some revision =>
    cases blank : Text.isBlankText revision with
    | true =>
      refine .inl ⟨by simp [blank], fun other given => ?_⟩
      cases given
      exact blank
    | false => exact .inr ⟨revision, by simp [blank], rfl, blank⟩

section Reviewed
variable {call : ToolCall} {content : Item} {commit : Option Commit} {onAccept onReject : Option Hook} {world : World}
  {text : String} {rest : List (Option String)}

theorem acceptance_carried {answer : Option String} (laid : reviewText (world.store.view content) = .ok text)
    (answered : world.answers = answer :: rest) (accepts : Accepts answer) {result : Except RunError Bool} {after : World}
    (ran : (do Run.answer call (.text acceptedText); apply call commit; runHook .accepted [] onAccept; return false)
      ((world.shown text).heard answer rest) = (result, after)) :
    Carried call world (.review content commit onAccept onReject) result after := by
  rw [Run.answer, say_bind] at ran
  have applied := apply_applied call commit (((world.shown text).heard answer rest).said
    (.ofResult call (.text acceptedText)))
  obtain ⟨error, wrote, rfl⟩ | ⟨done, middle, wrote, ran⟩ := bind_cases ran
  · rw [wrote] at applied
    exact .unwritten laid answered accepts applied
  · rw [wrote] at applied
    have hooked := runHook_hooked .accepted [] onAccept middle
    obtain ⟨error, ended, rfl⟩ | ⟨done, last, ended, ran⟩ := bind_cases ran
    · rw [ended] at hooked
      exact .accepted laid answered accepts applied hooked
    · rw [ended] at hooked
      cases ran
      exact .accepted laid answered accepts applied hooked

theorem revision_carried {revision : String} (laid : reviewText (world.store.view content) = .ok text)
    (answered : world.answers = some revision :: rest) (visible : Text.isBlankText revision = false)
    {result : Except RunError Bool} {after : World}
    (ran : (do Run.answer call (.text revision); runHook (.rejected · revision) [.text revision] onReject; return true)
      ((world.shown text).heard (some revision) rest) = (result, after)) :
    Carried call world (.review content commit onAccept onReject) result after := by
  rw [Run.answer, say_bind] at ran
  have hooked := runHook_hooked (.rejected · revision) [.text revision] onReject
    (((world.shown text).heard (some revision) rest).said (.ofResult call (.text revision)))
  obtain ⟨error, ended, rfl⟩ | ⟨done, last, ended, ran⟩ := bind_cases ran
  · rw [ended] at hooked
    exact .revised laid answered visible hooked
  · rw [ended] at hooked
    cases ran
    exact .revised laid answered visible hooked

end Reviewed

/-- Carrying out an action has one of the listed outcomes. -/
theorem carryOut_carried (call : ToolCall) (action : Action) (world : World) :
    Carried call world action (carryOut call action world).1 (carryOut call action world).2 := by
  cases action with
  | loop content commit => exact settle_carried (.loop content commit) world
  | close content commit => exact settle_carried (.close content commit) world
  | review content commit onAccept onReject =>
    simp only [carryOut]
    cases laid : reviewText (world.store.view content) with
    | error fault =>
      rw [bind_error (review_unshown laid)]
      exact .unshown laid
    | ok text =>
      cases answered : world.answers with
      | nil =>
        rw [bind_error (review_unanswered laid answered)]
        exact .unanswered laid answered
      | cons answer rest =>
        rw [bind_ok (review_answered laid answered)]
        obtain ⟨kept, accepts⟩ | ⟨revision, kept, rfl, visible⟩ := revision_cases answer
        · rw [kept]
          exact acceptance_carried laid answered accepts rfl
        · rw [kept]
          exact revision_carried laid answered visible rfl

end Colloquy.Run
