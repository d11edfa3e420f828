import Colloquy.Proofs.Run.Dispatch

/-! The account of an action. What carrying out an action writes into the history is a list that is fixed by the action,
by the answer of the reviewer if there is one, and by the point at which an error cuts it off. -/
namespace Colloquy.Run

/-- The event of a commit. -/
def writing (call : ToolCall) (commit : Option Commit) : List Event :=
  (commit.map fun commit => Event.committed call { commit with applied := true }).toList

/-- The events of a review: the content is shown, the person asked, and the model told what came of it. -/
def reviewing (call : ToolCall) (text : String) (answer : Option String) (told : String) : List Event :=
  [.displayed text, .asked reviewPrompt, .answered answer, .said (.ofResult call (.text told))]

/-- The store that a commit leaves, if there is one. -/
def Leaves (before : Store) (commit : Option Commit) (after : Store) : Prop :=
  match commit with
  | none => after = before
  | some commit => commit.write before = .ok after

/-- The account of an action that is carried out on a store. -/
inductive Account (call : ToolCall) (store : Store) : Action → Except RunError Bool → List Event → Prop
  | settled {action : Action} {content : Item} {commit : Option Commit} {again : Bool} {after : Store}
      (settles : Settles action content commit again) (leaves : Leaves store commit after) :
      Account call store action (.ok again) (writing call commit ++ [.said (.ofResult call (after.view content))])
  | refused {action : Action} {content : Item} {commit : Commit} {again : Bool} {kind : String}
      (settles : Settles action content (some commit) again) (refused : commit.write store = .error kind) :
      Account call store action (.error (.notWritable kind)) []
  | unshown {content : Item} {commit : Option Commit} {onAccept onReject : Option Hook} {fault : Text.Wrap.Fault}
      (laid : reviewText (store.view content) = .error fault) :
      Account call store (.review content commit onAccept onReject) (.error (.layout fault)) []
  | unanswered {content : Item} {commit : Option Commit} {onAccept onReject : Option Hook} {text : String}
      (laid : reviewText (store.view content) = .ok text) :
      Account call store (.review content commit onAccept onReject) (.error .outOfAnswers)
        [.displayed text, .asked reviewPrompt]
  | unwritten {content : Item} {commit : Commit} {onAccept onReject : Option Hook} {text kind : String}
      {answer : Option String} (laid : reviewText (store.view content) = .ok text) (accepts : Accepts answer)
      (refused : commit.write store = .error kind) :
      Account call store (.review content (some commit) onAccept onReject) (.error (.notWritable kind))
        (reviewing call text answer acceptedText)
  | accepted {content : Item} {commit : Option Commit} {onAccept onReject : Option Hook} {text : String}
      {answer : Option String} {after : Store} {result : Except RunError Unit}
      (laid : reviewText (store.view content) = .ok text) (accepts : Accepts answer) (leaves : Leaves store commit after)
      (ends : HookEnds [] onAccept result) :
      Account call store (.review content commit onAccept onReject) (result.map fun _ => false)
        (reviewing call text answer acceptedText ++ writing call commit ++ (onAccept.map Event.accepted).toList)
  | revised {content : Item} {commit : Option Commit} {onAccept onReject : Option Hook} {text revision : String}
      {result : Except RunError Unit} (laid : reviewText (store.view content) = .ok text)
      (visible : Text.isBlankText revision = false) (ends : HookEnds [.text revision] onReject result) :
      Account call store (.review content commit onAccept onReject) (result.map fun _ => true)
        (reviewing call text (some revision) revision ++ (onReject.map (Event.rejected · revision)).toList)

theorem applied_writes {call : ToolCall} {world after : World} {commit : Option Commit}
    (applied : Applied call world commit (.ok ()) after) :
    after.history = world.history ++ writing call commit ∧ Leaves world.store commit after.store := by
  cases applied with
  | nothing => exact ⟨(List.append_nil _).symm, rfl⟩
  | written written => exact ⟨rfl, written⟩

theorem applied_refused {call : ToolCall} {world after : World} {commit : Option Commit} {error : RunError}
    (applied : Applied call world commit (.error error) after) :
    ∃ commit' kind, commit = some commit' ∧ commit'.write world.store = .error kind ∧ error = .notWritable kind ∧
      after = world := by
  cases applied with
  | refused refused => exact ⟨_, _, rfl, refused, rfl, rfl⟩

theorem hooked_ends {happened : Hook → Event} {given : List Value} {world after : World} {hook : Option Hook}
    {result : Except RunError Unit} (hooked : Hooked happened given world hook result after) :
    after.history = world.history ++ (hook.map happened).toList ∧ HookEnds given hook result := by
  cases hooked with
  | nothing => exact ⟨(List.append_nil _).symm, .nothing⟩
  | ran ends => exact ⟨rfl, ends⟩

theorem reviewed_history (call : ToolCall) (world : World) (text told : String) (answer : Option String)
    (rest : List (Option String)) :
    (((world.shown text).heard answer rest).said (.ofResult call (.text told))).history =
      world.history ++ reviewing call text answer told := by
  simp [reviewing]

/-- Whatever comes of an action, what it writes is its account. -/
theorem carried_account {call : ToolCall} {world after : World} {action : Action} {result : Except RunError Bool}
    (carried : Carried call world action result after) :
    Account call world.store action result (world.since after) := by
  cases carried with
  | settled settles applied =>
    obtain ⟨grown, leaves⟩ := applied_writes applied
    rw [World.since_eq (by rw [World.said_history, grown, List.append_assoc])]
    exact .settled settles leaves
  | refused settles applied =>
    obtain ⟨commit, kind, rfl, refused, rfl, rfl⟩ := applied_refused applied
    rw [World.since_self]
    exact .refused settles refused
  | unshown laid =>
    rw [World.since_self]
    exact .unshown laid
  | @unanswered _ _ _ _ text laid nobody =>
    rw [World.since_eq (World.shown_history world text)]
    exact .unanswered laid
  | unwritten laid answered accepts applied =>
    obtain ⟨commit, kind, rfl, refused, rfl, rfl⟩ := applied_refused applied
    rw [World.since_eq (reviewed_history call world _ _ _ _)]
    exact .unwritten laid accepts refused
  | accepted laid answered accepts applied hooked =>
    obtain ⟨grown, leaves⟩ := applied_writes applied
    obtain ⟨more, ends⟩ := hooked_ends hooked
    rw [World.since_eq (by rw [more, grown, reviewed_history, List.append_assoc, List.append_assoc])]
    rw [← List.append_assoc]
    exact .accepted laid accepts leaves ends
  | @revised _ _ _ _ _ revision _ _ _ laid answered visible hooked =>
    obtain ⟨more, ends⟩ := hooked_ends hooked
    rw [World.since_eq (by rw [more, reviewed_history, List.append_assoc])]
    exact .revised laid visible ends

/-- What a call writes, for the action that it resolves to: that it is taken up, what its handler writes itself, and the
account of the action. -/
theorem resolved_account {context : Context Handler} {serving : Serving} {action : Action} {resolved : World}
    (resolves : serving.Resolves context action resolved) :
    (∀ event ∈ serving.taken.since resolved, event.isOfHandler = true) ∧
      Account serving.call resolved.store action (serving.result context) (resolved.since (serving.after context)) ∧
      serving.events context = .dispatched serving.call ::
        (serving.taken.since resolved ++ resolved.since (serving.after context)) := by
  have prepares := resolves_prepares resolves
  obtain ⟨handler, found, ran⟩ := resolves
  have carried : Carried serving.call resolved action (serving.result context) (serving.after context) := by
    unfold Serving.result Serving.after
    rw [dispatch_found found, bind_ok ran]
    exact carryOut_carried _ _ _
  refine ⟨prepares.history.since, carried_account carried, ?_⟩
  rw [serving_events, World.since_trans prepares.history.grows (carried_spanned writes_spans carried).grows]

/-- A call that its handler does not resolve, or that has no handler, comes to nothing. -/
theorem unresolved_events {context : Context Handler} {serving : Serving}
    (none : ∀ action resolved, ¬ serving.Resolves context action resolved) :
    (∃ error, serving.result context = .error error) ∧
      ∀ event ∈ serving.taken.since (serving.after context), event.isOfHandler = true ∨
        event = .said (.ofResult serving.call (.text (unknownToolText serving.call.name))) := by
  have dispatched := dispatch_dispatched context serving
  generalize serving.result context = result at dispatched ⊢
  generalize serving.after context = after at dispatched ⊢
  cases dispatched with
  | unknown missing =>
    refine ⟨⟨_, rfl⟩, ?_⟩
    rw [World.since_eq (World.said_history _ _)]
    simp
  | @unresolved handler error after found failed =>
    have prepares := handler.respond_prepares serving.call.given serving.taken
    rw [failed] at prepares
    exact ⟨⟨_, rfl⟩, fun event member => .inl (prepares.history.since event member)⟩
  | resolved resolves carried => exact absurd resolves (none _ _)

/-! ## The commits of a call -/

theorem commitsIn_writing (call : ToolCall) (commit : Option Commit) :
    commitsIn (writing call commit) = (commit.map fun commit => (call, { commit with applied := true })).toList := by
  cases commit <;> rfl

/-- An action is carried out with its own commit or without any. -/
theorem account_commits {call : ToolCall} {store : Store} {action : Action} {result : Except RunError Bool}
    {events : List Event} (account : Account call store action result events) :
    ∀ entry ∈ commitsIn events, ∃ commit,
      action.commit = some commit ∧ entry = (call, { commit with applied := true }) := by
  have own : ∀ {commit : Option Commit}, action.commit = commit → ∀ entry ∈ commitsIn (writing call commit),
      ∃ commit, action.commit = some commit ∧ entry = (call, { commit with applied := true }) := by
    intro commit wants entry member
    rw [commitsIn_writing] at member
    cases commit with
    | none => cases member
    | some commit => exact ⟨commit, wants, by simpa using member⟩
  intro entry member
  cases account with
  | settled settles leaves =>
    rw [commitsIn_append] at member
    rcases List.mem_append.mp member with member | member
    · exact own (by cases settles <;> rfl) entry member
    · cases member
  | refused settles refused => cases member
  | unshown laid => cases member
  | unanswered laid => cases member
  | unwritten laid accepts refused => cases member
  | @accepted content commit onAccept onReject text answer after result laid accepts leaves ends =>
    rw [commitsIn_append, commitsIn_append] at member
    rcases List.mem_append.mp member with member | member
    · rcases List.mem_append.mp member with member | member
      · cases member
      · exact own rfl entry member
    · cases onAccept <;> cases member
  | @revised content commit onAccept onReject text revision result laid visible ends =>
    rw [commitsIn_append] at member
    rcases List.mem_append.mp member with member | member
    · cases member
    · cases onReject <;> cases member

/-- A commit that is made while a call is served is the one that its handler wants. -/
theorem serving_commits {context : Context Handler} {serving : Serving} :
    ∀ entry ∈ commitsIn (serving.events context), ∃ action resolved commit,
      serving.Resolves context action resolved ∧ action.commit = some commit ∧
      entry = (serving.call, { commit with applied := true }) := by
  intro entry member
  by_cases some : ∃ action resolved, serving.Resolves context action resolved
  · obtain ⟨action, resolved, resolves⟩ := some
    obtain ⟨ofHandler, account, events⟩ := resolved_account resolves
    have none : commitsIn (serving.taken.since resolved) = [] := by
      refine commitsIn_none fun event member => ?_
      have known := ofHandler event member
      cases event <;> first | rfl | cases known
    rw [events, ← List.singleton_append, commitsIn_append, commitsIn_append, none] at member
    obtain ⟨commit, wants, same⟩ := account_commits account entry member
    exact ⟨action, resolved, commit, resolves, wants, same⟩
  · obtain ⟨_, known⟩ := unresolved_events fun action resolved resolves => some ⟨action, resolved, resolves⟩
    have none : commitsIn (serving.events context) = [] := by
      rw [serving_events]
      refine commitsIn_none fun event member => ?_
      rcases List.mem_cons.mp member with rfl | member
      · rfl
      · rcases known event member with ofHandler | rfl
        · cases event <;> first | rfl | cases ofHandler
        · rfl
    rw [none] at member
    cases member

end Colloquy.Run
