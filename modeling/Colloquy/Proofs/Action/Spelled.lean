import Colloquy.Action.Check

/-! Actions that a handler spells out as a mapping. What is read from the mapping is what its members say; the target
and the value of a commit are the very items that the mapping holds. -/
namespace Colloquy

namespace Checked
variable {α β : Type}

theorem bind_ok {outcome : Checked α} {next : α → Checked β} {b : β} (ok : outcome >>= next = .ok b) :
    ∃ a, outcome = .ok a ∧ next a = .ok b := by
  cases outcome with
  | error issues => cases ok
  | ok a => exact ⟨a, rfl, ok⟩

theorem map_ok {outcome : Checked α} {f : α → β} {b : β} (ok : outcome.map f = .ok b) :
    ∃ a, outcome = .ok a ∧ f a = b := by
  cases outcome with
  | error issues => cases ok
  | ok a =>
    cases ok
    exact ⟨a, rfl, rfl⟩

theorem within_ok {outcome : Checked α} {step : Step} {a : α} (ok : outcome.within step = .ok a) : outcome = .ok a := by
  cases outcome with
  | error issues => cases ok
  | ok b => exact ok

theorem both_ok {first : Checked α} {second : Checked β} {pair : α × β} (ok : both first second = .ok pair) :
    first = .ok pair.1 ∧ second = .ok pair.2 := by
  cases first with
  | error issues => cases second <;> cases ok
  | ok a =>
    cases second with
    | error issues => cases ok
    | ok b =>
      cases ok
      exact ⟨rfl, rfl⟩

end Checked

/-- A commit is what a record spells out. -/
structure Commit.Spelled (store : Store) (fields : Fields Item) (commit : Commit) : Prop where
  target : fields.get? "target" = some commit.target
  key : ∃ value, (store.viewAll fields).get? "key" = some value ∧ Check.text value = .ok commit.key
  value : commit.value = (fields.get? "value").getD (.leaf .null)

namespace Action

/-- A commit, or none, is what a member spells out. -/
inductive SpelledCommit (store : Store) : Option Item → Option Commit → Prop
  | missing : SpelledCommit store none none
  | null : SpelledCommit store (some (.leaf .null)) none
  | given {id : Nat} {commit : Commit} (spelled : commit.Spelled store (store.membersOf id)) :
      SpelledCommit store (some (.record id)) (some commit)

/-- A hook, or none, is what a member spells out. -/
inductive SpelledHook : Option Item → Option Hook → Prop
  | missing : SpelledHook none none
  | null : SpelledHook (some (.leaf .null)) none
  | given (f : HostFunction) : SpelledHook (some (.leaf (.function f))) (some (.call f))

/-- The content that a mapping spells out. -/
def contentOf (fields : Fields Item) : Item := (fields.get? "content").getD (.leaf .null)

/-- An action is what the members of a mapping spell out. -/
inductive Spelled (store : Store) (fields : Fields Item) : Action → Prop
  | loop {commit : Option Commit} (tag : fields.get? "action" = some (.leaf (.text "loop")))
      (commits : SpelledCommit store (fields.get? "commit") commit) :
      Spelled store fields (.loop (contentOf fields) commit)
  | review {commit : Option Commit} {onAccept onReject : Option Hook}
      (tag : fields.get? "action" = some (.leaf (.text "feedback")))
      (commits : SpelledCommit store (fields.get? "commit") commit)
      (accepts : SpelledHook (fields.get? "on_accept") onAccept)
      (rejects : SpelledHook (fields.get? "on_reject") onReject) :
      Spelled store fields (.review (contentOf fields) commit onAccept onReject)
  | close {commit : Option Commit} (tag : fields.get? "action" = some (.leaf (.text "noop")))
      (commits : SpelledCommit store (fields.get? "commit") commit) :
      Spelled store fields (.close (contentOf fields) commit)

variable {store : Store} {fields : Fields Item}

theorem commit_spelled {item : Item} {commit : Commit} (ok : Commit.check store item = .ok commit) :
    ∃ id, item = .record id ∧ commit.Spelled store (store.membersOf id) := by
  cases item with
  | record id =>
    refine ⟨id, rfl, ?_⟩
    unfold Commit.check at ok
    simp only [Store.recordMembers] at ok
    obtain ⟨⟨target, key, applied⟩, parts, made⟩ := Checked.bind_ok ok
    cases made
    obtain ⟨placed, rest⟩ := Checked.both_ok parts
    obtain ⟨keyed, _⟩ := Checked.both_ok rest
    have placed := Checked.within_ok placed
    have keyed := Checked.within_ok keyed
    refine ⟨?_, ?_, rfl⟩
    · cases found : (store.membersOf id).get? "target" with
      | none => simp [found, Checked.complain] at placed
      | some item => simpa [found] using placed
    · cases found : (store.viewAll (store.membersOf id)).get? "key" with
      | none => simp [found, Checked.complain] at keyed
      | some value => exact ⟨value, rfl, by simpa [found] using keyed⟩
  | _ => simp [Commit.check, Store.recordMembers, Checked.complain] at ok

theorem checkCommit_spelled {commit : Option Commit} {item : Item} (ok : checkCommit store item = .ok commit) :
    SpelledCommit store (some item) commit := by
  unfold checkCommit at ok
  split at ok
  · cases ok
    exact .null
  · obtain ⟨found, checked, rfl⟩ := Checked.map_ok ok
    obtain ⟨id, rfl, spelled⟩ := commit_spelled checked
    exact .given spelled

theorem checkHook_spelled {hook : Option Hook} {item : Item} (ok : checkHook item = .ok hook) :
    SpelledHook (some item) hook := by
  unfold checkHook at ok
  split at ok
  · cases ok
    exact .null
  · cases ok
    exact .given _
  · cases ok

/-- An optional member is none when it is missing, and else what it is read as. -/
theorem optionalItem_ok {α : Type} {name : String} {check : Item → Checked (Option α)} {found : Option α}
    (ok : optionalItem fields name check = .ok found) :
    (fields.get? name = none ∧ found = none) ∨ ∃ item, fields.get? name = some item ∧ check item = .ok found := by
  unfold optionalItem at ok
  cases member : fields.get? name with
  | none =>
    rw [member] at ok
    cases ok
    exact .inl ⟨rfl, rfl⟩
  | some item =>
    rw [member] at ok
    exact .inr ⟨item, rfl, Checked.within_ok ok⟩

theorem optionalCommit_spelled {commit : Option Commit}
    (ok : optionalItem fields "commit" (checkCommit store) = .ok commit) :
    SpelledCommit store (fields.get? "commit") commit := by
  rcases optionalItem_ok ok with ⟨missing, rfl⟩ | ⟨item, found, checked⟩
  · rw [missing]
    exact .missing
  · rw [found]
    exact checkCommit_spelled checked

theorem optionalHook_spelled {name : String} {hook : Option Hook} (ok : optionalItem fields name checkHook = .ok hook) :
    SpelledHook (fields.get? name) hook := by
  rcases optionalItem_ok ok with ⟨missing, rfl⟩ | ⟨item, found, checked⟩
  · rw [missing]
    exact .missing
  · rw [found]
    exact checkHook_spelled checked

theorem checkTagged_spelled {tag : String} {action : Action} (tagged : fields.get? "action" = some (.leaf (.text tag)))
    (ok : checkTagged store fields tag = .ok action) : Spelled store fields action := by
  unfold checkTagged at ok
  by_cases known : tags.contains tag = true
  · simp only [known, if_true] at ok
    have ok := Checked.within_ok ok
    have listed : tag = "loop" ∨ tag = "feedback" ∨ tag = "noop" := by simpa [tags] using known
    obtain rfl | rfl | rfl := listed
    · obtain ⟨commit, checked, rfl⟩ := Checked.map_ok ok
      exact .loop tagged (optionalCommit_spelled checked)
    · obtain ⟨⟨commit, onAccept, onReject⟩, parts, made⟩ := Checked.bind_ok ok
      cases made
      obtain ⟨checked, hooks⟩ := Checked.both_ok parts
      obtain ⟨accepts, rejects⟩ := Checked.both_ok hooks
      exact .review tagged (optionalCommit_spelled checked) (optionalHook_spelled accepts) (optionalHook_spelled rejects)
    · obtain ⟨commit, checked, rfl⟩ := Checked.map_ok ok
      exact .close tagged (optionalCommit_spelled checked)
  · simp only [known] at ok
    cases ok

/-- An action that is read from a record is the one that the record spells out. -/
theorem check_spelled {item : Item} {action : Action} (ok : check store item = .ok action) :
    ∃ id, item = .record id ∧ Spelled store (store.membersOf id) action := by
  unfold check at ok
  split at ok
  · rename_i id
    refine ⟨id, rfl, ?_⟩
    dsimp only at ok
    split at ok
    · cases ok
    · rename_i tag tagged
      exact checkTagged_spelled tagged ok
    · cases ok
  · cases ok
  · cases ok
  · cases ok
  · cases ok

end Action
end Colloquy
