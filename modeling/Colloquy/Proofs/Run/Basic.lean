import Colloquy.Run.Conversation

/-! How the parts of a run compose. A part that is made of two ends with the first error; the history of the world is
only ever appended to, so that what was written between two worlds is the rest of the later history. -/
namespace Colloquy

namespace World

/-- The world in which a message was added to the conversation. -/
def said (world : World) (message : Message) : World :=
  { world with messages := world.messages ++ [message] }.record (.said message)

/-- The world in which a commit left a store behind. -/
def wrote (world : World) (call : ToolCall) (commit : Commit) (store : Store) : World :=
  { world with store }.record (.committed call { commit with applied := true })

/-- The world in which the person was shown a text and asked about it. -/
def shown (world : World) (text : String) : World :=
  (world.record (.displayed text)).record (.asked Run.reviewPrompt)

/-- The world in which the person answered. -/
def heard (world : World) (answer : Option String) (rest : List (Option String)) : World :=
  { world with answers := rest }.record (.answered answer)

/-- What was written into the history between two worlds. -/
def since (before after : World) : List Event := after.history.drop before.history.length

theorem since_eq {before after : World} {events : List Event} (grown : after.history = before.history ++ events) :
    before.since after = events := by
  rw [since, grown, List.drop_left]

theorem since_self (world : World) : world.since world = [] := since_eq (List.append_nil _).symm

/-- The later history is the earlier one and what was written since. -/
theorem since_spec {before after : World} (grown : before.history <+: after.history) :
    after.history = before.history ++ before.since after := by
  obtain ⟨events, grown⟩ := grown
  rw [since_eq grown.symm, grown]

theorem since_trans {before middle after : World} (first : before.history <+: middle.history)
    (second : middle.history <+: after.history) :
    before.since after = before.since middle ++ middle.since after := by
  apply since_eq
  rw [since_spec second, since_spec first, List.append_assoc]

/-- Between two worlds the history grew, by events of one kind. -/
def Writes (kind : Event → Bool) (before after : World) : Prop :=
  ∃ events, after.history = before.history ++ events ∧ ∀ event ∈ events, kind event = true

namespace Writes
variable {kind other : Event → Bool} {before middle after : World}

theorem refl (world : World) : Writes kind world world := ⟨[], by simp, by simp⟩

theorem trans (first : Writes kind before middle) (second : Writes kind middle after) : Writes kind before after := by
  obtain ⟨early, grown, known⟩ := first
  obtain ⟨late, grownMore, knownToo⟩ := second
  refine ⟨early ++ late, by rw [grownMore, grown, List.append_assoc], fun event member => ?_⟩
  rcases List.mem_append.mp member with member | member
  · exact known event member
  · exact knownToo event member

theorem of_history {events : List Event} (grown : after.history = before.history ++ events)
    (known : ∀ event ∈ events, kind event = true) : Writes kind before after := ⟨events, grown, known⟩

theorem of_record {event : Event} (known : kind event = true) (world : World) : Writes kind world (world.record event) :=
  ⟨[event], rfl, by simp [known]⟩

theorem mono (writes : Writes kind before after) (wider : ∀ event, kind event = true → other event = true) :
    Writes other before after := by
  obtain ⟨events, grown, known⟩ := writes
  exact ⟨events, grown, fun event member => wider event (known event member)⟩

theorem grows (writes : Writes kind before after) : before.history <+: after.history := by
  obtain ⟨events, grown, known⟩ := writes
  exact ⟨events, grown.symm⟩

/-- What was written is of the kind. -/
theorem since (writes : Writes kind before after) : ∀ event ∈ before.since after, kind event = true := by
  obtain ⟨events, grown, known⟩ := writes
  rwa [since_eq grown]

end Writes

section Fields
variable (world : World) (event : Event) (message : Message) (call : ToolCall) (commit : Commit) (store : Store)
  (text : String) (answer : Option String) (rest : List (Option String))

@[simp] theorem record_answers : (world.record event).answers = world.answers := rfl
@[simp] theorem record_messages : (world.record event).messages = world.messages := rfl
@[simp] theorem record_history : (world.record event).history = world.history ++ [event] := rfl
@[simp] theorem said_messages : (world.said message).messages = world.messages ++ [message] := rfl
@[simp] theorem said_history : (world.said message).history = world.history ++ [.said message] := rfl
@[simp] theorem wrote_history : (world.wrote call commit store).history =
    world.history ++ [.committed call { commit with applied := true }] := rfl
@[simp] theorem shown_messages : (world.shown text).messages = world.messages := rfl
@[simp] theorem shown_history : (world.shown text).history =
    world.history ++ [.displayed text, .asked Run.reviewPrompt] := by simp [shown]
@[simp] theorem heard_history : (world.heard answer rest).history = world.history ++ [.answered answer] := rfl

end Fields

end World

namespace Run
variable {α β : Type} {part : Run α} {next : α → Run β} {world middle after : World}

theorem bind_ok {a : α} (ran : part world = (.ok a, middle)) : (part >>= next) world = next a middle := by
  -- A run is a function, so `simp` does not see the bind until it is named.
  change andThen part next world = _
  simp [andThen, ran]

theorem bind_error {error : RunError} (ran : part world = (.error error, middle)) :
    (part >>= next) world = (.error error, middle) := by
  change andThen part next world = _
  simp [andThen, ran]

theorem bind_assoc {γ : Type} (part : Run α) (next : α → Run β) (last : β → Run γ) :
    (part >>= next) >>= last = part >>= fun a => next a >>= last := by
  funext world
  cases ran : part world with
  | mk result middle =>
    cases result with
    | error error =>
      have first : (part >>= next) world = (.error error, middle) := bind_error ran
      rw [bind_error first, bind_error ran]
    | ok a =>
      have first : (part >>= next) world = next a middle := bind_ok ran
      rw [bind_ok ran]
      -- What follows is the rest of the first two parts, which starts where the first one ended.
      change andThen (part >>= next) last world = andThen (next a) last middle
      simp only [andThen, first]

section Steps
variable (next : α → Run β) (then_ : Unit → Run β)

theorem read_bind (f : World → α) : (read f >>= next) world = next (f world) world := rfl

theorem record_bind (event : Event) : (record event >>= then_) world = then_ () (world.record event) := rfl

theorem say_bind (message : Message) : (say message >>= then_) world = then_ () (world.said message) := rfl

theorem check_ok_bind (a : α) : (check (.ok a) >>= next) world = next a world := rfl

end Steps

section Asking
variable {question : String}

theorem ask_unanswered (nobody : world.answers = []) :
    ask question world = (.error .outOfAnswers, world.record (.asked question)) := by
  unfold ask
  rw [record_bind, read_bind, World.record_answers, nobody]
  rfl

theorem ask_answered {answer : Option String} {rest : List (Option String)} (answered : world.answers = answer :: rest) :
    ask question world = (.ok answer, (world.record (.asked question)).heard answer rest) := by
  unfold ask
  rw [record_bind, read_bind, World.record_answers, answered]
  rfl

end Asking

/-- A part made of two ends with an error of the first, or runs the second where the first left the world. -/
theorem bind_cases {result : Except RunError β} (ran : (part >>= next) world = (result, after)) :
    (∃ error, part world = (.error error, after) ∧ result = .error error) ∨
      ∃ a middle, part world = (.ok a, middle) ∧ next a middle = (result, after) := by
  cases first : part world with
  | mk outcome middle =>
    cases outcome with
    | error error =>
      rw [bind_error first] at ran
      cases ran
      exact .inl ⟨error, rfl, rfl⟩
    | ok a =>
      rw [bind_ok first] at ran
      exact .inr ⟨a, middle, rfl, ran⟩

/-- A relation between worlds that a part of a run respects, whatever world it runs in and however it ends. -/
def Respects (relation : World → World → Prop) (part : Run α) : Prop := ∀ world, relation world (part world).2

section Respects
variable {relation : World → World → Prop}

theorem respects_pure (refl : ∀ world, relation world world) (a : α) : Respects relation (pure a : Run α) :=
  fun world => refl world

theorem respects_read (refl : ∀ world, relation world world) (f : World → α) : Respects relation (read f) :=
  fun world => refl world

theorem respects_check (refl : ∀ world, relation world world) (outcome : Except RunError α) :
    Respects relation (check outcome) :=
  fun world => refl world

theorem respects_fail (refl : ∀ world, relation world world) (error : RunError) :
    Respects relation (fail error : Run α) :=
  fun world => refl world

theorem respects_bind (trans : ∀ {a b c}, relation a b → relation b c → relation a c)
    (first : Respects relation part) (second : ∀ a, Respects relation (next a)) :
    Respects relation (part >>= next) := by
  intro world
  cases ran : part world with
  | mk result middle =>
    have start : relation world middle := by simpa only [ran] using first world
    cases result with
    | error error => rwa [bind_error ran]
    | ok a =>
      rw [bind_ok ran]
      exact trans start (second a middle)

end Respects

/-- A part of a run that fails with errors of some kind only. -/
def FailsOnly (kind : RunError → Prop) (part : Run α) : Prop :=
  ∀ world error, (part world).1 = .error error → kind error

section FailsOnly
variable {kind : RunError → Prop}

theorem failsOnly_pure (a : α) : FailsOnly kind (pure a : Run α) := fun _ _ failed => by cases failed

theorem failsOnly_read (f : World → α) : FailsOnly kind (read f) := fun _ _ failed => by cases failed

theorem failsOnly_change (f : World → World) : FailsOnly kind (change f) := fun _ _ failed => by cases failed

theorem failsOnly_build (make : Store → α × Store) : FailsOnly kind (build make) := fun _ _ failed => by cases failed

theorem failsOnly_fail {error : RunError} (known : kind error) : FailsOnly kind (fail error : Run α) := by
  intro world other failed
  cases failed
  exact known

theorem failsOnly_check {ε : Type} {cause : ε → RunError} (known : ∀ e, kind (cause e)) (outcome : Except ε α) :
    FailsOnly kind (check (outcome.mapError cause)) := by
  intro world error failed
  cases outcome with
  | ok a => cases failed
  | error e =>
    cases failed
    exact known e

theorem failsOnly_bind (first : FailsOnly kind part) (second : ∀ a, FailsOnly kind (next a)) :
    FailsOnly kind (part >>= next) := by
  intro world error failed
  cases ran : part world with
  | mk result middle =>
    cases result with
    | error cause =>
      rw [bind_error ran] at failed
      cases failed
      exact first world error (by rw [ran])
    | ok a =>
      rw [bind_ok ran] at failed
      exact second a middle error failed

end FailsOnly
end Run
end Colloquy
