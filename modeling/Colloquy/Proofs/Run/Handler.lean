import Colloquy.Proofs.Run.Basic
import Colloquy.Proofs.Store.Contents

/-! What a handler does before its answer is carried out. Whichever handler it is and however it ends, it says nothing
to the model, leaves the replies alone, opens no scope, changes no scope and no record that is there already, and writes
into the history only that it was called and what it asked the person. -/
namespace Colloquy

/-- What a handler writes into the history itself. -/
def Event.isOfHandler : Event → Bool
  | .served _ _ | .asked _ | .answered _ => true
  | _ => false

/-- What a handler may change between two worlds. -/
structure Prepares (before after : World) : Prop where
  store : before.store.Extends after.store
  scopes : after.store.scopes = before.store.scopes
  replies : after.replies = before.replies
  messages : after.messages = before.messages
  history : World.Writes Event.isOfHandler before after

namespace Prepares
variable {before middle after : World}

theorem refl (world : World) : Prepares world world :=
  ⟨Store.extends_refl _, rfl, rfl, rfl, .refl world⟩

theorem trans (first : Prepares before middle) (second : Prepares middle after) : Prepares before after :=
  ⟨first.store.trans second.store, second.scopes.trans first.scopes, second.replies.trans first.replies,
    second.messages.trans first.messages, first.history.trans second.history⟩

theorem of_record {event : Event} (ofHandler : event.isOfHandler = true) (world : World) :
    Prepares world (world.record event) :=
  ⟨Store.extends_refl _, rfl, rfl, rfl, .of_record ofHandler world⟩

end Prepares

namespace Run
variable {α : Type}

theorem build_prepares {make : Store → α × Store} (adds : ∀ store : Store, store.Extends (make store).2)
    (keeps : ∀ store, (make store).2.scopes = store.scopes) : Respects Prepares (build make) :=
  fun world => ⟨adds world.store, keeps world.store, rfl, rfl, .refl world⟩

theorem place_prepares (value : Value) : Respects Prepares (build fun store => store.place value) :=
  build_prepares (fun store => Store.place_extends store value) fun store => Store.place_scopes store value

theorem ask_prepares (question : String) : Respects Prepares (ask question) := by
  refine respects_bind Prepares.trans (Prepares.of_record rfl) fun _ =>
    respects_bind Prepares.trans (respects_read Prepares.refl _) fun answers => ?_
  cases answers with
  | nil => exact respects_fail Prepares.refl _
  | cons answer rest =>
    refine respects_bind Prepares.trans (fun world => ?_) fun _ => respects_pure Prepares.refl _
    exact ⟨Store.extends_refl _, rfl, rfl, rfl, .of_record rfl world⟩

/-- Asking fails only when nobody answers. -/
theorem ask_failsOnly {kind : RunError → Prop} (known : kind .outOfAnswers) (question : String) :
    FailsOnly kind (ask question) := by
  refine failsOnly_bind (failsOnly_change _) fun _ => failsOnly_bind (failsOnly_read _) fun answers => ?_
  cases answers with
  | nil => exact failsOnly_fail known
  | cons answer rest => exact failsOnly_bind (failsOnly_change _) fun _ => failsOnly_pure _

end Run

namespace Handler
open Run

theorem relay_prepares (arguments : Json) : Respects Prepares (relay arguments) := by
  unfold relay
  dsimp only
  split
  · exact respects_pure Prepares.refl _
  · refine respects_bind Prepares.trans (ask_prepares _) fun answer => ?_
    cases answer with
    | none => exact respects_pure Prepares.refl _
    | some answer => exact respects_pure Prepares.refl _

theorem take_prepares (arguments : Json) : Respects Prepares (take arguments) :=
  respects_bind Prepares.trans (place_prepares _) fun _ =>
    respects_pure Prepares.refl _

theorem produce_prepares (tool : Tool) (target : Item) (key : String) (feedback : Bool) (arguments : Json) :
    Respects Prepares (produce tool target key feedback arguments) :=
  respects_bind Prepares.trans (place_prepares _) fun _ =>
    respects_pure Prepares.refl _

theorem serve_prepares (name : String) (react : Nat → Item → Store → Reaction) (arguments : Json) :
    Respects Prepares (serve name react arguments) := by
  refine respects_bind Prepares.trans (place_prepares _) fun item =>
    respects_bind Prepares.trans (Prepares.of_record rfl) fun _ =>
    respects_bind Prepares.trans (respects_read Prepares.refl _) fun before =>
    respects_bind Prepares.trans (fun world => ?_) fun _ =>
    respects_bind Prepares.trans (respects_read Prepares.refl _) fun store => ?_
  · exact ⟨Store.extends_refl _, rfl, rfl, rfl, .refl world⟩
  · cases react before item store with
    | act action => exact respects_pure Prepares.refl _
    | hand item => exact respects_check Prepares.refl _
    | fail cause => exact respects_fail Prepares.refl _

/-- A handler only prepares what is then carried out. -/
theorem respond_prepares (handler : Handler) (arguments : Json) :
    Respects Prepares (handler.respond arguments) := by
  cases handler with
  | host name react => exact serve_prepares name react arguments
  | ask => exact relay_prepares arguments
  | code => exact take_prepares arguments
  | generation tool target key feedback => exact produce_prepares tool target key feedback arguments

/-- A handler fails because nobody answers it, because its answer is no action, or for a reason of its own. -/
def Failure : RunError → Prop
  | .outOfAnswers | .malformed _ | .misuse _ => True
  | _ => False

theorem respond_failsOnly (handler : Handler) (arguments : Json) : FailsOnly Failure (handler.respond arguments) := by
  cases handler with
  | host name react =>
    refine failsOnly_bind (failsOnly_build _) fun item => failsOnly_bind (failsOnly_change _) fun _ =>
      failsOnly_bind (failsOnly_read _) fun before => failsOnly_bind (failsOnly_change _) fun _ =>
      failsOnly_bind (failsOnly_read _) fun store => ?_
    cases react before item store with
    | act action => exact failsOnly_pure _
    | hand item => exact failsOnly_check (fun _ => trivial) _
    | fail cause => exact failsOnly_fail trivial
  | ask =>
    simp only [respond, relay]
    split
    · exact failsOnly_pure _
    · refine failsOnly_bind (ask_failsOnly trivial _) fun answer => ?_
      cases answer with
      | none => exact failsOnly_pure _
      | some answer => exact failsOnly_pure _
  | code => exact failsOnly_bind (failsOnly_build _) fun _ => failsOnly_pure _
  | generation tool target key feedback => exact failsOnly_bind (failsOnly_build _) fun _ => failsOnly_pure _

end Handler
end Colloquy
