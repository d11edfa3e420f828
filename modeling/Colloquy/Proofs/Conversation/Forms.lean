import Colloquy.Proofs.Reply.Forms
import Colloquy.Proofs.Run.Basic

/-! A conversation cannot tell the forms of its replies apart. Replies are taken one a round and nothing but their
completions is looked at, so that replies in other forms lead to the same messages, the same calls and the same counts of
tokens, and are taken as far. -/
namespace Colloquy

/-- The world with other replies to come. -/
def World.supplied (world : World) (replies : List Reply) : World := { world with replies }

namespace Run

/-- A part of a run that neither looks at the replies to come nor changes them. -/
def Blind {α : Type} (part : Run α) : Prop :=
  ∀ world replies, part (world.supplied replies) = ((part world).1, (part world).2.supplied replies)

section Blind

variable {α β : Type}

theorem blind_pure (a : α) : Blind (pure a : Run α) := fun _ _ => rfl

theorem blind_fail (error : RunError) : Blind (fail error : Run α) := fun _ _ => rfl

theorem blind_check (outcome : Except RunError α) : Blind (check outcome) := fun _ _ => rfl

theorem blind_build (make : Store → α × Store) : Blind (build make) := fun _ _ => rfl

theorem blind_record (event : Event) : Blind (record event) := fun _ _ => rfl

theorem blind_read {f : World → α} (same : ∀ world replies, f (world.supplied replies) = f world) : Blind (read f) :=
  fun world replies => by unfold read; rw [same]

theorem blind_change {f : World → World} (same : ∀ world replies, f (world.supplied replies) = (f world).supplied replies) :
    Blind (change f) :=
  fun world replies => by unfold change; rw [same]

theorem blind_bind {part : Run α} {next : α → Run β} (first : Blind part) (second : ∀ a, Blind (next a)) :
    Blind (part >>= next) := by
  intro world replies
  have here := first world replies
  cases ran : part world with
  | mk result middle =>
    rw [ran] at here
    cases result with
    | error error => rw [bind_error here, bind_error ran]
    | ok a =>
      rw [bind_ok here, bind_ok ran]
      exact second a middle replies

/-! ## Handlers -/

theorem ask_blind (question : String) : Blind (ask question) := by
  refine blind_bind (blind_record _) fun _ => blind_bind (blind_read fun _ _ => rfl) fun answers => ?_
  cases answers with
  | nil => exact blind_fail _
  | cons answer rest => exact blind_bind (blind_change fun _ _ => rfl) fun _ => blind_pure _

theorem relay_blind (arguments : Json) : Blind (Handler.relay arguments) := by
  unfold Handler.relay
  dsimp only
  split
  · exact blind_pure _
  · refine blind_bind (ask_blind _) fun answer => ?_
    cases answer <;> exact blind_pure _

theorem serve_blind (name : String) (react : Nat → Item → Store → Reaction) (arguments : Json) :
    Blind (Handler.serve name react arguments) := by
  refine blind_bind (blind_build _) fun item => blind_bind (blind_record _) fun _ =>
    blind_bind (blind_read fun _ _ => rfl) fun before => blind_bind (blind_change fun _ _ => rfl) fun _ =>
    blind_bind (blind_read fun _ _ => rfl) fun store => ?_
  cases react before item store with
  | act action => exact blind_pure _
  | hand item => exact blind_check _
  | fail cause => exact blind_fail _

theorem respond_blind (handler : Handler) (arguments : Json) : Blind (handler.respond arguments) := by
  cases handler with
  | host name react => exact serve_blind name react arguments
  | ask => exact relay_blind arguments
  | code => exact blind_bind (blind_build _) fun _ => blind_pure _
  | generation tool target key feedback => exact blind_bind (blind_build _) fun _ => blind_pure _

/-! ## Calls -/

theorem answer_blind (call : ToolCall) (content : Value) : Blind (answer call content) := blind_change fun _ _ => rfl

theorem answerItem_blind (call : ToolCall) (content : Item) : Blind (answerItem call content) :=
  blind_bind (blind_read fun _ _ => rfl) fun _ => answer_blind _ _

theorem apply_blind (call : ToolCall) (commit : Option Commit) : Blind (apply call commit) := by
  cases commit with
  | none => exact blind_pure _
  | some commit =>
    exact blind_bind (blind_read fun _ _ => rfl) fun _ => blind_bind (blind_check _) fun _ =>
      blind_bind (blind_change fun _ _ => rfl) fun _ => blind_record _

theorem review_blind (content : Item) : Blind (review content) :=
  blind_bind (blind_read fun _ _ => rfl) fun _ => blind_bind (blind_check _) fun _ =>
    blind_bind (blind_record _) fun _ => blind_bind (ask_blind _) fun _ => blind_pure _

theorem runHook_blind (happened : Hook → Event) (given : List Value) (hook : Option Hook) :
    Blind (runHook happened given hook) := by
  cases hook with
  | none => exact blind_pure _
  | some hook =>
    refine blind_bind (blind_record _) fun _ => ?_
    cases hook with
    | note _ => exact blind_pure _
    | call f => exact blind_bind (blind_check _) fun _ => blind_pure _

theorem carryOut_blind (call : ToolCall) (action : Action) : Blind (carryOut call action) := by
  cases action with
  | loop content commit =>
    exact blind_bind (apply_blind _ _) fun _ => blind_bind (answerItem_blind _ _) fun _ => blind_pure _
  | close content commit =>
    exact blind_bind (apply_blind _ _) fun _ => blind_bind (answerItem_blind _ _) fun _ => blind_pure _
  | review content commit onAccept onReject =>
    refine blind_bind (review_blind content) fun revision => ?_
    cases revision with
    | none =>
      exact blind_bind (answer_blind _ _) fun _ => blind_bind (apply_blind _ _) fun _ =>
        blind_bind (runHook_blind _ _ _) fun _ => blind_pure _
    | some revision =>
      exact blind_bind (answer_blind _ _) fun _ => blind_bind (runHook_blind _ _ _) fun _ => blind_pure _

theorem dispatch_blind (context : Context Handler) (call : ToolCall) : Blind (dispatch context call) := by
  refine blind_bind (blind_record _) fun _ => ?_
  cases context.handlers.get? call.name with
  | none => exact blind_bind (answer_blind _ _) fun _ => blind_fail _
  | some handler => exact blind_bind (respond_blind handler _) fun action => carryOut_blind call action

theorem dispatchAll_blind (context : Context Handler) (calls : List ToolCall) : Blind (dispatchAll context calls) := by
  induction calls with
  | nil => exact blind_pure _
  | cons call rest ih =>
    exact blind_bind (dispatch_blind context call) fun _ => blind_bind ih fun _ => blind_pure _

/-! ## Rounds -/

theorem send_blind (terms : Terms) : Blind (send terms) :=
  blind_bind (blind_read fun _ _ => rfl) fun _ => blind_bind (blind_check _) fun _ => blind_record _

theorem receive_blind (reply : Reply) : Blind (receive reply) := by
  refine blind_bind (blind_check _) fun completion => blind_bind (blind_record _) fun _ => ?_
  cases completion.choices with
  | nil => exact blind_fail _
  | cons choice others => exact blind_bind (blind_change fun _ _ => rfl) fun _ => blind_pure _

/-- Of a reply only the completion is looked at. -/
theorem receive_congr {reply other : Reply} (same : reply.convert = other.convert) : receive reply = receive other := by
  rw [receive, receive, same]

end Blind

section Rounds

variable {terms : Terms} {done : Nat}

/-- One round, with the replies to come set apart from what it does. -/
theorem rounds_cons (reply : Reply) (rest : List Reply) (world : World) :
    rounds terms done (reply :: rest) (world.supplied (reply :: rest)) =
      match send terms world with
      | (.error error, after) => (.error error, after.supplied (reply :: rest))
      | (.ok _, asked) =>
        match (receive reply >>= dispatchAll terms.context) asked with
        | (.error error, after) => (.error error, after.supplied rest)
        | (.ok true, after) => rounds terms (done + 1) rest (after.supplied rest)
        | (.ok false, after) => (.ok (done + 1), after.supplied rest) := by
  have start := send_blind terms world (reply :: rest)
  rw [rounds]
  cases sent : send terms world with
  | mk outcome asked =>
    rw [sent] at start
    cases outcome with
    | error error => rw [bind_error start]
    | ok =>
      have inside := blind_bind (receive_blind reply) (fun calls => dispatchAll_blind terms.context calls) asked rest
      rw [bind_ok start]
      change (receive reply >>= fun calls => dispatchAll terms.context calls >>= _) (asked.supplied rest) = _
      rw [← bind_assoc]
      dsimp only
      cases ran : (receive reply >>= dispatchAll terms.context) asked with
      | mk outcome after =>
        rw [ran] at inside
        cases outcome with
        | error error => rw [bind_error inside]
        | ok again =>
          rw [bind_ok inside]
          cases again <;> rfl

/-- From one world with two stocks of replies that convert alike, the rounds end alike, and take as many of either. -/
theorem rounds_alike {replies others : List Reply}
    (alike : List.Forall₂ (fun reply other : Reply => reply.convert = other.convert) replies others) (world : World) :
    ∃ result, ∃ after : World, ∃ n : Nat,
      rounds terms done replies (world.supplied replies) = (result, after.supplied (replies.drop n)) ∧
      rounds terms done others (world.supplied others) = (result, after.supplied (others.drop n)) := by
  induction alike generalizing done world with
  | nil =>
    have last := blind_bind (send_blind terms) (fun _ => blind_fail .outOfReplies : _ → Blind (fail _ : Run Nat)) world []
    exact ⟨_, _, 0, last, last⟩
  | @cons reply other rest more same _ ih =>
    rw [rounds_cons, rounds_cons, receive_congr same]
    split
    · exact ⟨_, _, 0, rfl, rfl⟩
    · split
      · exact ⟨_, _, 1, rfl, rfl⟩
      · rename_i after _
        obtain ⟨result, last, n, first, second⟩ := ih after
        exact ⟨result, last, n + 1, first, second⟩
      · exact ⟨_, _, 1, rfl, rfl⟩

end Rounds

/-- What replies say of completions is all that a conversation knows of them. A completion comes in every form, a reply
in any of them is converted to it, one that is a completion already being left alone, and from one world with replies that
say the same, in whatever forms, a conversation ends with the same result in the same world, having taken as many. -/
theorem converse_forms :
    (∀ completion : Completion, completion.Forms ∧ (Reply.native completion).convert = .ok completion) ∧
    (∀ (completion : Completion) reply, completion.Allowed → completion.RepresentedBy reply →
      reply.convert = .ok completion) ∧
    ∀ (terms : Terms) (world : World) (completions : List Completion) replies others,
      (∀ completion ∈ completions, completion.Allowed) →
      List.Forall₂ Completion.RepresentedBy completions replies →
      List.Forall₂ Completion.RepresentedBy completions others →
      ∃ result, ∃ after : World, ∃ n : Nat,
        converse terms (world.supplied replies) = (result, after.supplied (replies.drop n)) ∧
        converse terms (world.supplied others) = (result, after.supplied (others.drop n)) := by
  refine ⟨fun completion => ⟨completion.forms, rfl⟩, fun _ _ allowed represented => represented.convert allowed, ?_⟩
  intro terms world completions replies others allowed first second
  have alike : List.Forall₂ (fun reply other : Reply => reply.convert = other.convert) replies others := by
    induction first generalizing others with
    | nil =>
      cases second
      exact .nil
    | cons here _ ih =>
      cases second with
      | cons there more =>
        have known := allowed _ List.mem_cons_self
        exact .cons ((here.convert known).trans (there.convert known).symm)
          (ih _ (fun completion member => allowed completion (List.mem_cons_of_mem _ member)) more)
  exact rounds_alike alike world

/-- Two rounds: a call of the tool that asks the person, then a text. The replies come as completions, and the first one as
an object with its counts as attributes, the second one as data with members of no interest. -/
theorem converse_forms_asks :
    let asks : Completion := ⟨none, none, none, some ⟨some 5, some 2, none⟩,
      [⟨some "tool_calls", ⟨.assistant, none, some [⟨"1", "ask", ""⟩], none⟩⟩]⟩
    let tells : Completion := ⟨some (.text "r"), none, none, none, [⟨none, ⟨.assistant, some "Low", none, none⟩⟩]⟩
    let object : LooseReply := ⟨none, some .null, none,
      some (.attributes [("prompt_tokens", .int 5), ("completion_tokens", .int 2)]),
      [⟨some (.text "tool_calls"), [("role", .text "assistant"), ("tool_calls", .list [.mapping [("id", .text "1"),
        ("function", .mapping [("name", .text "ask"), ("arguments", .text "")])]])]⟩]⟩
    let data : Fields Value := [("id", .text "r"), ("object", .text "chat.completion"), ("choices", .list [.mapping
      [("index", .int 0), ("message", .mapping [("role", .text "assistant"), ("content", .text "Low")])]])]
    let terms : Terms := ⟨⟨"m", [], [("ask", .ask)]⟩, [], none, none⟩
    let world := World.start .empty [] []
    (∃ result, ∃ after : World, ∃ n : Nat,
      converse terms (world.supplied [.native asks, .native tells]) =
        (result, after.supplied ([Reply.native asks, .native tells].drop n)) ∧
      converse terms (world.supplied [.loose object, .data (.mapping data)]) =
        (result, after.supplied ([Reply.loose object, .data (.mapping data)].drop n))) ∧
    (converse terms (world.supplied [.loose object, .data (.mapping data)])).1 = .ok 2 := by
  intro asks tells object data terms world
  have allowed : ∀ completion ∈ [asks, tells], completion.Allowed := by
    simp [asks, tells, Completion.Allowed, finishReasons]
  have first : asks.CarriedBy object := {
    id := .inr ⟨rfl, rfl⟩
    created := .inl rfl
    model := .inr ⟨rfl, rfl⟩
    usage := .counts (.attributes ⟨.inl rfl, .inl rfl, .inr ⟨rfl, rfl⟩⟩)
    choices := .cons ⟨.inl rfl, ⟨rfl, .inr ⟨rfl, rfl⟩, ⟨_, rfl, .cons ⟨_, rfl, rfl, ⟨_, rfl, rfl, rfl⟩, .inr rfl⟩ .nil⟩,
      .inr ⟨rfl, rfl⟩⟩⟩ .nil }
  have second : tells.WrittenAs data := {
    id := .inl rfl
    created := .inr ⟨rfl, rfl⟩
    model := .inr ⟨rfl, rfl⟩
    usage := .inr ⟨rfl, rfl⟩
    choices := ⟨_, rfl, .cons ⟨_, rfl, .inr ⟨rfl, rfl⟩, _, rfl,
      ⟨rfl, .inl rfl, .inr ⟨rfl, rfl⟩, .inr ⟨rfl, rfl⟩⟩⟩ .nil⟩ }
  exact ⟨converse_forms.2.2 terms world [asks, tells] _ _ allowed (.cons .native (.cons .native .nil))
    (.cons (.loose first) (.cons (.data second) .nil)), rfl⟩

end Run
end Colloquy
