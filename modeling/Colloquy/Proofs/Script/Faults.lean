import Colloquy.Proofs.Run.Handler
import Colloquy.Run.Source

/-! What a script can be blamed for, and when that is found out. All that is wrong with the markup, the expressions or
the attributes of a source is found while it is read, when nothing has happened yet. A filter that does not exist is the
one thing that is found later: not before a text that names it is rendered. -/
namespace Colloquy

/-! ## The filters that a script names -/

/-- The filters that a piece of a text names. -/
def Fragment.filters : Fragment → List String
  | text _ => []
  | reference expr _ _ => expr.filters.map FilterCall.name

/-- The filters that a text names. -/
def textFilters (fragments : List Fragment) : List String := fragments.flatMap Fragment.filters

/-- The filters that the messages of a generation name. -/
def Generation.filters (generation : Generation) : List String :=
  generation.messages.flatMap fun template => textFilters template.fragments

/-- The filters that an item of a chat names. -/
def ChatItem.filters : ChatItem → List String
  | message template => textFilters template.fragments
  | prompt question => textFilters question.question
  | tool _ | response | unknown _ => []

/-- The filters that a statement names. -/
def Statement.filters : Statement → List String
  | prompt question => textFilters question.question
  | chat items => items.flatMap ChatItem.filters
  | generate generation | each _ generation => generation.filters
  | unknown _ => []

/-- The filters that a script names. -/
def Script.filters (script : Script) : List String := script.body.flatMap Statement.filters

/-- An error that can come of texts which name some filters: if it is about a filter, that one is among them, and there
is no such filter. -/
def RunError.Within (names : List String) : RunError → Prop
  | .evaluation (.unknownFilter name) => name ∈ names ∧ Filter.find? name = none
  | _ => True

/-- Whether an error says that the script cannot be read, or that something in it is not configured well. -/
def SourceError.Blames : SourceError → Prop
  | .unread _ => True
  | .failed (.evaluation (.unknownFilter _)) => True
  | .failed _ => False

/-- The filter that an error says does not exist. -/
def SourceError.missingFilter? : SourceError → Option String
  | .failed (.evaluation (.unknownFilter name)) => some name
  | _ => none

/-- The questions that the person was asked among some events. -/
def questionsIn (events : List Event) : List String :=
  events.filterMap fun
    | .asked question => some question
    | _ => none

theorem SourceError.blames_missing {error : SourceError} {name : String} (missing : error.missingFilter? = some name) :
    error.Blames := by
  unfold missingFilter? at missing
  split at missing
  · trivial
  · cases missing

theorem RunError.Within.mono {few many : List String} {error : RunError} (within : error.Within few)
    (included : ∀ name ∈ few, name ∈ many) : error.Within many := by
  unfold Within at within ⊢
  split at within
  · exact ⟨included _ within.1, within.2⟩
  · trivial

theorem RunError.within_ofReply {names : List String} (cause : ReplyError) : (RunError.ofReply cause).Within names := by
  cases cause <;> trivial

/-! ## Rendering -/

section Rendering
variable {bindings : Bindings} {name : String}

theorem pipe_unknown {subject : Option Value} {filters : List FilterCall}
    (failed : pipe bindings subject filters = .error (.unknownFilter name)) :
    name ∈ filters.map FilterCall.name ∧ Filter.find? name = none := by
  induction filters generalizing subject with
  | nil => cases failed
  | cons call rest ih =>
    obtain ⟨called, args⟩ := call
    unfold pipe at failed
    split at failed
    · rename_i missing
      cases failed
      exact ⟨List.mem_cons_self, missing⟩
    · split at failed
      · cases failed
      · split at failed
        · have later := ih failed
          exact ⟨List.mem_cons_of_mem _ later.1, later.2⟩
        · cases failed
        · cases failed

/-- The start of a pipeline is never at fault for a filter. -/
theorem base_known {base : Primary} (failed : base.eval bindings = .error (.unknownFilter name)) : False := by
  unfold Primary.eval at failed
  split at failed
  · cases failed
  · split at failed
    · rename_i given f _ _
      cases called : f given with
      | ok value =>
        rw [called] at failed
        cases failed
      | error cause =>
        rw [called] at failed
        cases failed
    · cases failed

theorem fragment_unknown {fragment : Fragment} (failed : fragment.render bindings = .error (.unknownFilter name)) :
    name ∈ fragment.filters ∧ Filter.find? name = none := by
  cases fragment with
  | text s => cases failed
  | reference expr source position =>
    have evaluated : expr.eval bindings = .error (.unknownFilter name) := by
      cases outcome : expr.eval bindings with
      | ok value => cases value <;> simp [Fragment.render, outcome] at failed
      | error cause => simpa [Fragment.render, outcome] using failed
    unfold Expr.eval at evaluated
    split at evaluated
    · exact pipe_unknown evaluated
    · rename_i error raised
      cases evaluated
      exact (base_known raised).elim

/-- A text that fails for want of a filter names it. -/
theorem renderAll_unknown {fragments : List Fragment}
    (failed : renderAll bindings fragments = .error (.unknownFilter name)) :
    name ∈ textFilters fragments ∧ Filter.find? name = none := by
  induction fragments with
  | nil => cases failed
  | cons fragment rest ih =>
    unfold textFilters
    rw [List.flatMap_cons]
    unfold renderAll at failed
    split at failed
    · rename_i error raised
      cases failed
      have first := fragment_unknown raised
      exact ⟨List.mem_append_left _ first.1, first.2⟩
    · have raised : renderAll bindings rest = .error (.unknownFilter name) := by
        cases later : renderAll bindings rest with
        | ok text => simp [later, Except.map] at failed
        | error error =>
          simp only [later, Except.map, Except.error.injEq] at failed
          rw [failed]
      have others := ih raised
      exact ⟨List.mem_append_right _ others.1, others.2⟩

theorem template_unknown {template : Template} (failed : template.render bindings = .error (.unknownFilter name)) :
    name ∈ textFilters template.fragments ∧ Filter.find? name = none := by
  unfold Template.render at failed
  cases rendered : renderAll bindings template.fragments with
  | ok text => simp [rendered, Except.map] at failed
  | error error =>
    simp only [rendered, Except.map, Except.error.injEq] at failed
    rw [failed] at rendered
    exact renderAll_unknown rendered

end Rendering

namespace Run
variable {α : Type}

theorem failsOnly_mono {kind wider : RunError → Prop} {part : Run α} (only : FailsOnly kind part)
    (included : ∀ error, kind error → wider error) : FailsOnly wider part :=
  fun world error failed => included error (only world error failed)

/-- A part of a script that is evaluated fails for the filters that it names. -/
theorem evaluate_failsOnly {names : List String} (scope : Nat) {part : Bindings → Except EvalError α}
    (known : ∀ bindings name, part bindings = .error (.unknownFilter name) →
      name ∈ names ∧ Filter.find? name = none) :
    FailsOnly (RunError.Within names) (evaluate scope part) := by
  unfold evaluate
  refine failsOnly_bind (failsOnly_read _) fun store => ?_
  intro world error failed
  cases outcome : part (store.valueOf scope) with
  | ok result =>
    rw [outcome] at failed
    cases failed
  | error cause =>
    rw [outcome] at failed
    cases failed
    cases cause with
    | unknownFilter name => exact known _ name outcome
    | misuse cause => trivial

/-! ## Conversations -/

section Conversation
variable {names : List String}

theorem apply_failsOnly (call : ToolCall) (commit : Option Commit) :
    FailsOnly (RunError.Within names) (apply call commit) := by
  cases commit with
  | none => exact failsOnly_pure _
  | some commit =>
    refine failsOnly_bind (failsOnly_read _) fun store => ?_
    refine failsOnly_bind (failsOnly_check (fun _ => trivial) _) fun written => ?_
    exact failsOnly_bind (failsOnly_change _) fun _ => failsOnly_change _

theorem answerItem_failsOnly (call : ToolCall) (content : Item) :
    FailsOnly (RunError.Within names) (answerItem call content) :=
  failsOnly_bind (failsOnly_read _) fun _ => failsOnly_change _

theorem runHook_failsOnly (happened : Hook → Event) (given : List Value) (hook : Option Hook) :
    FailsOnly (RunError.Within names) (runHook happened given hook) := by
  cases hook with
  | none => exact failsOnly_pure _
  | some hook =>
    refine failsOnly_bind (failsOnly_change _) fun _ => ?_
    cases hook with
    | note handler => exact failsOnly_pure _
    | call f => exact failsOnly_bind (failsOnly_check (fun _ => trivial) _) fun _ => failsOnly_pure _

theorem review_failsOnly (content : Item) : FailsOnly (RunError.Within names) (review content) := by
  refine failsOnly_bind (failsOnly_read _) fun value => ?_
  refine failsOnly_bind (failsOnly_check (fun _ => trivial) _) fun text => ?_
  refine failsOnly_bind (failsOnly_change _) fun _ => ?_
  exact failsOnly_bind (ask_failsOnly trivial _) fun _ => failsOnly_pure _

theorem carryOut_failsOnly (call : ToolCall) (action : Action) :
    FailsOnly (RunError.Within names) (carryOut call action) := by
  cases action with
  | loop content commit =>
    refine failsOnly_bind (apply_failsOnly _ _) fun _ => ?_
    exact failsOnly_bind (answerItem_failsOnly _ _) fun _ => failsOnly_pure _
  | close content commit =>
    refine failsOnly_bind (apply_failsOnly _ _) fun _ => ?_
    exact failsOnly_bind (answerItem_failsOnly _ _) fun _ => failsOnly_pure _
  | review content commit onAccept onReject =>
    refine failsOnly_bind (review_failsOnly _) fun revision => ?_
    cases revision with
    | none =>
      refine failsOnly_bind (failsOnly_change _) fun _ => ?_
      refine failsOnly_bind (apply_failsOnly _ _) fun _ => ?_
      exact failsOnly_bind (runHook_failsOnly _ _ _) fun _ => failsOnly_pure _
    | some revision =>
      refine failsOnly_bind (failsOnly_change _) fun _ => ?_
      exact failsOnly_bind (runHook_failsOnly _ _ _) fun _ => failsOnly_pure _

theorem dispatch_failsOnly (context : Context Handler) (call : ToolCall) :
    FailsOnly (RunError.Within names) (dispatch context call) := by
  refine failsOnly_bind (failsOnly_change _) fun _ => ?_
  cases context.handlers.get? call.name with
  | none => exact failsOnly_bind (failsOnly_change _) fun _ => failsOnly_fail trivial
  | some handler =>
    have responds : FailsOnly (RunError.Within names) (handler.respond call.given) := by
      refine failsOnly_mono (handler.respond_failsOnly call.given) fun error failure => ?_
      -- A handler fails for reasons of its own, none of which is a filter.
      cases error <;> trivial
    exact failsOnly_bind responds fun action => carryOut_failsOnly call action

theorem dispatchAll_failsOnly (context : Context Handler) (calls : List ToolCall) :
    FailsOnly (RunError.Within names) (dispatchAll context calls) := by
  induction calls with
  | nil => exact failsOnly_pure _
  | cons call rest ih =>
    refine failsOnly_bind (dispatch_failsOnly context call) fun first => ?_
    exact failsOnly_bind ih fun later => failsOnly_pure _

theorem receive_failsOnly (reply : Reply) : FailsOnly (RunError.Within names) (receive reply) := by
  refine failsOnly_bind (failsOnly_check RunError.within_ofReply _) fun completion => ?_
  refine failsOnly_bind (failsOnly_change _) fun _ => ?_
  cases completion.choices with
  | nil => exact failsOnly_fail trivial
  | cons choice others => exact failsOnly_bind (failsOnly_change _) fun _ => failsOnly_pure _

theorem send_failsOnly (terms : Terms) : FailsOnly (RunError.Within names) (send terms) := by
  refine failsOnly_bind (failsOnly_read _) fun messages => ?_
  exact failsOnly_bind (failsOnly_check (fun _ => trivial) _) fun _ => failsOnly_change _

theorem rounds_failsOnly (terms : Terms) (done : Nat) (replies : List Reply) :
    FailsOnly (RunError.Within names) (rounds terms done replies) := by
  induction replies generalizing done with
  | nil => exact failsOnly_bind (send_failsOnly terms) fun _ => failsOnly_fail trivial
  | cons reply rest ih =>
    refine failsOnly_bind (send_failsOnly terms) fun _ => ?_
    refine failsOnly_bind (failsOnly_change _) fun _ => ?_
    refine failsOnly_bind (receive_failsOnly reply) fun calls => ?_
    refine failsOnly_bind (dispatchAll_failsOnly terms.context calls) fun again => ?_
    cases again with
    | true => exact ih (done + 1)
    | false => exact failsOnly_pure _

/-- A conversation never fails for want of a filter. -/
theorem converse_failsOnly (terms : Terms) : FailsOnly (RunError.Within names) (converse terms) :=
  failsOnly_bind (failsOnly_read _) fun replies => rounds_failsOnly terms 0 replies

end Conversation

/-! ## Scripts -/

section Script
variable {names : List String} (context : Context Handler) (scope : Nat)

theorem prompt_failsOnly {question : Prompt} (named : ∀ name ∈ textFilters question.question, name ∈ names) :
    FailsOnly (RunError.Within names) (prompt scope question) := by
  have evaluated : FailsOnly (RunError.Within names)
      (evaluate scope fun bindings => renderAll bindings question.question) := by
    refine evaluate_failsOnly scope fun bindings name failed => ?_
    have unknown := renderAll_unknown failed
    exact ⟨named name unknown.1, unknown.2⟩
  refine failsOnly_bind evaluated fun asked => ?_
  exact failsOnly_bind (ask_failsOnly trivial _) fun answer => failsOnly_change _

theorem template_failsOnly {template : Template} (named : ∀ name ∈ textFilters template.fragments, name ∈ names) :
    FailsOnly (RunError.Within names) (evaluate scope fun bindings => template.render bindings) := by
  refine evaluate_failsOnly scope fun bindings name failed => ?_
  have unknown := template_unknown failed
  exact ⟨named name unknown.1, unknown.2⟩

theorem renderTemplates_failsOnly {templates : List Template}
    (named : ∀ template ∈ templates, ∀ name ∈ textFilters template.fragments, name ∈ names) :
    FailsOnly (RunError.Within names) (renderTemplates scope templates) := by
  induction templates with
  | nil => exact failsOnly_pure _
  | cons template rest ih =>
    refine failsOnly_bind (template_failsOnly scope (named template List.mem_cons_self)) fun first => ?_
    refine failsOnly_bind (ih fun other member => named other (List.mem_cons_of_mem _ member)) fun others => ?_
    exact failsOnly_pure _

theorem declare_failsOnly (chat : Chat) (tool : Tool) : FailsOnly (RunError.Within names) (declare context chat tool) := by
  unfold declare
  dsimp only
  split
  · exact failsOnly_pure _
  · split
    · exact failsOnly_pure _
    · exact failsOnly_bind (failsOnly_change _) fun _ => failsOnly_pure _

theorem chatItems_failsOnly (chat : Chat) {items : List ChatItem}
    (named : ∀ item ∈ items, ∀ name ∈ item.filters, name ∈ names) :
    FailsOnly (RunError.Within names) (chatItems context chat items) := by
  induction items generalizing chat with
  | nil => exact failsOnly_pure _
  | cons item rest ih =>
    have here := named item List.mem_cons_self
    have others : ∀ next, FailsOnly (RunError.Within names) (chatItems context next rest) :=
      fun next => ih next fun other member => named other (List.mem_cons_of_mem _ member)
    cases item with
    | message template =>
      refine failsOnly_bind (template_failsOnly chat.scope here) fun message => ?_
      exact failsOnly_bind (failsOnly_change _) fun _ => others chat
    | prompt question => exact failsOnly_bind (prompt_failsOnly chat.scope here) fun _ => others chat
    | tool tool => exact failsOnly_bind (declare_failsOnly context chat tool) fun next => others next
    | response => exact failsOnly_bind (converse_failsOnly _) fun _ => others chat
    | unknown tag => exact others chat

theorem generate_failsOnly {generation : Generation} (target : Item)
    (named : ∀ name ∈ generation.filters, name ∈ names) :
    FailsOnly (RunError.Within names) (generate context generation scope target) := by
  have rendered : FailsOnly (RunError.Within names) (renderTemplates scope generation.messages) := by
    refine renderTemplates_failsOnly scope fun template member name inside => named name ?_
    exact List.mem_flatMap.mpr ⟨template, member, inside⟩
  refine failsOnly_bind rendered fun messages => ?_
  refine failsOnly_bind (failsOnly_change _) fun _ => failsOnly_bind (failsOnly_read _) fun before => ?_
  refine failsOnly_bind (converse_failsOnly _) fun _ => failsOnly_bind (failsOnly_read _) fun since => ?_
  split
  · exact failsOnly_change _
  · exact failsOnly_pure _

theorem generateEach_failsOnly {generation : Generation} (named : ∀ name ∈ generation.filters, name ∈ names)
    (ids : List Nat) : FailsOnly (RunError.Within names) (generateEach context generation scope ids) := by
  induction ids with
  | nil => exact failsOnly_pure _
  | cons id rest ih =>
    refine failsOnly_bind (failsOnly_read _) fun members => ?_
    refine failsOnly_bind (failsOnly_build _) fun inner => ?_
    exact failsOnly_bind (generate_failsOnly context inner (.record id) named) fun _ => ih

/-- A statement fails for the filters that it names. -/
theorem statement_failsOnly {statement : Statement} (named : ∀ name ∈ statement.filters, name ∈ names) :
    FailsOnly (RunError.Within names) (Run.statement context scope statement) := by
  cases statement with
  | prompt question => exact prompt_failsOnly scope named
  | chat items =>
    refine failsOnly_bind (failsOnly_build _) fun inner => failsOnly_bind (failsOnly_change _) fun _ => ?_
    refine chatItems_failsOnly context _ fun item member name inside => named name ?_
    exact List.mem_flatMap.mpr ⟨item, member, inside⟩
  | generate generation =>
    exact failsOnly_bind (failsOnly_build _) fun inner => generate_failsOnly context inner (.scope scope) named
  | each source generation =>
    refine failsOnly_bind (failsOnly_read _) fun records => ?_
    refine failsOnly_bind (failsOnly_check (fun _ => trivial) _) fun ids => ?_
    exact generateEach_failsOnly context scope named ids
  | unknown tag => exact failsOnly_pure _

theorem statements_failsOnly {body : List Statement}
    (named : ∀ statement ∈ body, ∀ name ∈ statement.filters, name ∈ names) :
    FailsOnly (RunError.Within names) (statements context scope body) := by
  induction body with
  | nil => exact failsOnly_pure _
  | cons first rest ih =>
    refine failsOnly_bind (statement_failsOnly context scope (named first List.mem_cons_self)) fun _ => ?_
    exact ih fun other member => named other (List.mem_cons_of_mem _ member)

end Script

theorem openBody_failsOnly {names : List String} (host : Option Nat) :
    FailsOnly (RunError.Within names) (openBody host) := by
  cases host with
  | none => exact failsOnly_bind (failsOnly_build _) fun root => failsOnly_build _
  | some host => exact failsOnly_build _

/-- A script fails for the filters that it names. -/
theorem script_failsOnly (context : Context Handler) (script : Script) (host : Option Nat) :
    FailsOnly (RunError.Within script.filters) (Run.script context script host) := by
  refine failsOnly_bind (openBody_failsOnly host) fun body => ?_
  have named : ∀ statement ∈ script.body, ∀ name ∈ statement.filters, name ∈ script.filters :=
    fun statement member name inside => List.mem_flatMap.mpr ⟨statement, member, inside⟩
  exact failsOnly_bind (statements_failsOnly context body named) fun _ => failsOnly_pure _

/-- When a source is to blame for an error, nothing has happened: neither the person nor the model was asked anything,
and the world is as it was. The one exception is a filter that does not exist: the script can be read, a text in it
names that filter, and the error says so. -/
theorem source_blames (context : Context Handler) (source : Source) (host : Option Nat) (world : World)
    (error : SourceError) (failed : (Run.source context source host world).1 = .error error) (blames : error.Blames) :
    (Run.source context source host world).2 = world ∨
      ∃ script name, source.compile = .ok script ∧ name ∈ script.filters ∧ Filter.find? name = none ∧
        error = .failed (.evaluation (.unknownFilter name)) := by
  unfold Run.source at failed ⊢
  cases found : source.compile with
  | error unread => exact .inl rfl
  | ok script =>
    right
    rw [found] at failed
    dsimp only at failed
    have within := script_failsOnly context script host world
    cases ran : (Run.script context script host world).1 with
    | ok body =>
      rw [ran] at failed
      cases failed
    | error cause =>
      rw [ran] at failed
      cases failed
      have known := within cause ran
      unfold SourceError.Blames at blames
      split at blames
      · rename_i unread
        cases unread
      · rename_i name same
        cases same
        exact ⟨script, name, rfl, known.1, known.2, rfl⟩
      · exact blames.elim

/-! Two scripts that ask for a topic first. In one of them the second statement does not say where its answer goes, and
nobody is asked anything; in the other one it names a filter that does not exist, and the topic is asked for. -/

/-- A context without handlers. -/
def bareContext : Context Handler := ⟨"openai:gpt-4o", [], []⟩

/-- A world in which the person will answer once. -/
def answeringWorld : World := .start .empty [] [some "Tides"]

/-- A script whose second question has no name for its answer. -/
def namelessSource : Source := .markup "<script><p user=\"Topic?\" store=\"topic\"/><p user=\"Title?\"/></script>"

/-- A script whose second question names a filter that does not exist. -/
def filteredSource : Source :=
  .markup "<script><p user=\"Topic?\" store=\"topic\"/><p user=\"\x7b\x7b topic | loud \x7d\x7d?\" store=\"title\"/></script>"

theorem source_blames_nameless : ∃ error, (Run.source bareContext namelessSource none answeringWorld).1 = .error error ∧
    error.Blames ∧ (Run.source bareContext namelessSource none answeringWorld).2 = answeringWorld := by
  cases found : namelessSource.compile with
  | ok script =>
    have unreadable : namelessSource.compile.isOk = false := by decide +kernel
    rw [found] at unreadable
    cases unreadable
  | error unread =>
    have failed : (Run.source bareContext namelessSource none answeringWorld).1 = .error (.unread unread) := by
      unfold Run.source
      rw [found]
    refine ⟨.unread unread, failed, trivial, ?_⟩
    rcases source_blames _ _ _ _ _ failed trivial with same | ⟨script, name, read, _⟩
    · exact same
    · rw [found] at read
      cases read

/-- A filter that does not exist is not found out before the person was asked something. -/
theorem source_blames_late : ∃ error, (Run.source bareContext filteredSource none answeringWorld).1 = .error error ∧
    error.Blames ∧ questionsIn (Run.source bareContext filteredSource none answeringWorld).2.history = ["Topic?"] := by
  have both : (match Run.source bareContext filteredSource none answeringWorld with
      | (.error error, after) => (error.missingFilter?, questionsIn after.history)
      | (.ok _, _) => (none, [])) = (some "loud", ["Topic?"]) := by decide +kernel
  cases ran : Run.source bareContext filteredSource none answeringWorld with
  | mk result after =>
    rw [ran] at both
    cases result with
    | ok body => cases both
    | error error =>
      obtain ⟨missing, asked⟩ := Prod.mk.inj both
      exact ⟨error, rfl, SourceError.blames_missing missing, asked⟩

end Run
end Colloquy
