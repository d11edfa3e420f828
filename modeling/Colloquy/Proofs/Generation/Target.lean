import Colloquy.Proofs.Conversation.Continuation
import Colloquy.Proofs.Generation.Calls

/-! What a generation leaves in its target. However it ends, the target is as it was but for the value of the last call
that was kept, under the name of the generation; and a generation that ends well warns exactly if no call was kept. -/
namespace Colloquy

theorem Fields.put_put {α : Type} (fields : Fields α) (name : String) (old new : α) :
    (fields.put name old).put name new = fields.put name new := by
  induction fields with
  | nil => simp [put]
  | cons entry rest ih =>
    obtain ⟨key, value⟩ := entry
    by_cases same : key = name
    · simp [put, same]
    · simp [put, same, ih]

/-- The arguments of a call are what their text says, if it is JSON. -/
theorem ToolCall.given_of_read {call : ToolCall} {json : Json} (read : Json.read? call.arguments = some json) :
    call.given = json := by
  unfold given
  split
  · rename_i empty
    have blank : call.arguments = "" := by simpa using empty
    have nothing : Json.read? "" = none := rfl
    rw [blank, nothing] at read
    cases read
  · rw [Json.mend, read]

/-- The world in which a scope was opened inside another one. -/
def World.opened (world : World) (scope : Nat) : World :=
  { world with store := (world.store.openScope (some scope) []).2 }

namespace Generation

/-- The calls that are taken up in the conversation of a generation whose messages are rendered in a scope. -/
def log (generation : Generation) (context : Context Handler) (scope : Nat) (target : Item) (world : World) :
    List Run.Serving :=
  match (Run.renderTemplates scope generation.messages world).1 with
  | .ok messages => Run.servingsFrom (generation.terms context target) { world with messages }
  | .error _ => []

/-- What calls that are kept leave in the target: the value of the last one, under the name of the generation. -/
def leaves (generation : Generation) (kept : List Run.Serving) (contents : Fields Item) : Fields Item :=
  match kept.getLast? with
  | none => contents
  | some last => contents.put generation.store (generation.itemOf last)

/-- The warning of a generation that ends well, when some calls were kept. -/
def warning (generation : Generation) (kept : List Run.Serving) : List String :=
  if kept.isEmpty then [Run.nothingProducedMessage generation.store] else []

theorem warning_filter (generation : Generation) (log : List Run.Serving) (kept : Run.Serving → Bool) :
    generation.warning (log.filter kept) =
      if log.any kept then [] else [Run.nothingProducedMessage generation.store] := by
  have none : (log.filter kept).isEmpty = !log.any kept := by
    rw [Bool.eq_iff_iff]
    simp
  rw [warning, none]
  cases log.any kept <;> rfl

/-- Of several values written under one name the last one stays. -/
theorem foldl_leaves (generation : Generation) (kept : List Run.Serving) (contents : Fields Item) :
    kept.foldl (fun contents serving => contents.put generation.store (generation.itemOf serving)) contents =
      generation.leaves kept contents := by
  induction kept generalizing contents with
  | nil => rfl
  | cons serving rest ih =>
    rw [List.foldl_cons, ih, leaves, leaves, List.getLast?_cons]
    cases rest.getLast? with
    | none => rfl
    | some last => exact Fields.put_put ..

end Generation

namespace Run

/-- Rendering messages changes nothing. -/
theorem renderTemplates_same (scope : Nat) (templates : List Template) :
    Respects (fun before after => after = before) (renderTemplates scope templates) := by
  induction templates with
  | nil => exact fun world => rfl
  | cons template rest ih =>
    have trans : ∀ {a b c : World}, b = a → c = b → c = a := fun first second => second.trans first
    have evaluated : Respects (fun before after => after = before)
        (evaluate scope fun bindings => template.render bindings) := fun world => rfl
    exact respects_bind trans evaluated fun first => respects_bind trans ih fun others world => rfl

/-! ## Warnings -/

theorem warnings_record {world : World} {event : Event} (quiet : ∀ warning, event ≠ .warned warning) :
    (world.record event).warnings = world.warnings := by
  cases event <;> simp_all [World.warnings]

theorem warnings_prepared {before after : World} (prepares : Prepares before after) :
    after.warnings = before.warnings := by
  obtain ⟨events, grown, ofHandler⟩ := prepares.history
  rw [World.warnings, World.warnings, grown, List.filterMap_append, List.append_right_eq_self]
  refine List.filterMap_eq_nil_iff.mpr fun event member => ?_
  have known := ofHandler event member
  cases event <;> first | rfl | cases known

/-- A conversation gives no warnings. -/
theorem warnings_spansRounds : SpansRounds fun before after => after.warnings = before.warnings where
  refl _ := rfl
  trans first second := second.trans first
  prepared := warnings_prepared
  said world message := warnings_record (by simp)
  wrote _ := warnings_record (by simp)
  shown world text := (warnings_record (by simp)).trans (warnings_record (by simp))
  heard _ _ _ := warnings_record (by simp)
  accepted _ _ := warnings_record (by simp)
  rejected _ _ _ := warnings_record (by simp)
  dispatched _ _ := warnings_record (by simp)
  requested _ _ _ := warnings_record (by simp)
  replied _ _ := warnings_record (by simp)

/-! ## The conversation of a generation -/

section Conversation
variable {context : Context Handler} {generation : Generation} {target : Item} {world : World}
  (held : world.store.Holds target)
include held

/-- The target is there whenever a call is taken up. -/
theorem generation_held : ∀ serving ∈ servingsFrom (generation.terms context target) world,
    serving.before.store.Holds target := by
  intro serving member
  have course := converse_course (generation.terms context target) world
  obtain ⟨early, _⟩ := (course_spanned accounted_spansRounds course).2 serving member
  exact early.holds target held

variable (spared : generation.SparedBy context target)
include spared

/-- What the conversation of a generation leaves in the target. -/
theorem generation_contents :
    (converse (generation.terms context target) world).2.store.contents target =
      generation.leaves ((servingsFrom (generation.terms context target) world).filter
        (generation.keeps context target)) (world.store.contents target) := by
  have course := converse_course (generation.terms context target) world
  obtain ⟨accounted, _⟩ := course_spanned accounted_spansRounds course
  have commits := course_commits course
  rw [← commitsIn_flatMap] at commits
  rw [accounted.contents target held, committedInto, commits]
  exact (log_into (generation_held held) spared _).trans (generation.foldl_leaves ..)

/-- Whether a generation has stored a value when its conversation is over. -/
theorem generation_produced :
    produced generation.tool.name (world.since (converse (generation.terms context target) world).2) =
      (servingsFrom (generation.terms context target) world).any (generation.keeps context target) := by
  have course := converse_course (generation.terms context target) world
  have counted : ∀ events, produced generation.tool.name events =
      (commitsIn events).any (·.1.name == generation.tool.name) := by
    intro events
    rw [produced, commitsIn, List.any_filterMap]
    congr 1
    funext event
    cases event <;> rfl
  rw [counted, course_commits course]
  exact log_produced (generation_held held) spared

end Conversation

/-- A kept value is seen as the call offered it, for as long as no commit goes into a record that was made for it. -/
theorem kept_value {context : Context Handler} {generation : Generation} {target : Item} {serving : Serving}
    {after : World} (kept : generation.keeps context target serving = true)
    (accounted : Accounted (serving.after (generation.terms context target).context) after)
    (undisturbed : ∀ entry ∈ commitsIn (serving.before.since after), ∀ id, entry.2.target = .record id →
      id < serving.before.store.records.length) :
    after.store.view (generation.itemOf serving) = generation.valueOf serving.call := by
  have own : serving.call.name = generation.tool.name := by
    rw [Generation.keeps, Bool.and_eq_true, beq_iff_eq] at kept
    exact kept.1
  have resolves : serving.Resolves (generation.terms context target).context _ _ := own_resolves own
  have accounted := (serving_carriesOut resolves).accounted.trans accounted
  have grown : serving.before.history <+: (serving.offered generation).history := List.prefix_append _ _
  refine Store.view_place ?_ ?_
  · intro id least inside
    have placed : (serving.offered generation).store.Holds (.record id) := inside
    refine (accounted.contents (.record id) placed).trans (committedInto_spared (fun entry member => ?_) _)
    -- The records of the value were made after the call was taken up, and so lie beyond all that later commits go into.
    have later : entry ∈ commitsIn (serving.before.since after) := by
      rw [World.since_trans grown accounted.history, commitsIn_append]
      exact List.mem_append_right _ member
    cases into : entry.2.target with
    | record other =>
      have old := undisturbed entry later other into
      exact beq_false_of_ne (by omega)
    | _ => rfl
  · exact accounted.records_length

/-! ## The generation -/

section Generate
variable {context : Context Handler} {generation : Generation} {scope : Nat} {target : Item} {world : World}

theorem generate_unrendered {error : RunError}
    (failed : renderTemplates scope generation.messages world = (.error error, world)) :
    generate context generation scope target world = (.error error, world) := by
  unfold generate
  dsimp only
  rw [bind_error failed]

theorem generate_rendered {messages : List Message}
    (rendered : renderTemplates scope generation.messages world = (.ok messages, world)) :
    generate context generation scope target world =
      (converse (generation.terms context target) >>= fun _ =>
        read (fun later => later.history.drop world.history.length) >>= fun since =>
          if !produced generation.tool.name since then warn (nothingProducedMessage generation.store) else pure ())
        { world with messages } := by
  unfold generate
  dsimp only
  rw [bind_ok rendered]
  rfl

/-- What is known of a generation when it has ended, of the calls that were taken up in it. -/
structure Generated (context : Context Handler) (generation : Generation) (target : Item) (world after : World)
    (log : List Serving) : Prop where
  accounted : Accounted world after
  calls : callsIn (world.since after) = log.map Serving.call
  contents : after.store.contents target =
    generation.leaves (log.filter (generation.keeps context target)) (world.store.contents target)
  each : ∀ serving ∈ log, Accounted (serving.after (generation.terms context target).context) after

/-- A generation may warn when all is done. -/
theorem Generated.warned {after : World} {log : List Serving}
    (generated : Generated context generation target world after log) (warning : String) :
    Generated context generation target world (after.record (.warned warning)) log := by
  have quiet : Accounted after (after.record (.warned warning)) := .of_record rfl after
  refine ⟨generated.accounted.trans quiet, ?_, generated.contents, fun serving member =>
    (generated.each serving member).trans quiet⟩
  rw [World.since_trans generated.accounted.history quiet.history, callsIn_append, generated.calls,
    World.since_eq (World.record_history after (.warned warning))]
  exact List.append_nil _

theorem conversation_generated (messages : List Message) (held : world.store.Holds target)
    (spared : generation.SparedBy context target) :
    Generated context generation target world
      (converse (generation.terms context target) { world with messages }).2
      (servingsFrom (generation.terms context target) { world with messages }) := by
  have course := converse_course (generation.terms context target) { world with messages }
  obtain ⟨whole, each⟩ := course_spanned accounted_spansRounds course
  have started : Accounted world { world with messages } :=
    .of_extends (Store.extends_refl _) (.of_history (List.append_nil _).symm (by simp))
  refine ⟨started.trans whole, ?_, generation_contents held spared, fun serving member => (each serving member).2⟩
  exact converse_callsIn (generation.terms context target) { world with messages }

theorem generate_generated (scope : Nat) (held : world.store.Holds target) (spared : generation.SparedBy context target) :
    Generated context generation target world (generate context generation scope target world).2
      (generation.log context scope target world) ∧
    ((generate context generation scope target world).1 = .ok () →
      (generate context generation scope target world).2.warnings = world.warnings ++
        generation.warning ((generation.log context scope target world).filter (generation.keeps context target))) := by
  have same := renderTemplates_same scope generation.messages world
  unfold Generation.log
  cases rendered : renderTemplates scope generation.messages world with
  | mk outcome after =>
    -- Rendering changes nothing: the conversation starts in the same world, but for its messages.
    rw [rendered] at same
    dsimp only at same
    subst same
    cases outcome with
    | error error =>
      rw [generate_unrendered rendered]
      refine ⟨⟨.refl _, ?_, rfl, by simp⟩, nofun⟩
      rw [World.since_self]
      rfl
    | ok messages =>
      rw [generate_rendered rendered]
      have start : World.store { after with messages } |>.Holds target := held
      have generated := conversation_generated messages held spared
      have stored := generation_produced start spared
      have quiet := (course_spanned warnings_spansRounds
        (converse_course (generation.terms context target) { after with messages })).1
      dsimp only
      generalize servingsFrom (generation.terms context target) { after with messages } = log at generated stored
      cases ran : converse (generation.terms context target) { after with messages } with
      | mk result middle =>
        rw [ran] at generated stored quiet
        cases result with
        | error error =>
          rw [bind_error ran]
          exact ⟨generated, nofun⟩
        | ok n =>
          have counted : produced generation.tool.name (middle.history.drop after.history.length) =
            log.any (generation.keeps context target) := stored
          rw [bind_ok ran, read_bind, counted]
          cases kept : log.any (generation.keeps context target) with
          | true =>
            refine ⟨generated, fun _ => ?_⟩
            rw [Generation.warning_filter, kept]
            exact quiet.trans (List.append_nil _).symm
          | false =>
            refine ⟨generated.warned _, fun _ => ?_⟩
            have last : (middle.record (.warned (nothingProducedMessage generation.store))).warnings =
                middle.warnings ++ [nothingProducedMessage generation.store] := by simp [World.warnings]
            rw [Generation.warning_filter, kept]
            exact last.trans (congrArg (· ++ _) quiet)

/-- What a generation leaves in the scope that it is run in, however it ends. The scope is where it was, and binds what it
did but for the name of the generation; that name holds the value that the last kept call offered, or what it held
before if no call was kept. A generation that ends well has warned exactly if no call was kept. -/
theorem generate_stores (context : Context Handler) (generation : Generation) (scope : Nat) (world : World)
    (inside : scope < world.store.scopes.length) (spared : generation.SparedBy context (.scope scope)) :
    let after := (statement context scope (.generate generation) world).2
    let log := generation.log context world.store.scopes.length (.scope scope) (world.opened scope)
    let kept := log.filter (generation.keeps context (.scope scope))
    callsIn (world.since after) = log.map Serving.call ∧
      after.store.scopeAt scope =
        { world.store.scopeAt scope with bindings := generation.leaves kept (world.store.bindingsOf scope) } ∧
      (∀ last, kept.getLast? = some last →
        (last.offered generation).store.view (generation.itemOf last) = generation.valueOf last.call ∧
        ((∀ entry ∈ commitsIn (last.before.since after), ∀ id, entry.2.target = .record id →
            id < last.before.store.records.length) →
          after.store.view (generation.itemOf last) = generation.valueOf last.call) ∧
        ∀ json, Json.read? last.call.arguments = some json →
          generation.valueOf last.call = generation.tool.unwrap (.ofJson json)) ∧
      ((statement context scope (.generate generation) world).1 = .ok () →
        after.warnings = world.warnings ++ generation.warning kept) := by
  intro after log kept
  have here : world.store.Holds (.scope scope) := inside
  have extended : world.store.Extends (world.opened scope).store :=
    Store.openScope_extends world.store (some scope) []
  have opened : Accounted world (world.opened scope) :=
    .of_extends extended (.of_history (List.append_nil _).symm (by simp))
  obtain ⟨generated, warned⟩ := generate_generated world.store.scopes.length (extended.holds here) spared
  have accounted : Accounted world after := opened.trans generated.accounted
  refine ⟨generated.calls, ?_, fun last isLast => ⟨?_, fun undisturbed => ?_, fun json read => ?_⟩, warned⟩
  · have bindings := generated.contents
    rw [extended.contents here] at bindings
    have enclosing := accounted.enclosing scope inside
    calc after.store.scopeAt scope
        = ⟨(after.store.scopeAt scope).enclosing, after.store.contents (.scope scope)⟩ := rfl
      _ = ⟨(world.store.scopeAt scope).enclosing, generation.leaves kept (world.store.bindingsOf scope)⟩ := by
        rw [enclosing]
        exact congrArg _ bindings
  · exact Store.view_place (fun _ _ _ => rfl) (Nat.le_refl _)
  · have member := List.mem_filter.mp (List.mem_of_getLast? isLast)
    exact kept_value member.2 (generated.each last member.1) undisturbed
  · rw [Generation.valueOf, ToolCall.given_of_read read]

end Generate

/-! A model that offers two titles, with a note in between that has it go on: the second title replaces the first, and
with it the one that was there before. -/

/-- A handler that asks for another round and wants nothing written. -/
def noteHandler : Handler := .host "note" fun _ _ _ => .act (.loop (.leaf .null) none)

/-- A context with a handler for notes. -/
def noteContext : Context Handler := ⟨"openai:gpt-4o", [], [("note", noteHandler)]⟩

/-- A generation of a title. -/
def titleGeneration : Generation := ⟨"title", ⟨"title", none, .ofKind "string", none⟩, [], false⟩

/-- A reply with some calls. -/
def calling (calls : List ToolCall) : Reply :=
  .native ⟨none, none, none, none, [⟨none, ⟨.assistant, none, some calls, none⟩⟩]⟩

/-- A scope with a working title, and a model that offers two others. -/
def titleWorld : World :=
  .start ⟨[], [⟨[], [("title", .leaf (.text "Working title"))]⟩]⟩
    [calling [⟨"c1", "title", "\x7b\"input\": \"Tides\"\x7d"⟩, ⟨"c2", "note", ""⟩],
      calling [⟨"c3", "title", "\x7b\"input\": \"Moon\"\x7d"⟩]] []

theorem note_spares (target : Item) : noteHandler.Spares target := by
  intro arguments world action resolved commit wanted wants
  change Handler.serve "note" (fun _ _ _ => .act (.loop (.leaf .null) none)) arguments world = _ at wanted
  rcases Handler.serve_wants wanted with acts | ⟨id, hands, _⟩
  · cases acts
    cases wants
  · cases hands

theorem note_context_spares (target : Item) : noteContext.Spares target := by
  intro name handler found
  by_cases same : "note" = name
  · simp only [noteContext, Fields.get?, same, beq_self_eq_true, if_true, Option.some.injEq] at found
    rw [← found]
    exact note_spares target
  · simp [noteContext, Fields.get?, same] at found

theorem title_spared : titleGeneration.SparedBy noteContext (.scope 0) := .of_spares _ (note_context_spares _)

theorem generate_stores_title : 0 < titleWorld.store.scopes.length ∧ titleGeneration.SparedBy noteContext (.scope 0) ∧
    ∃ last : Serving, last.call.id = "c3" ∧ titleGeneration.valueOf last.call = .text "Moon" ∧
      (statement noteContext 0 (.generate titleGeneration) titleWorld).2.store.bindingsOf 0 =
        [("title", titleGeneration.itemOf last)] := by
  have inside : 0 < titleWorld.store.scopes.length := by decide
  obtain ⟨_, stores, offers, _⟩ := generate_stores noteContext titleGeneration 0 titleWorld inside title_spared
  have kept : (((titleGeneration.log noteContext titleWorld.store.scopes.length (.scope 0) (titleWorld.opened 0)).filter
      (titleGeneration.keeps noteContext (.scope 0))).map Serving.call).getLast? =
        some ⟨"c3", "title", "\x7b\"input\": \"Moon\"\x7d"⟩ := by decide +kernel
  rw [List.getLast?_map, Option.map_eq_some_iff] at kept
  obtain ⟨last, isLast, called⟩ := kept
  obtain ⟨_, _, read⟩ := offers last isLast
  refine ⟨inside, title_spared, last, by rw [called], ?_, ?_⟩
  · exact read (.object [("input", .text "Moon")]) (by rw [called]; rfl)
  · have bindings := congrArg Scope.bindings stores
    rw [Generation.leaves, isLast] at bindings
    exact bindings

end Run
end Colloquy
