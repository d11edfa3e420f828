import Colloquy.Proofs.Script.Requests

/-! Generations for several records. Each record that is listed has a generation of its own, in a scope with the members
that the record has by then; what is kept in it goes into that very record, and into nothing else. So a record that is
listed several times is seen, and written into, as often; and one that is not reached stays as it was. -/
namespace Colloquy

namespace Generation
variable (generation : Generation) (context : Context Handler) (scope : Nat)

/-- The calls that are kept in the generation for a record that is reached. -/
def keptFor (visit : Run.Visit Unit Nat) : List Run.Serving :=
  (generation.log context visit.before.store.scopes.length (.record visit.item)
    (visit.before.entering scope visit.item)).filter (generation.keeps context (.record visit.item))

/-- The calls that are kept for a target: those of the generations that are for this very target. -/
def keptIn (log : List (Run.Visit Unit Nat)) (target : Item) : List Run.Serving :=
  log.flatMap fun visit => if (Item.record visit.item).isSame target then generation.keptFor context scope visit else []

/-- What a kept call has written into a target. -/
def entryOf (target : Item) (serving : Run.Serving) : ToolCall × Commit :=
  (serving.call, ⟨target, generation.store, generation.itemOf serving, true⟩)

/-- What several generations leave, one after another, is what the last kept call of all of them leaves. -/
theorem foldl_leaves_flatMap {α : Type} (items : List α) (kept : α → List Run.Serving) (contents : Fields Item) :
    items.foldl (fun contents item => generation.leaves (kept item) contents) contents =
      generation.leaves (items.flatMap kept) contents := by
  have each : ∀ contents item, generation.leaves (kept item) contents = (kept item).foldl
      (fun contents serving => contents.put generation.store (generation.itemOf serving)) contents :=
    fun contents item => (generation.foldl_leaves (kept item) contents).symm
  rw [← generation.foldl_leaves, List.foldl_flatMap]
  simp only [each]

end Generation

namespace Run
variable {context : Context Handler} {generation : Generation} {scope : Nat} {target : Item} {world : World}

/-! ## The commits of a generation -/

/-- The commits that are made for calls of the generation's own tool. -/
def ownCommits (generation : Generation) (events : List Event) : List (ToolCall × Commit) :=
  (commitsIn events).filter fun entry => entry.1.name == generation.tool.name

theorem serving_ownCommits {serving : Serving} (held : serving.before.store.Holds target)
    (spared : generation.SparedBy context target) :
    ownCommits generation (serving.events (generation.terms context target).context) =
      if generation.keeps context target serving then [generation.entryOf target serving] else [] := by
  unfold ownCommits
  by_cases own : serving.call.name = generation.tool.name
  · rw [own_commits own held]
    cases kept : generation.keeps context target serving with
    | false => rfl
    | true => simp [own, Generation.entryOf]
  · have notKept : generation.keeps context target serving = false := by simp [Generation.keeps, own]
    rw [notKept, List.filter_eq_nil_iff.mpr fun entry member => ?_]
    · rfl
    · simpa using (other_commits own spared entry member).1

theorem servings_ownCommits {log : List Serving} (held : ∀ serving ∈ log, serving.before.store.Holds target)
    (spared : generation.SparedBy context target) :
    (log.flatMap fun serving => ownCommits generation (serving.events (generation.terms context target).context)) =
      (log.filter (generation.keeps context target)).map (generation.entryOf target) := by
  induction log with
  | nil => rfl
  | cons serving rest ih =>
    rw [List.flatMap_cons, serving_ownCommits (held serving List.mem_cons_self) spared,
      ih fun other member => held other (List.mem_cons_of_mem _ member)]
    cases kept : generation.keeps context target serving with
    | false => simp [kept]
    | true => simp [kept]

/-- In a generation exactly the calls of its own tool that are kept are committed, each once and in order. -/
theorem generate_ownCommits (scope : Nat) (held : world.store.Holds target)
    (spared : generation.SparedBy context target) :
    ownCommits generation (world.since (generate context generation scope target world).2) =
      ((generation.log context scope target world).filter (generation.keeps context target)).map
        (generation.entryOf target) := by
  have same := renderTemplates_same scope generation.messages world
  unfold Generation.log
  cases rendered : renderTemplates scope generation.messages world with
  | mk outcome after =>
    rw [rendered] at same
    dsimp only at same
    subst same
    cases outcome with
    | error error =>
      rw [generate_unrendered rendered, World.since_self]
      rfl
    | ok messages =>
      have course := converse_course (generation.terms context target) { after with messages }
      have start : World.store { after with messages } |>.Holds target := held
      have commits : ownCommits generation
          (after.since (converse (generation.terms context target) { after with messages }).2) =
          ((servingsFrom (generation.terms context target) { after with messages }).filter
            (generation.keeps context target)).map (generation.entryOf target) := by
        have all := course_commits course
        rw [← servings_ownCommits (generation_held start) spared]
        unfold ownCommits
        rw [← List.filter_flatMap]
        exact congrArg (List.filter fun entry => entry.1.name == generation.tool.name) all
      obtain ⟨warnings, written⟩ := generate_since rendered
      have quiet : commitsIn (warnings.map .warned) = [] := commitsIn_none (by simp [Event.isCommit])
      rw [written]
      unfold ownCommits at commits ⊢
      rw [commitsIn_append, quiet, List.append_nil]
      exact commits

/-! ## What the generations leave -/

section Iterations
variable {ids : List Nat} {log : List (Visit Unit Nat)} {after : World} {result : Except RunError Unit}

/-- The run of one generation for each record. -/
abbrev Iterations (context : Context Handler) (generation : Generation) (scope : Nat) :=
  Through fun (_ : Unit) => iteration context generation scope

/-- What one generation leaves in a target. -/
theorem iteration_contents (visit : Visit Unit Nat) (held : visit.before.store.Holds target)
    (spared : generation.SparedBy context target) :
    (visit.after fun _ => iteration context generation scope).store.contents target =
      generation.leaves (if (Item.record visit.item).isSame target then generation.keptFor context scope visit else [])
        (visit.before.store.contents target) := by
  have extended := (entering_opens visit.before scope visit.item).extended
  cases same : (Item.record visit.item).isSame target with
  | true =>
    -- The target is the record of the generation itself.
    obtain rfl := Item.eq_of_isSame same
    obtain ⟨generated, _⟩ := generate_generated visit.before.store.scopes.length (extended.holds held) spared
    have stored := generated.contents
    rw [extended.contents held] at stored
    exact stored
  | false => exact (iteration_preserves same spared visit.before held).2

theorem iterations_advance (course : Iterations context generation scope () world ids log result after) :
    Advances scope world after ∧ ∀ visit ∈ log, Advances scope world visit.before ∧
      Advances scope (visit.after fun _ => iteration context generation scope) after :=
  through_spanned Advances.refl Advances.trans course fun visit _ =>
    iteration_advances context generation scope visit.item visit.before

/-- The generations keep what is none of their records. -/
theorem iterations_preserve (course : Iterations context generation scope () world ids log result after)
    (apart : ∀ visit ∈ log, (Item.record visit.item).isSame target = false)
    (spared : generation.SparedBy context target) :
    Preserves target world after ∧ ∀ visit ∈ log, Preserves target world visit.before ∧
      Preserves target (visit.after fun _ => iteration context generation scope) after :=
  through_spanned Preserves.refl Preserves.trans course fun visit member =>
    iteration_preserves (apart visit member) spared visit.before

/-- What the generations leave in a target: what the last call leaves that was kept for it. -/
theorem iterations_contents (course : Iterations context generation scope () world ids log result after)
    (held : world.store.Holds target) (spared : generation.SparedBy context target) :
    after.store.contents target =
      generation.leaves (generation.keptIn context scope log target) (world.store.contents target) := by
  have there : ∀ visit ∈ log, visit.before.store.Holds target :=
    fun visit member => ((iterations_advance course).2 visit member).1.holds target held
  have folded := through_folds (fun world => world.store.contents target) (fun visit contents =>
    generation.leaves (if (Item.record visit.item).isSame target then generation.keptFor context scope visit else [])
      contents) course fun visit member => iteration_contents visit (there visit member) spared
  rw [folded]
  exact generation.foldl_leaves_flatMap log _ _

/-- Nothing is kept in a target that is none of the records reached. -/
theorem keptIn_none (absent : ∀ visit ∈ log, (Item.record visit.item).isSame target = false) :
    generation.keptIn context scope log target = [] := by
  refine List.flatMap_eq_nil_iff.mpr fun visit member => ?_
  rw [absent visit member]
  rfl

/-- A scope is where it was, and binds what it did. -/
theorem iterations_scope (course : Iterations context generation scope () world ids log result after) {id : Nat}
    (inside : id < world.store.scopes.length) (spared : generation.SparedBy context (.scope id)) :
    after.store.scopeAt id = world.store.scopeAt id := by
  have held : world.store.Holds (.scope id) := inside
  have contents := iterations_contents course held spared
  rw [keptIn_none fun _ _ => rfl] at contents
  exact Store.scopeAt_ext ((iterations_advance course).1.enclosing id inside) contents

/-- A scope and those around it are there, and no other handler commits into them. -/
def Undisturbed (context : Context Handler) (generation : Generation) (store : Store) (scope : Nat) : Prop :=
  ∀ id ∈ store.chain scope, id < store.scopes.length ∧ generation.SparedBy context (.scope id)

theorem iterations_lookup (course : Iterations context generation scope () world ids log result after)
    (undisturbed : Undisturbed context generation world.store scope) (name : String) :
    after.store.lookup scope name = world.store.lookup scope name := by
  refine Store.lookup_congr (fun id member => ?_) name
  obtain ⟨inside, spared⟩ := undisturbed id member
  exact iterations_scope course inside spared

/-- What a generation for a record sees that is reached after some others: the members that the record has by then, and
behind them what its surroundings saw at the start. -/
structure Sees (context : Context Handler) (generation : Generation) (scope : Nat) (world : World)
    (visit : Visit Unit Nat) : Prop where
  own : scope < world.store.scopes.length →
    (visit.before.entering scope visit.item).store.scopeAt visit.before.store.scopes.length =
      ⟨world.store.chain scope, visit.before.store.membersOf visit.item⟩
  sees : Undisturbed context generation world.store scope → ∀ name,
    (visit.before.entering scope visit.item).store.lookup visit.before.store.scopes.length name =
      ((visit.before.store.membersOf visit.item).get? name).or (world.store.lookup scope name)
  sends : Sends (generation.terms context (.record visit.item)) generation.messages
    ((visit.before.entering scope visit.item).store.valueOf visit.before.store.scopes.length) visit.before.replies
    (visit.events fun _ => iteration context generation scope)

theorem iterations_sees (course : Iterations context generation scope () world ids log result after)
    {early late : List (Visit Unit Nat)} {visit : Visit Unit Nat} (split : log = early ++ visit :: late) :
    Sees context generation scope world visit := by
  have before := through_upTo course split
  obtain ⟨advances, _⟩ := iterations_advance before
  refine ⟨fun inside => ?_, fun undisturbed name => ?_, iteration_sends context generation scope visit.item visit.before⟩
  · have opened := (entering_opens visit.before scope visit.item).own
    rw [advances.chain inside] at opened
    exact opened
  · have inside : scope < world.store.scopes.length := (undisturbed scope List.mem_cons_self).1
    have enclosed : ∀ id ∈ visit.before.store.chain scope, id < visit.before.store.scopes.length := by
      rw [advances.chain inside]
      exact fun id member => Nat.lt_of_lt_of_le (undisturbed id member).1 advances.scopes_le
    rw [← iterations_lookup before undisturbed name]
    exact Store.openScope_lookup visit.before.store _ scope enclosed name

/-- What the generations for several records come to, in the order in which they are reached. A target keeps its contents
but for the name of the generation; under it there is the value of the last call that was kept for this very target, at
the end and when any of the records is reached. What is kept for a record are the commits that its generations applied.
A scope, and a record that is not reached, stay as they were. -/
structure Iterated (context : Context Handler) (generation : Generation) (scope : Nat) (ids : List Nat)
    (log : List (Visit Unit Nat)) (world : World) (result : Except RunError Unit) (after : World) : Prop where
  inOrder : InOrder (fun _ => iteration context generation scope) ids log result
  contents : ∀ target, world.store.Holds target → generation.SparedBy context target →
    after.store.contents target =
      generation.leaves (generation.keptIn context scope log target) (world.store.contents target)
  reached : ∀ early visit late, log = early ++ visit :: late → ∀ target, world.store.Holds target →
    generation.SparedBy context target → visit.before.store.contents target =
      generation.leaves (generation.keptIn context scope early target) (world.store.contents target)
  kept : ∀ visit ∈ log, world.store.Holds (.record visit.item) → generation.SparedBy context (.record visit.item) →
    ownCommits generation (visit.events fun _ => iteration context generation scope) =
      (generation.keptFor context scope visit).map (generation.entryOf (.record visit.item))
  values : ∀ visit ∈ log, ∀ serving ∈ generation.keptFor context scope visit,
    (serving.offered generation).store.view (generation.itemOf serving) = generation.valueOf serving.call
  scopes : ∀ id, id < world.store.scopes.length → generation.SparedBy context (.scope id) →
    after.store.scopeAt id = world.store.scopeAt id
  others : ∀ id, id < world.store.records.length → generation.SparedBy context (.record id) →
    id ∉ log.map Visit.item → after.store.membersOf id = world.store.membersOf id
  lookup : Undisturbed context generation world.store scope → ∀ name,
    after.store.lookup scope name = world.store.lookup scope name
  sees : ∀ visit ∈ log, Sees context generation scope world visit

theorem iterations_iterated (course : Iterations context generation scope () world ids log result after) :
    Iterated context generation scope ids log world result after where
  inOrder := through_inOrder course
  contents target held spared := iterations_contents course held spared
  reached early visit late split target held spared := iterations_contents (through_upTo course split) held spared
  kept visit member held spared := by
    have there := ((iterations_advance course).2 visit member).1.holds _ held
    have extended := (entering_opens visit.before scope visit.item).extended
    exact generate_ownCommits visit.before.store.scopes.length (extended.holds there) spared
  values visit member serving _ := Store.view_place (fun _ _ _ => rfl) (Nat.le_refl _)
  scopes id inside spared := iterations_scope course inside spared
  others id inside spared absent := by
    have held : world.store.Holds (.record id) := inside
    have left := iterations_contents course held spared
    have apart : ∀ visit ∈ log, (Item.record visit.item).isSame (.record id) = false :=
      fun visit member => beq_false_of_ne fun same => absent (List.mem_map.mpr ⟨visit, member, same⟩)
    rw [keptIn_none apart] at left
    exact left
  lookup undisturbed name := iterations_lookup course undisturbed name
  sees visit member := by
    obtain ⟨early, late, split⟩ := List.append_of_mem member
    exact iterations_sees course split

end Iterations

/-- A statement that has something generated for each of several records. If nothing is bound under the name of the
records, or anything but a sequence of records, it fails, and nothing happens and nothing changes. Otherwise there is one
generation for each record, in the order in which they are listed and as often, until one fails. -/
theorem each_iterates (context : Context Handler) (source : String) (generation : Generation) (scope : Nat)
    (world : World) :
    (world.store.lookup scope source = none →
      statement context scope (.each source generation) world = (.error (.binding ⟨source, none⟩), world)) ∧
    (∀ item, world.store.lookup scope source = some item → (∀ ids : List Nat, item.elements? ≠ some (ids.map .record)) →
      statement context scope (.each source generation) world =
        (.error (.binding ⟨source, some "expected a sequence of records"⟩), world)) ∧
    ∀ item ids, world.store.lookup scope source = some item → item.elements? = some (ids.map Item.record) →
      Iterated context generation scope ids (eachLog context generation scope ids world) world
        (statement context scope (.each source generation) world).1
        (statement context scope (.each source generation) world).2 := by
  have ran := each_ran context source generation scope world
  refine ⟨fun missing => ?_, fun item bound others => ?_, fun item ids bound listed => ?_⟩
  · rw [ran, Store.requireRecords_unbound missing]
  · rw [ran, Store.requireRecords_unfit bound others]
  · rw [ran, Store.requireRecords_listed bound listed]
    exact iterations_iterated (generateEach_course context generation scope ids world)

/-! A list of works in which one record stands twice. Its second generation replaces the title that the first one found. -/

/-- A generation of a title that says what is wanted. -/
def askedGeneration : Generation := { titleGeneration with messages := [⟨.user, [.text "Find a title."]⟩] }

/-- Two works, the first of which is listed again at the end, and a model that offers three titles. -/
def worksWorld : World :=
  .start ⟨[[("name", .leaf (.text "Tides"))], [("name", .leaf (.text "Moons"))]],
      [⟨[], [("works", .list [.record 0, .record 1, .record 0])]⟩]⟩
    [calling [⟨"c1", "title", "\x7b\"input\": \"Ebb\"\x7d"⟩], calling [⟨"c2", "title", "\x7b\"input\": \"Full\"\x7d"⟩],
      calling [⟨"c3", "title", "\x7b\"input\": \"Flood\"\x7d"⟩]] []

theorem each_iterates_works :
    worksWorld.store.lookup 0 "works" = some (.list [.record 0, .record 1, .record 0]) ∧
    Undisturbed noteContext askedGeneration worksWorld.store 0 ∧
    ∃ last : Serving, last.call.id = "c3" ∧
      (last.offered askedGeneration).store.view (askedGeneration.itemOf last) = .text "Flood" ∧
      (statement noteContext 0 (.each "works" askedGeneration) worksWorld).2.store.membersOf 0 =
        [("name", .leaf (.text "Tides")), ("title", askedGeneration.itemOf last)] ∧
      (statement noteContext 0 (.each "works" askedGeneration) worksWorld).2.store.lookup 0 "works" =
        some (.list [.record 0, .record 1, .record 0]) := by
  have bound : worksWorld.store.lookup 0 "works" = some (.list [.record 0, .record 1, .record 0]) := rfl
  have spared : ∀ target, askedGeneration.SparedBy noteContext target :=
    fun target => .of_spares _ (note_context_spares target)
  have undisturbed : Undisturbed noteContext askedGeneration worksWorld.store 0 := by
    intro id member
    obtain rfl : id = 0 := by simpa [worksWorld, World.start, Store.chain, Store.scopeAt] using member
    exact ⟨by decide, spared _⟩
  have iterated := (each_iterates noteContext "works" askedGeneration 0 worksWorld).2.2 _ [0, 1, 0] bound rfl
  have held : worksWorld.store.Holds (.record 0) := by
    change 0 < 2
    decide
  have calls : ((askedGeneration.keptIn noteContext 0 (eachLog noteContext askedGeneration 0 [0, 1, 0] worksWorld)
      (.record 0)).map Serving.call).getLast? = some ⟨"c3", "title", "\x7b\"input\": \"Flood\"\x7d"⟩ := by decide +kernel
  rw [List.getLast?_map, Option.map_eq_some_iff] at calls
  obtain ⟨last, isLast, called⟩ := calls
  have read : Json.read? last.call.arguments = some (.object [("input", .text "Flood")]) := by
    rw [called]
    rfl
  have offered : askedGeneration.valueOf last.call = .text "Flood" := by
    rw [Generation.valueOf, ToolCall.given_of_read read]
    rfl
  refine ⟨bound, undisturbed, last, by rw [called], ?_, ?_, ?_⟩
  · obtain ⟨visit, member, kept⟩ := List.mem_flatMap.mp (List.mem_of_getLast? isLast)
    split at kept
    · rw [← offered]
      exact iterated.values visit member last kept
    · cases kept
  · have contents := iterated.contents (.record 0) held (spared _)
    rw [Generation.leaves, isLast] at contents
    exact contents
  · rw [iterated.lookup undisturbed, bound]

end Run
end Colloquy
