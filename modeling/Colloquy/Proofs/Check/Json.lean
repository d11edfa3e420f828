import Colloquy.Check.Json
import Colloquy.Proofs.Store.Fields

/-! Data as JSON. Trying every kind of JSON on every part of data, and keeping the reading that fits best, comes down to
what the data says on its own: JSON is read as itself at every depth, and data that says no JSON is refused with one
complaint about the whole. -/
namespace Colloquy

/-- A value that is JSON, of the very kinds that JSON has; no mapping has a name twice. -/
inductive Value.IsJson : Value → Prop where
  | null : IsJson .null
  | bool (b : Bool) : IsJson (.bool b)
  | int (n : Int) : IsJson (.int n)
  | float (x : Float) : IsJson (.float x)
  | text (s : String) : IsJson (.text s)
  | list {items : List Value} (each : ∀ item ∈ items, IsJson item) : IsJson (.list items)
  | mapping {fields : List (String × Value)} (once : (Fields.names fields).Nodup)
      (each : ∀ entry ∈ fields, IsJson entry.2) : IsJson (.mapping fields)

theorem Value.ofItems_eq (items : List Json) : Value.ofItems items = items.map Value.ofJson := by
  induction items with
  | nil => rfl
  | cons item rest ih => rw [Value.ofItems, ih, List.map_cons]

theorem Value.ofFields_eq (fields : List (String × Json)) :
    Value.ofFields fields = fields.map fun entry => (entry.1, Value.ofJson entry.2) := by
  induction fields with
  | nil => rfl
  | cons entry rest ih => rw [Value.ofFields, ih, List.map_cons]

theorem Value.names_ofFields (fields : List (String × Json)) :
    Fields.names (Value.ofFields fields) = Fields.names fields := by
  rw [ofFields_eq, Fields.names, List.map_map]
  rfl

namespace Check

/-- The text that a name is. -/
def nameOf? : Value → Option String
  | .text s | .safe s => some s
  | .bytes data => decodeBytes data
  | _ => none

namespace Datum

mutual

/-- The JSON that data says, if it says any. -/
def says? : Datum → Option Json
  | whole .null => some .null
  | whole (.bool b) => some (.bool b)
  | whole (.int n) => some (.int n)
  | whole (.float x) => some (.float x)
  | whole (.text s) | whole (.safe s) => some (.text s)
  | whole (.bytes data) => (decodeBytes data).map .text
  | whole _ => none
  | sequence _ items => (saysItems? items).map .list
  | mapping entries => (saysEntries? entries).map fun members => .object (Fields.ofPairs members)

/-- What several parts say, if each of them says something. -/
def saysItems? : List Datum → Option (List Json)
  | [] => some []
  | item :: rest => do return (← says? item) :: (← saysItems? rest)

/-- What stands under names that are texts, if each of them says something. -/
def saysEntries? : List (Value × Datum) → Option (List (String × Json))
  | [] => some []
  | (name, datum) :: rest => do return (← nameOf? name, ← says? datum) :: (← saysEntries? rest)

end

end Datum

/-! ## The best reading -/

section Best
variable {α : Type} {before after outcomes : List (Checked (Fitted α))} {found : Fitted α}

/-- The better of two readings is one of them. -/
theorem eq_of_better {first second : Checked (Fitted α)} (chosen : better first second = .ok found) :
    first = .ok found ∨ second = .ok found := by
  cases first with
  | error issues =>
    cases second with
    | error more => cases chosen
    | ok other => exact .inr chosen
  | ok here =>
    cases second with
    | error issues => exact .inl chosen
    | ok other =>
      rw [better] at chosen
      split at chosen
      · exact .inr chosen
      · exact .inl chosen

theorem mem_of_best (chosen : best outcomes = .ok found) : .ok found ∈ outcomes := by
  induction outcomes with
  | nil => cases chosen
  | cons first rest ih =>
    rcases eq_of_better chosen with rfl | later
    · exact List.mem_cons_self
    · exact List.mem_cons_of_mem _ (ih later)

/-- A reading is the best one if all before it fit worse and none after it fits better. -/
theorem best_eq (worse : ∀ other, .ok other ∈ before → other.fit.rank < found.fit.rank)
    (notBetter : ∀ other, .ok other ∈ after → other.fit.rank ≤ found.fit.rank) :
    best (before ++ .ok found :: after) = .ok found := by
  induction before with
  | nil =>
    rw [List.nil_append, best]
    cases later : best after with
    | error issues => rfl
    | ok other => rw [better, if_neg (Nat.not_lt.mpr (notBetter other (mem_of_best later)))]
  | cons first rest ih =>
    have onward := ih fun other member => worse other (List.mem_cons_of_mem _ member)
    rw [List.cons_append, best, onward]
    cases first with
    | error issues => rfl
    | ok other => rw [better, if_pos (worse other List.mem_cons_self)]

end Best

/-! ## Accepted or refused -/

section Outcomes
variable {α β : Type}

/-- What is there is accepted; if nothing is, the whole is refused with one complaint. -/
def verdict : Option α → Checked α
  | some a => .ok a
  | none => .complain .invalidJson

@[simp] theorem verdict_eq_ok_iff {found : Option α} {a : α} : verdict found = .ok a ↔ found = some a := by
  cases found <;> simp [verdict, Checked.complain]

@[simp] theorem verdict_eq_error_iff {found : Option α} {issues : List Issue} :
    verdict found = .error issues ↔ found = none ∧ issues = [⟨.invalidJson, []⟩] := by
  cases found <;> simp [verdict, Checked.complain, eq_comm]

theorem asOneIssue_verdict (outcome : Checked α) : asOneIssue outcome = verdict outcome.toOption := by
  cases outcome <;> rfl

@[simp] theorem toOption_asOneIssue (outcome : Checked α) : (asOneIssue outcome).toOption = outcome.toOption := by
  cases outcome <;> rfl

@[simp] theorem toOption_map (outcome : Checked α) (f : α → β) :
    (outcome.map f).toOption = outcome.toOption.map f := by
  cases outcome <;> rfl

@[simp] theorem toOption_within (outcome : Checked α) (step : Step) :
    (outcome.within step).toOption = outcome.toOption := by
  cases outcome <;> rfl

@[simp] theorem toOption_both (first : Checked α) (second : Checked β) : (Checked.both first second).toOption =
    first.toOption.bind fun a => second.toOption.map fun b => (a, b) := by
  cases first <;> cases second <;> rfl

theorem toOption_all (outcomes : List (Checked α)) :
    (Checked.all outcomes).toOption = outcomes.mapM Except.toOption := by
  induction outcomes with
  | nil => rfl
  | cons first rest ih =>
    rw [Checked.all, toOption_map, toOption_both, ih, List.mapM_cons]
    cases first <;> cases rest.mapM Except.toOption <;> rfl

theorem toOption_allIndexed (outcomes : List (Checked α)) :
    (Checked.allIndexed outcomes).toOption = outcomes.mapM Except.toOption := by
  have placed (i : Nat) : ((outcomes.zipIdx i).map fun entry => entry.1.within (.index entry.2)).mapM Except.toOption =
      outcomes.mapM Except.toOption := by
    induction outcomes generalizing i with
    | nil => rfl
    | cons first rest ih => rw [List.zipIdx_cons, List.map_cons, List.mapM_cons, List.mapM_cons, ih, toOption_within]
  rw [Checked.allIndexed, toOption_all]
  exact placed 0

end Outcomes

/-! ## Kinds of JSON -/

section Kinds
variable {kind : ScalarKind} {found : Json}

theorem fit_of_readFrom {value : Value} {step : Step} {other : Fitted Json}
    (read : (kind.readFrom (some value)).within step = .ok other) : other.fit = kind.fit value := by
  rw [ScalarKind.readFrom] at read
  cases inner : kind.read value with
  | error issues =>
    rw [inner] at read
    cases read
  | ok found =>
    rw [inner] at read
    cases read
    rfl

/-- A value without parts is read as a kind if it fits the kinds that come first worse and the later ones no better. -/
theorem bestKind_whole (value : Value) (before : List ScalarKind) (kind : ScalarKind) (after : List ScalarKind)
    (split : scalarKinds = before ++ kind :: after) (read : kind.read value = .ok found)
    (worse : (before.all fun other => (other.fit value).rank < (kind.fit value).rank) = true)
    (notBetter : (after.all fun other => (other.fit value).rank ≤ (kind.fit value).rank) = true) :
    bestKind (.complain .dictType) (.complain .listType) (some value) = .ok ⟨found, kind.fit value⟩ := by
  have here : (kind.readFrom (some value)).within (.name kind.name) = .ok ⟨found, kind.fit value⟩ := by
    rw [ScalarKind.readFrom, read]
    rfl
  simp only [List.all_eq_true, decide_eq_true_eq] at worse notBetter
  rw [bestKind, split, List.map_append, List.map_cons, here, ← List.cons_append, ← List.cons_append]
  refine best_eq (fun other member => ?_) fun other member => ?_
  · rcases List.mem_cons.mp member with dict | member
    · cases dict
    · rcases List.mem_cons.mp member with list | member
      · cases list
      · obtain ⟨another, earlier, same⟩ := List.mem_map.mp member
        rw [fit_of_readFrom same]
        exact worse another earlier
  · obtain ⟨another, later, same⟩ := List.mem_map.mp member
    rw [fit_of_readFrom same]
    exact notBetter another later

/-- What has parts is none of the kinds without parts. -/
theorem bestKind_list (asList : Checked (Fitted Json)) :
    (bestKind (.complain .dictType) asList none).toOption = asList.toOption := by
  cases asList <;> rfl

theorem bestKind_mapping (asMapping : Checked (Fitted Json)) :
    (bestKind asMapping (.complain .listType) none).toOption = asMapping.toOption := by
  cases asMapping <;> rfl

end Kinds

/-! ## What data says -/

namespace Datum

/-- A value that fits a kind best is read as that kind. -/
theorem read_as {value : Value} {kind : ScalarKind} {found : Json}
    (chosen : bestKind (.complain .dictType) (.complain .listType) (some value) = .ok ⟨found, kind.fit value⟩)
    (visible : value ≠ .null) : (whole value).read.toOption.map Fitted.value = some found := by
  rw [read, chosen]
  · rfl
  · exact fun null => visible null

/-- Bytes are read as the text that they encode; if they encode none, they are no numeral and no word either. -/
theorem read_bytes (data : List UInt8) :
    (whole (.bytes data)).read.toOption.map Fitted.value = (decodeBytes data).map .text := by
  cases decoded : decodeBytes data with
  | some s =>
    have read : textKind.read (.bytes data) = .ok (.text s) := by
      simp [textKind, text, decoded, Except.map]
    exact read_as (bestKind_whole (.bytes data) [] textKind [intKind, floatKind, boolKind] rfl read rfl rfl) nofun
  | none =>
    rw [read, toOption_asOneIssue]
    · simp [bestKind, scalarKinds, ScalarKind.readFrom, textKind, intKind, floatKind, boolKind, text, int, float, bool,
        decoded, best, better, Checked.complain, Checked.within, Except.map, Except.mapError, Except.toOption]
    · nofun

/-- A value that is looked at as a whole is read as what it says. -/
theorem read_whole (value : Value) : (whole value).read.toOption.map Fitted.value = (whole value).says? := by
  cases value with
  | bool b => exact read_as (bestKind_whole (.bool b) [textKind, intKind, floatKind] boolKind [] rfl rfl rfl rfl) nofun
  | int n => exact read_as (bestKind_whole (.int n) [textKind] intKind [floatKind, boolKind] rfl rfl rfl rfl) nofun
  | float x => exact read_as (bestKind_whole (.float x) [textKind, intKind] floatKind [boolKind] rfl rfl rfl rfl) nofun
  | text s => exact read_as (bestKind_whole (.text s) [] textKind [intKind, floatKind, boolKind] rfl rfl rfl rfl) nofun
  | safe s => exact read_as (bestKind_whole (.safe s) [] textKind [intKind, floatKind, boolKind] rfl rfl rfl rfl) nofun
  | bytes data => exact read_bytes data
  | _ => rfl

theorem toOption_text (name : Value) : (text name).toOption = nameOf? name := by
  cases name with
  | bytes data =>
    rw [text, nameOf?]
    cases decodeBytes data <;> rfl
  | _ => rfl

mutual

/-- Whatever kinds are tried, data is read as what it says. -/
theorem read_says (datum : Datum) : datum.read.toOption.map Fitted.value = datum.says? := by
  match datum with
  | whole value => exact read_whole value
  | sequence fit items =>
    have each := readItems_says items
    rw [read, toOption_asOneIssue, bestKind_list, listOf, toOption_map, toOption_allIndexed, says?, ← each,
      Option.map_map, Option.map_map]
    rfl
  | mapping entries =>
    have each := readEntries_says entries
    have named : ((readEntries entries).map fun (name, outcome) =>
        (Checked.both ((text name).within (.name "[key]")) outcome).within (.ofName name)).mapM Except.toOption =
        (readEntries entries).mapM fun entry => (nameOf? entry.1).bind fun name => entry.2.toOption.map (name, ·) := by
      rw [List.mapM_map]
      congr 1
      funext entry
      simp [toOption_text]
    rw [read, toOption_asOneIssue, bestKind_mapping, objectOf, toOption_map, toOption_all, named, says?, ← each,
      Option.map_map, Option.map_map]
    rfl

theorem readItems_says (items : List Datum) :
    ((readItems items).mapM Except.toOption).map (List.map Fitted.value) = saysItems? items := by
  match items with
  | [] => rfl
  | item :: rest =>
    rw [readItems, saysItems?, List.mapM_cons, ← read_says item, ← readItems_says rest]
    cases item.read <;> cases (readItems rest).mapM Except.toOption <;> rfl

theorem readEntries_says (entries : List (Value × Datum)) :
    ((readEntries entries).mapM fun entry => (nameOf? entry.1).bind fun name => entry.2.toOption.map (name, ·)).map
      (List.map fun member => (member.1, member.2.value)) = saysEntries? entries := by
  match entries with
  | [] => rfl
  | (name, datum) :: rest =>
    rw [readEntries, saysEntries?, List.mapM_cons, ← read_says datum, ← readEntries_says rest]
    cases nameOf? name with
    | none => rfl
    | some s =>
      cases datum.read with
      | error issues => rfl
      | ok found =>
        cases (readEntries rest).mapM fun entry =>
          (nameOf? entry.1).bind fun name => entry.2.toOption.map (name, ·) <;> rfl

end

theorem read_verdict (datum : Datum) : datum.read = verdict datum.read.toOption := by
  have settled (outcome : Checked (Fitted Json)) : asOneIssue outcome = verdict (asOneIssue outcome).toOption := by
    rw [toOption_asOneIssue, asOneIssue_verdict]
  cases datum with
  | whole value => cases value <;> first | exact settled _ | rfl
  | sequence fit items => exact settled _
  | mapping entries => exact settled _

/-- Data is accepted as what it says, and refused with one complaint about the whole if it says nothing. -/
theorem json_verdict (datum : Datum) : datum.json = verdict datum.says? := by
  rw [json, read_verdict, ← read_says]
  cases datum.read.toOption <;> rfl

/-! ## JSON -/

mutual

/-- What data says is JSON. A name that is written again is written over, so it is there once. -/
theorem says_isJson (datum : Datum) {j : Json} (said : datum.says? = some j) : (Value.ofJson j).IsJson := by
  match datum with
  | whole value =>
    cases value with
    | bytes data =>
      obtain ⟨s, -, rfl⟩ := Option.map_eq_some_iff.mp said
      exact .text s
    | null | bool b | int n | float x | text s | safe s =>
      cases said
      constructor
    | _ => cases said
  | sequence fit items =>
    obtain ⟨found, each, rfl⟩ := Option.map_eq_some_iff.mp said
    rw [Value.ofJson, Value.ofItems_eq]
    exact .list (List.forall_mem_map.mpr (saysItems_isJson items each))
  | mapping entries =>
    obtain ⟨members, each, rfl⟩ := Option.map_eq_some_iff.mp said
    have once : (Fields.names (Fields.ofPairs members)).Nodup := Fields.names_merge_nodup List.nodup_nil
    rw [Value.ofJson]
    refine .mapping (by rwa [Value.names_ofFields]) ?_
    rw [Value.ofFields_eq]
    refine List.forall_mem_map.mpr fun entry member => ?_
    rcases Fields.mem_merge member with none | written
    · exact absurd none List.not_mem_nil
    · exact saysEntries_isJson entries each entry written

theorem saysItems_isJson (items : List Datum) {found : List Json} (said : saysItems? items = some found) :
    ∀ item ∈ found, (Value.ofJson item).IsJson := by
  match items with
  | [] =>
    cases said
    exact fun item member => absurd member List.not_mem_nil
  | item :: rest =>
    obtain ⟨first, here, more⟩ := Option.bind_eq_some_iff.mp said
    obtain ⟨others, later, same⟩ := Option.bind_eq_some_iff.mp more
    cases same
    exact List.forall_mem_cons.mpr ⟨says_isJson item here, saysItems_isJson rest later⟩

theorem saysEntries_isJson (entries : List (Value × Datum)) {members : List (String × Json)}
    (said : saysEntries? entries = some members) : ∀ member ∈ members, (Value.ofJson member.2).IsJson := by
  match entries with
  | [] =>
    cases said
    exact fun member none => absurd none List.not_mem_nil
  | (name, datum) :: rest =>
    obtain ⟨text, -, more⟩ := Option.bind_eq_some_iff.mp said
    obtain ⟨first, here, more⟩ := Option.bind_eq_some_iff.mp more
    obtain ⟨others, later, same⟩ := Option.bind_eq_some_iff.mp more
    cases same
    exact List.forall_mem_cons.mpr ⟨says_isJson datum here, saysEntries_isJson rest later⟩

end

theorem saysItems_of_each {items : List Value}
    (each : ∀ item ∈ items, ∃ j, item.datum.says? = some j ∧ Value.ofJson j = item) :
    ∃ found, saysItems? (Value.datumItems items) = some found ∧ Value.ofItems found = items := by
  induction items with
  | nil => exact ⟨[], rfl, rfl⟩
  | cons item rest ih =>
    obtain ⟨⟨j, here, rfl⟩, others⟩ := List.forall_mem_cons.mp each
    obtain ⟨found, later, rfl⟩ := ih others
    refine ⟨j :: found, ?_, rfl⟩
    rw [Value.datumItems, saysItems?, here, later]
    rfl

theorem saysEntries_of_each {fields : List (String × Value)}
    (each : ∀ entry ∈ fields, ∃ j, entry.2.datum.says? = some j ∧ Value.ofJson j = entry.2) :
    ∃ members, saysEntries? (Value.datumFields fields) = some members ∧ Value.ofFields members = fields := by
  induction fields with
  | nil => exact ⟨[], rfl, rfl⟩
  | cons entry rest ih =>
    obtain ⟨name, value⟩ := entry
    obtain ⟨⟨j, here, same⟩, others⟩ := List.forall_mem_cons.mp each
    obtain ⟨members, later, rfl⟩ := ih others
    refine ⟨(name, j) :: members, ?_, by rw [Value.ofFields, same]⟩
    rw [Value.datumFields, saysEntries?, here, later]
    rfl

/-- JSON says itself. -/
theorem says_of_isJson {value : Value} (isJson : value.IsJson) :
    ∃ j, value.datum.says? = some j ∧ Value.ofJson j = value := by
  induction isJson with
  | null | bool b | int n | float x | text s => exact ⟨_, rfl, rfl⟩
  | list each ih =>
    obtain ⟨found, said, rfl⟩ := saysItems_of_each ih
    exact ⟨.list found, by rw [Value.datum, says?, said, Option.map_some], rfl⟩
  | mapping once each ih =>
    obtain ⟨members, said, rfl⟩ := saysEntries_of_each ih
    have distinct : (Fields.names members).Nodup := by rwa [Value.names_ofFields] at once
    refine ⟨.object members, ?_, rfl⟩
    rw [Value.datum, says?, said, Option.map_some, Fields.ofPairs_of_distinct distinct]

/-- JSON is accepted as it is. -/
theorem json_of_isJson {value : Value} (isJson : value.IsJson) : (Check.json value).map Value.ofJson = .ok value := by
  obtain ⟨j, said, rfl⟩ := says_of_isJson isJson
  rw [Check.json, json_verdict, said]
  rfl

end Datum

/-- JSON is accepted as it is. Whatever data is accepted as is JSON, says the same, and is accepted as it is in its turn;
data that is refused says nothing, and there is one complaint about the whole. -/
theorem json_reads :
    (∀ value : Value, value.IsJson → (json value).map Value.ofJson = .ok value) ∧
    (∀ (datum : Datum) (j : Json), datum.json = .ok j → datum.says? = some j ∧ (Value.ofJson j).IsJson ∧
      (json (.ofJson j)).map Value.ofJson = .ok (.ofJson j)) ∧
    ∀ (datum : Datum) (issues : List Issue), datum.json = .error issues →
      datum.says? = none ∧ issues = [⟨.invalidJson, []⟩] := by
  refine ⟨fun value => Datum.json_of_isJson, fun datum j accepted => ?_, fun datum issues refused => ?_⟩
  · rw [Datum.json_verdict, verdict_eq_ok_iff] at accepted
    have isJson := datum.says_isJson accepted
    exact ⟨accepted, isJson, Datum.json_of_isJson isJson⟩
  · rwa [Datum.json_verdict, verdict_eq_error_iff] at refused

/-- Numbers, truth values and texts that spell them stay apart inside of lists and mappings; a sequence of another kind
counts as a list; and three parts that are no JSON, one of them only a name, give one complaint. -/
theorem json_reads_nested :
    (∃ value : Value, value = .mapping [("a", .list [.int 1, .float 1, .bool true, .text "1", .null])] ∧ value.IsJson ∧
      (json value).map Value.ofJson = .ok value) ∧
    (∃ (datum : Datum) (j : Json),
      datum = .mapping [(.bytes [97], .sequence .lax [.whole (.int 1), .whole (.safe "1")])] ∧
      j = .object [("a", .list [.int 1, .text "1"])] ∧ datum.json = .ok j ∧
      datum.says? = some j ∧ (Value.ofJson j).IsJson ∧ (json (.ofJson j)).map Value.ofJson = .ok (.ofJson j)) ∧
    ∃ (datum : Datum) (issues : List Issue),
      datum = .mapping [(.int 1, .whole .null), (.text "a", .sequence .exact [.whole .foreign,
        .mapping [(.text "b", .whole .foreign)]])] ∧ datum.json = .error issues ∧
      datum.says? = none ∧ issues = [⟨.invalidJson, []⟩] := by
  have isJson : (Value.mapping [("a", .list [.int 1, .float 1, .bool true, .text "1", .null])]).IsJson := by
    refine .mapping (by decide) (List.forall_mem_singleton.mpr (.list ?_))
    simp only [List.forall_mem_cons]
    exact ⟨.int 1, .float 1, .bool true, .text "1", .null, nofun⟩
  have accepted : (Datum.mapping [(.bytes [97], .sequence .lax [.whole (.int 1), .whole (.safe "1")])]).json =
      .ok (.object [("a", .list [.int 1, .text "1"])]) := rfl
  have refused : (Datum.mapping [(.int 1, .whole .null), (.text "a", .sequence .exact [.whole .foreign,
      .mapping [(.text "b", .whole .foreign)]])]).json = .error [⟨.invalidJson, []⟩] := rfl
  obtain ⟨unchanged, acceptedAs, refusedAs⟩ := json_reads
  exact ⟨⟨_, rfl, isJson, unchanged _ isJson⟩, ⟨_, _, rfl, rfl, accepted, acceptedAs _ _ accepted⟩,
    ⟨_, _, rfl, refused, refusedAs _ _ refused⟩⟩

end Check
end Colloquy
