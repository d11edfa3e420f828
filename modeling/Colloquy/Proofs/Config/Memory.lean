import Mathlib.Data.List.Infix
import Colloquy.Proofs.Config.Setting

/-! Settings in memory. There a mapping has a place, several settings may hold the mapping at one place, and whoever
changes it changes it for all of them. A key is moved on copies alone: what was in memory before stays as it was, and
the result reads as the mapping that the key is moved in. -/
namespace Colloquy

/-- A setting in memory: a mapping is known by its place. A setting with no mapping in any place stands for itself. -/
inductive Kept where
  | whole (setting : Setting)
  | list (items : List Kept)
  | mapping (place : Nat)

/-- The mappings at their places. -/
abbrev Memory := List (List (Setting × Kept))

namespace Kept

/-- The entries of a mapping. -/
def entries? (memory : Memory) : Kept → Option (List (Setting × Kept))
  | .whole (.mapping entries) => some (entries.map fun (name, value) => (name, .whole value))
  | .mapping place => memory[place]?
  | _ => none

/-- Whether a setting counts as true. -/
def isTrue (memory : Memory) : Kept → Bool
  | .whole setting => setting.isTrue
  | .list items => !items.isEmpty
  | .mapping place => memory[place]?.any fun entries => !entries.isEmpty

/-- The items that a setting yields one after the other. -/
def collect (memory : Memory) : Kept → Except Misuse (List Kept)
  | .whole setting => setting.collect.map fun items => items.map .whole
  | .list items => .ok items
  | .mapping place => .ok ((memory[place]?.getD []).map fun entry => .whole entry.1)

/-- The entries that pairs write, the first pair being number `i`. -/
def entriesOf (memory : Memory) (i : Nat) (entries : List (Setting × Kept)) :
    List Kept → Except Misuse (List (Setting × Kept))
  | [] => .ok entries
  | pair :: rest => do
    match ← pair.collect memory with
    | [.whole name, value] =>
      if name.isName then entriesOf memory (i + 1) (Setting.put entries name value) rest else throw .wrongType
    | [_, _] => throw .wrongType
    | items => throw (.badValue ("dictionary update sequence element #" ++ toString i ++ " has length " ++
        toString items.length ++ "; 2 is required"))

/-- The entries of a mapping, or those that a sequence of pairs writes; nothing at all has none. -/
def entriesOr (memory : Memory) : Option Kept → Except Misuse (List (Setting × Kept))
  | none => .ok []
  | some kept =>
    match kept.entries? memory with
    | some entries => .ok entries
    | none => if kept.isTrue memory then do entriesOf memory 0 [] (← kept.collect memory) else .ok []

end Kept

namespace Memory

/-- A part of what runs on a memory: it changes the memory and ends with a result or fails. -/
def Step (α : Type) := Memory → Except Misuse α × Memory

/-- One part after another; a failure ends both. -/
def andThen {α β : Type} (first : Step α) (next : α → Step β) : Step β := fun memory =>
  match first memory with
  | (.ok result, memory) => next result memory
  | (.error cause, memory) => (.error cause, memory)

instance : Monad Step where
  pure result := fun memory => (.ok result, memory)
  bind := andThen

/-- Puts a new mapping at a place of its own. -/
def make (entries : List (Setting × Kept)) : Step Nat := fun memory => (.ok memory.length, memory ++ [entries])

/-- The entries of the mapping at a place. -/
def look (place : Nat) : Step (List (Setting × Kept)) := fun memory => (.ok (memory.getD place []), memory)

/-- Changes the mapping at a place. -/
def write (place : Nat) (entries : List (Setting × Kept)) : Step Unit := fun memory => (.ok (), memory.set place entries)

/-- Puts what stands in a place for a mapping at a new place. -/
def copy (given : Option Kept) : Step Nat := fun memory =>
  match Kept.entriesOr memory given with
  | .ok entries => make entries memory
  | .error cause => (.error cause, memory)

/-- Moves a key to the provider's settings in copies of all three mappings, which alone are changed. -/
def relocate (entries : List (Setting × Kept)) (token : Kept) : Step Kept := do
  let data ← make entries
  let providers ← copy (Setting.valueUnder (← look data) (.text "providers"))
  let settings ← copy (Setting.valueUnder (← look providers) Config.tokenProvider)
  write data (Setting.drop (← look data) Config.tokenProvider)
  if (Setting.valueUnder (← look settings) (.text "api_key")).isNone then
    write settings (Setting.put (← look settings) (.text "api_key") token)
  write providers (Setting.put (← look providers) Config.tokenProvider (.mapping settings))
  write data (Setting.put (← look data) (.text "providers") (.mapping providers))
  return .mapping data

/-- Moves a key from its own place to the provider's; everything else is left as it is. -/
def moveToken (root : Kept) : Step Kept := fun memory =>
  match root.entries? memory with
  | some entries =>
    match (Setting.valueUnder entries Config.tokenProvider).bind (Kept.entries? memory) with
    | some own =>
      match Setting.valueUnder own (.text "token") with
      | some token => relocate entries token memory
      | none => (.ok root, memory)
    | none => (.ok root, memory)
  | none => (.ok root, memory)

/-! ## What a memory holds -/

mutual

/-- A setting in memory reads as a setting. -/
inductive Reads (memory : Memory) : Kept → Setting → Prop
  | whole (setting : Setting) : Reads memory (.whole setting) setting
  | list {items : List Kept} {settings : List Setting} : ReadsItems memory items settings →
    Reads memory (.list items) (.list settings)
  | mapping {place : Nat} {held : List (Setting × Kept)} {entries : List (Setting × Setting)} :
    memory[place]? = some held → ReadsEntries memory held entries → Reads memory (.mapping place) (.mapping entries)

/-- So do several, one by one. -/
inductive ReadsItems (memory : Memory) : List Kept → List Setting → Prop
  | nil : ReadsItems memory [] []
  | cons {item : Kept} {setting : Setting} {items : List Kept} {settings : List Setting} : Reads memory item setting →
    ReadsItems memory items settings → ReadsItems memory (item :: items) (setting :: settings)

/-- So do entries, each under its name. -/
inductive ReadsEntries (memory : Memory) : List (Setting × Kept) → List (Setting × Setting) → Prop
  | nil : ReadsEntries memory [] []
  | cons {name : Setting} {value : Kept} {setting : Setting} {held : List (Setting × Kept)}
    {entries : List (Setting × Setting)} : Reads memory value setting → ReadsEntries memory held entries →
    ReadsEntries memory ((name, value) :: held) ((name, setting) :: entries)

end

theorem getElem?_append_of_eq_some {memory : Memory} {place : Nat} {held : List (Setting × Kept)}
    (found : memory[place]? = some held) (more : Memory) : (memory ++ more)[place]? = some held := by
  rw [List.getElem?_append_left (List.getElem?_eq_some_iff.mp found).1, found]

mutual

/-- What is in memory still reads the same when more is put there. -/
theorem Reads.append {memory : Memory} (more : Memory) {kept : Kept} {setting : Setting} :
    Reads memory kept setting → Reads (memory ++ more) kept setting
  | .whole setting => .whole setting
  | .list items => .list (items.append more)
  | .mapping found entries => .mapping (getElem?_append_of_eq_some found more) (entries.append more)

theorem ReadsItems.append {memory : Memory} (more : Memory) {items : List Kept} {settings : List Setting} :
    ReadsItems memory items settings → ReadsItems (memory ++ more) items settings
  | .nil => .nil
  | .cons item items => .cons (item.append more) (items.append more)

theorem ReadsEntries.append {memory : Memory} (more : Memory) {held : List (Setting × Kept)}
    {entries : List (Setting × Setting)} : ReadsEntries memory held entries → ReadsEntries (memory ++ more) held entries
  | .nil => .nil
  | .cons value entries => .cons (value.append more) (entries.append more)

end

section Reading

open Setting

variable {memory : Memory} {kept : Kept} {setting : Setting} {held : List (Setting × Kept)}
  {entries : List (Setting × Setting)}

/-! ## What is read of a setting in memory is what is read of the setting -/

theorem ReadsItems.whole (settings : List Setting) : ReadsItems memory (settings.map .whole) settings := by
  induction settings with
  | nil => exact .nil
  | cons setting rest ih => exact .cons (.whole setting) ih

theorem ReadsEntries.whole (entries : List (Setting × Setting)) :
    ReadsEntries memory (entries.map fun (name, value) => (name, .whole value)) entries := by
  induction entries with
  | nil => exact .nil
  | cons entry rest ih => exact .cons (.whole entry.2) ih

theorem ReadsEntries.names (reads : ReadsEntries memory held entries) :
    ReadsItems memory (held.map fun entry => .whole entry.1) (entries.map Prod.fst) := by
  induction held generalizing entries with
  | nil => cases reads; exact .nil
  | cons entry rest ih =>
    cases reads with
    | cons value others => exact .cons (.whole _) (ih others)

/-- What stands under a name, in memory and as a setting. -/
theorem ReadsEntries.valueUnder (reads : ReadsEntries memory held entries) (name : Setting) :
    Option.Rel (Reads memory) (valueUnder held name) (valueUnder entries name) := by
  induction held generalizing entries with
  | nil => cases reads; exact .none
  | cons entry rest ih =>
    cases reads with
    | cons value others =>
      rw [valueUnder_cons, valueUnder_cons]
      split
      · exact .some value
      · exact ih others

theorem ReadsEntries.put (reads : ReadsEntries memory held entries) (name : Setting) (value : Reads memory kept setting) :
    ReadsEntries memory (put held name kept) (put entries name setting) := by
  induction held generalizing entries with
  | nil => cases reads; exact .cons value .nil
  | cons entry rest ih =>
    cases reads with
    | cons old others =>
      rw [Setting.put, Setting.put]
      split
      · exact .cons value others
      · exact .cons old (ih others)

theorem ReadsEntries.drop (reads : ReadsEntries memory held entries) (name : Setting) :
    ReadsEntries memory (drop held name) (drop entries name) := by
  induction held generalizing entries with
  | nil => cases reads; exact .nil
  | cons entry rest ih =>
    cases reads with
    | cons old others =>
      unfold Setting.drop at ih ⊢
      rw [List.filter_cons, List.filter_cons]
      split
      · exact .cons old (ih others)
      · exact ih others

/-- A mapping in memory is a mapping, and nothing else in memory is one. -/
theorem Reads.entries? (reads : Reads memory kept setting) (more : Memory) :
    (∃ held entries, kept.entries? (memory ++ more) = some held ∧ setting = .mapping entries ∧
      ReadsEntries memory held entries) ∨
    kept.entries? (memory ++ more) = none ∧ ∀ entries, setting ≠ .mapping entries := by
  cases reads with
  | whole setting =>
    cases setting with
    | mapping entries => exact .inl ⟨_, entries, rfl, rfl, .whole entries⟩
    | leaf value => exact .inr ⟨rfl, fun _ h => nomatch h⟩
    | list items => exact .inr ⟨rfl, fun _ h => nomatch h⟩
  | list items => exact .inr ⟨rfl, fun _ h => nomatch h⟩
  | mapping found entries => exact .inl ⟨_, _, getElem?_append_of_eq_some found more, rfl, entries⟩

theorem Reads.isTrue (reads : Reads memory kept setting) (more : Memory) :
    kept.isTrue (memory ++ more) = setting.isTrue := by
  cases reads with
  | whole => rfl
  | list items => cases items <;> rfl
  | mapping found entries =>
    rw [Kept.isTrue, getElem?_append_of_eq_some found more]
    cases entries <;> rfl

/-- Two results: both hold alike, or both fail for the same cause. -/
inductive Alike {α β : Type} (related : α → β → Prop) : Except Misuse α → Except Misuse β → Prop
  | ok {a : α} {b : β} : related a b → Alike related (.ok a) (.ok b)
  | error (cause : Misuse) : Alike related (.error cause) (.error cause)

theorem Reads.collect (reads : Reads memory kept setting) (more : Memory) :
    Alike (ReadsItems memory) (kept.collect (memory ++ more)) setting.collect := by
  cases reads with
  | whole setting =>
    rw [Kept.collect]
    cases setting.collect with
    | ok items => exact .ok (.whole items)
    | error cause => exact .error cause
  | list items => exact .ok items
  | mapping found entries =>
    rw [Kept.collect, getElem?_append_of_eq_some found more]
    exact .ok entries.names

theorem ReadsItems.length {items : List Kept} {settings : List Setting} (reads : ReadsItems memory items settings) :
    items.length = settings.length := by
  induction items generalizing settings with
  | nil => cases reads; rfl
  | cons item rest ih =>
    cases reads with
    | cons here others => rw [List.length_cons, List.length_cons, ih others]

theorem entriesOf_alike {i : Nat} {pairs : List Kept} {settings : List Setting}
    (before : ReadsEntries memory held entries) (reads : ReadsItems memory pairs settings) (more : Memory) :
    Alike (ReadsEntries memory) (Kept.entriesOf (memory ++ more) i held pairs) (entriesOf i entries settings) := by
  induction pairs generalizing i held entries settings with
  | nil =>
    cases reads
    exact .ok before
  | cons pair rest ih =>
    cases reads with
    | @cons _ wanted _ _ here others =>
      rw [Kept.entriesOf, entriesOf]
      have alike := here.collect more
      generalize pair.collect (memory ++ more) = found, wanted.collect = sought at alike
      cases alike with
      | error cause => exact .error cause
      | ok parts =>
        -- Two parts are an entry if the first can be a name; any other number of them is told in the same words.
        cases parts with
        | nil => exact .error _
        | cons first parts =>
          cases parts with
          | nil => cases first <;> exact .error _
          | cons second parts =>
            cases parts with
            | nil =>
              cases first with
              | whole =>
                simp only [bind, Except.bind]
                split
                · exact ih (before.put _ second) others
                · exact .error _
              | list | mapping => exact .error _
            | cons third parts => cases first <;> simpa [bind, Except.bind, parts.length] using .error _

theorem entriesOr_alike {given : Option Kept} {wanted : Option Setting}
    (reads : Option.Rel (Reads memory) given wanted) (more : Memory) :
    Alike (ReadsEntries memory) (Kept.entriesOr (memory ++ more) given) (entriesOr wanted) := by
  cases reads with
  | none => exact .ok .nil
  | @some kept setting here =>
    rw [Kept.entriesOr]
    rcases here.entries? more with ⟨held, entries, found, rfl, inside⟩ | ⟨missing, other⟩
    · rw [found]
      exact .ok inside
    · simp only [missing]
      rw [entriesOr_of_other other, ← here.isTrue more]
      have alike := here.collect more
      split
      · generalize kept.collect (memory ++ more) = found, setting.collect = sought at alike
        cases alike with
        | error cause => exact .error cause
        | ok pairs => exact entriesOf_alike .nil pairs more
      · exact .ok .nil

end Reading

/-! ## Moving a key -/

open Setting

/-- A copy is put after all that is there; if there is nothing to copy, nothing is put. -/
theorem copy_cases {memory : Memory} {given : Option Kept} {wanted : Option Setting}
    (reads : Option.Rel (Reads memory) given wanted) (more : Memory) :
    (∃ held entries, Setting.entriesOr wanted = .ok entries ∧ ReadsEntries memory held entries ∧
      copy given (memory ++ more) = (.ok (memory.length + more.length), memory ++ (more ++ [held]))) ∨
    (∃ cause, Setting.entriesOr wanted = .error cause ∧ copy given (memory ++ more) = (.error cause, memory ++ more)) := by
  have alike := entriesOr_alike reads more
  unfold copy make
  generalize Kept.entriesOr (memory ++ more) given = found, Setting.entriesOr wanted = sought at alike
  cases alike with
  | ok inside => exact .inl ⟨_, _, rfl, inside, by simp⟩
  | error cause => exact .inr ⟨cause, rfl, rfl⟩

theorem bind_ok {α β : Type} {first : Step α} {next : α → Step β} {memory after : Memory} {result : α}
    (ran : first memory = (.ok result, after)) : (first >>= next) memory = next result after := by
  change andThen first next memory = _
  simp [andThen, ran]

theorem bind_error {α β : Type} {first : Step α} {next : α → Step β} {memory after : Memory} {cause : Misuse}
    (ran : first memory = (.error cause, after)) : (first >>= next) memory = (.error cause, after) := by
  change andThen first next memory = _
  simp [andThen, ran]

theorem make_bind {α : Type} (entries : List (Setting × Kept)) (next : Nat → Step α) (memory : Memory) :
    (make entries >>= next) memory = next memory.length (memory ++ [entries]) := rfl

theorem look_bind {α : Type} (place : Nat) (next : List (Setting × Kept) → Step α) (memory : Memory) :
    (look place >>= next) memory = next (memory[place]?.getD []) memory := by
  rw [← List.getD_eq_getElem?_getD]
  rfl

theorem write_bind {α : Type} (place : Nat) (entries : List (Setting × Kept)) (next : Unit → Step α) (memory : Memory) :
    (write place entries >>= next) memory = next () (memory.set place entries) := rfl

/-- When the providers and the settings can be copied, the copies are all that is changed. -/
theorem relocate_run {memory : Memory} {entries providers settings : List (Setting × Kept)} {token : Kept}
    (first : copy (valueUnder entries (text "providers")) (memory ++ [entries]) =
      (.ok (memory.length + 1), memory ++ [entries, providers]))
    (second : copy (valueUnder providers Config.tokenProvider) (memory ++ [entries, providers]) =
      (.ok (memory.length + 2), memory ++ [entries, providers, settings])) :
    relocate entries token memory = (.ok (.mapping memory.length), memory ++
      [put (drop entries Config.tokenProvider) (text "providers") (.mapping (memory.length + 1)),
        put providers Config.tokenProvider (.mapping (memory.length + 2)),
        putNew settings (text "api_key") token]) := by
  have here : (memory ++ [entries])[memory.length]?.getD [] = entries := by simp
  have next : (memory ++ [entries, providers])[memory.length + 1]?.getD [] = providers := by simp
  rw [relocate, make_bind, look_bind, here, bind_ok first, look_bind, next, bind_ok second]
  simp only [look_bind, write_bind]
  by_cases missing : (valueUnder settings (text "api_key")).isNone = true
  all_goals
    simp [putNew, missing, look_bind, write_bind]
    rfl

theorem withToken_run {given : Option Setting} {token : Setting} {providers settings : List (Setting × Setting)}
    (first : Setting.entriesOr given = .ok providers)
    (second : Setting.entriesOr (valueUnder providers Config.tokenProvider) = .ok settings) :
    Config.withToken given token = .ok (.mapping (put providers Config.tokenProvider
      (.mapping (putNew settings (text "api_key") token)))) := by
  rw [Config.withToken, first]
  simp only [bind, Except.bind, second, put_getD]
  rfl

theorem ReadsEntries.putNew {memory : Memory} {held : List (Setting × Kept)} {entries : List (Setting × Setting)}
    {kept : Kept} {setting : Setting} (reads : ReadsEntries memory held entries) (name : Setting)
    (value : Reads memory kept setting) : ReadsEntries memory (putNew held name kept) (putNew entries name setting) := by
  have same : (Setting.valueUnder held name).isNone = (Setting.valueUnder entries name).isNone := by
    have alike := reads.valueUnder name
    generalize Setting.valueUnder held name = found, Setting.valueUnder entries name = sought at alike
    cases alike <;> rfl
  unfold Setting.putNew
  rw [same]
  split
  · exact reads.put name value
  · exact reads

/-- What moving a key does in memory reads as what it does on settings, and all that is new stands after what was
there. -/
theorem relocate_alike {memory : Memory} {held : List (Setting × Kept)} {entries : List (Setting × Setting)}
    {token : Kept} {setting : Setting} (inside : ReadsEntries memory held entries) (key : Reads memory token setting) :
    ∃ result fresh, relocate held token memory = (result, memory ++ fresh) ∧
      Alike (Reads (memory ++ fresh)) result (do
        let providers ← Config.withToken (valueUnder entries (text "providers")) setting
        return .mapping (put (drop entries Config.tokenProvider) (text "providers") providers)) := by
  rcases copy_cases (inside.valueUnder (text "providers")) [held] with
    ⟨heldProviders, providers, read, insideProviders, first⟩ | ⟨cause, failed, first⟩
  · rcases copy_cases (insideProviders.valueUnder Config.tokenProvider) [held, heldProviders] with
      ⟨heldSettings, settings, readToo, insideSettings, second⟩ | ⟨cause, failed, second⟩
    · refine ⟨_, _, relocate_run first second, ?_⟩
      rw [withToken_run read readToo]
      generalize grown : [_, _, _] = fresh
      have third := (insideSettings.append fresh).putNew (text "api_key") (key.append fresh)
      have settingsRead : Reads (memory ++ fresh) (.mapping (memory.length + 2)) _ :=
        .mapping (by simp [← grown]) third
      have second := (insideProviders.append fresh).put Config.tokenProvider settingsRead
      have providersRead : Reads (memory ++ fresh) (.mapping (memory.length + 1)) _ :=
        .mapping (by simp [← grown]) second
      have first := ((inside.append fresh).drop Config.tokenProvider).put (text "providers") providersRead
      exact .ok (.mapping (by simp [← grown]) first)
    · refine ⟨.error cause, [held, heldProviders], ?_, ?_⟩
      · rw [relocate, make_bind, look_bind]
        simp [bind_ok first, look_bind, bind_error second]
      · rw [Config.withToken, read]
        simp only [bind, Except.bind, failed]
        exact .error cause
  · refine ⟨.error cause, [held], ?_, ?_⟩
    · rw [relocate, make_bind, look_bind]
      simp [bind_error first]
    · rw [Config.withToken, failed]
      exact .error cause

/-- So does the whole step, with a key to be moved or without one. -/
theorem moveToken_alike {memory : Memory} {root : Kept} {setting : Setting} (reads : Reads memory root setting) :
    ∃ result fresh, moveToken root memory = (result, memory ++ fresh) ∧
      Alike (Reads (memory ++ fresh)) result (Config.moveToken setting) := by
  have asIs (moves : moveToken root memory = (.ok root, memory)) (plain : Config.moveToken setting = .ok setting) :
      ∃ result fresh, moveToken root memory = (result, memory ++ fresh) ∧
        Alike (Reads (memory ++ fresh)) result (Config.moveToken setting) :=
    ⟨.ok root, [], by rw [moves, List.append_nil], by rw [plain, List.append_nil]; exact .ok reads⟩
  have top := reads.entries? []
  rw [List.append_nil] at top
  rcases top with ⟨held, entries, found, rfl, inside⟩ | ⟨missing, other⟩
  · have own := inside.valueUnder Config.tokenProvider
    generalize kept : valueUnder held Config.tokenProvider = ownKept,
      under : valueUnder entries Config.tokenProvider = ownSetting at own
    cases own with
    | none =>
      exact asIs (by rw [moveToken, found]; simp [kept]) (by rw [Config.moveToken, under]; rfl)
    | @some ownKept ownSetting ownReads =>
      have second := ownReads.entries? []
      rw [List.append_nil] at second
      rcases second with ⟨ownHeld, ownEntries, ownFound, rfl, ownInside⟩ | ⟨missing, other⟩
      · have key := ownInside.valueUnder (text "token")
        generalize keptKey : valueUnder ownHeld (text "token") = tokenKept,
          underKey : valueUnder ownEntries (text "token") = token at key
        cases key with
        | none =>
          exact asIs (by rw [moveToken, found]; simp [kept, ownFound, keptKey])
            (by rw [Config.moveToken, under]; simp only [underKey]; rfl)
        | @some tokenKept token tokenReads =>
          obtain ⟨result, fresh, ran, alike⟩ := relocate_alike inside tokenReads
          refine ⟨result, fresh, ?_, ?_⟩
          · rw [moveToken, found]
            simp [kept, ownFound, keptKey, ran]
          · rw [Config.moveToken, under]
            simpa [underKey] using alike
      · refine asIs (by rw [moveToken, found]; simp [kept, missing]) ?_
        rw [Config.moveToken, under]
        cases ownSetting with
        | mapping own => exact absurd rfl (other own)
        | _ => rfl
  · refine asIs (by rw [moveToken, missing]) ?_
    cases setting with
    | mapping entries => exact absurd rfl (other entries)
    | _ => rfl

end Memory
end Colloquy
