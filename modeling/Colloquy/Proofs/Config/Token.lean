import Colloquy.Proofs.Config.Memory
import Colloquy.Reading

/-! Keys that stand in a place of their own. Such a key is moved to the settings of its provider before anything is
checked, so that what is checked is the mapping that one would write today; whatever has no such key is checked as it is.
Only where a key is to be moved and there is no mapping to move it to can anything but issues be the result. -/
namespace Colloquy.Config
open Setting

/-- A mapping in which a key stands in a place of its own. -/
def HasToken (entries : List (Setting × Setting)) (token : Setting) : Prop :=
  ∃ own, valueUnder entries tokenProvider = some (.mapping own) ∧ valueUnder own (.text "token") = some token

/-- A mapping with a value under a name. Nothing else differs, and a name that was not there comes last. -/
structure Sets (before : List (Setting × Setting)) (name : String) (value : Setting)
    (after : List (Setting × Setting)) : Prop where
  under (other : Setting) : valueUnder after other =
    if sameName (.text name) other then some value else valueUnder before other
  names : after.map Prod.fst =
    if (valueUnder before (.text name)).isSome then before.map Prod.fst else before.map Prod.fst ++ [.text name]

/-- A mapping without a name. Nothing else differs. -/
structure Lacks (before : List (Setting × Setting)) (name : String) (after : List (Setting × Setting)) : Prop where
  under (other : Setting) : valueUnder after other =
    if sameName (.text name) other then none else valueUnder before other
  names : after.map Prod.fst = (before.map Prod.fst).filter fun key => !sameName key (.text name)

/-- A mapping without a place of its own for the key, which is the provider's unless the provider has one. -/
def Moved (entries providers settings : List (Setting × Setting)) (token : Setting)
    (moved : List (Setting × Setting)) : Prop :=
  ∃ rest withKey withSettings, Lacks entries "openai" rest ∧
    Sets settings "api_key" ((valueUnder settings (.text "api_key")).getD token) withKey ∧
    Sets providers "openai" (.mapping withKey) withSettings ∧
    Sets rest "providers" (.mapping withSettings) moved

/-- A place where a key can be moved: providers, and among them the settings of the first. -/
def HasRoom (entries providers settings : List (Setting × Setting)) : Prop :=
  Holds (valueUnder entries (.text "providers")) providers ∧ Holds (valueUnder providers tokenProvider) settings

/-- What is made of a setting. -/
structure Settles (setting : Setting) : Prop where
  /-- One that says nothing is the standard configuration, -/
  nothing : setting.isTrue = false → ofSetting setting = .ok standard
  /-- and any other one is checked. -/
  something : setting.isTrue = true → ofSetting setting = check setting
  /-- Without a key in a place of its own it is checked as it is. -/
  plain : (∀ entries token, setting = .mapping entries → ¬HasToken entries token) →
    check setting = (checkMoved setting).mapError .malformed
  /-- With such a key, the mapping in which it is moved is checked. -/
  moved : ∀ entries token providers settings, setting = .mapping entries → HasToken entries token →
    HasRoom entries providers settings →
    ∃ moved, Moved entries providers settings token moved ∧ check setting = check (.mapping moved)
  /-- The result is a configuration or issues, if only there is room for the key that is to be moved. -/
  settled : ∀ cause, ofSetting setting = .error (.misuse cause) →
    ∃ entries token, setting = .mapping entries ∧ HasToken entries token ∧
      ∀ providers settings, ¬HasRoom entries providers settings
  /-- Without room there is never a configuration. -/
  refused : ∀ entries token, setting = .mapping entries → HasToken entries token →
    (∀ providers settings, ¬HasRoom entries providers settings) →
    check setting = .error (.malformed [⟨.valueError, []⟩]) ∨ ∃ cause, check setting = .error (.misuse cause)
  /-- Whoever holds the setting in memory finds all as it was. -/
  kept : ∀ memory root, Memory.Reads memory root setting →
    ∃ result fresh, Memory.moveToken root memory = (result, memory ++ fresh) ∧
      Memory.Alike (Memory.Reads (memory ++ fresh)) result (moveToken setting)

theorem put_sets (entries : List (Setting × Setting)) (name : String) (value : Setting) :
    Sets entries name value (put entries (.text name) value) :=
  ⟨valueUnder_put entries name value, names_put entries (.text name) value⟩

theorem drop_lacks (entries : List (Setting × Setting)) (name : String) :
    Lacks entries name (drop entries (.text name)) :=
  ⟨valueUnder_drop entries name, names_drop entries (.text name)⟩

section Moving

variable {setting token : Setting} {entries providers settings moved : List (Setting × Setting)}

theorem moveToken_plain (plain : ∀ entries token, setting = .mapping entries → ¬HasToken entries token) :
    moveToken setting = .ok setting := by
  unfold moveToken
  split
  · split
    · split
      · rename_i under _ token key
        exact absurd ⟨_, under, key⟩ (plain _ token rfl)
      · rfl
    · rfl
  · rfl

theorem moveToken_token (key : HasToken entries token) : moveToken (.mapping entries) = do
    let providers ← withToken (valueUnder entries (.text "providers")) token
    return .mapping (put (drop entries tokenProvider) (.text "providers") providers) := by
  obtain ⟨own, under, inside⟩ := key
  simp only [moveToken, under, inside]

theorem moveToken_moves (key : HasToken entries token) (room : HasRoom entries providers settings) :
    ∃ moved, Moved entries providers settings token moved ∧ moveToken (.mapping entries) = .ok (.mapping moved) := by
  obtain ⟨first, second⟩ := room
  rw [moveToken_token key, Memory.withToken_run (entriesOr_eq_ok_iff.mpr first) (entriesOr_eq_ok_iff.mpr second)]
  refine ⟨_, ⟨_, _, _, drop_lacks entries "openai", ?_, put_sets providers "openai" _, put_sets _ "providers" _⟩, rfl⟩
  rw [← put_getD]
  exact put_sets settings "api_key" _

/-- A mapping in which a key was moved has no place of its own for it. -/
theorem Moved.plain (moving : Moved entries providers settings token moved) : valueUnder moved tokenProvider = none := by
  obtain ⟨rest, withKey, withSettings, lacks, -, -, sets⟩ := moving
  rw [sets.under, lacks.under]
  simp [tokenProvider]

theorem check_of_moveToken (moves : moveToken setting = .ok token) :
    check setting = (checkMoved token).mapError .malformed := by
  rw [check, moves]

theorem check_moves (key : HasToken entries token) (room : HasRoom entries providers settings) :
    ∃ moved, Moved entries providers settings token moved ∧ check (.mapping entries) = check (.mapping moved) := by
  obtain ⟨moved, moving, moves⟩ := moveToken_moves key room
  have plain : moveToken (.mapping moved) = .ok (.mapping moved) := moveToken_plain fun again token same ⟨own, under, _⟩ => by
    cases same
    rw [moving.plain] at under
    cases under
  exact ⟨moved, moving, (check_of_moveToken moves).trans (check_of_moveToken plain).symm⟩

/-- Issues are no misuse. -/
theorem checked_ne_misuse {checked : Checked Config} {cause : Misuse} :
    checked.mapError ConfigError.malformed ≠ .error (.misuse cause) := by
  intro same
  obtain ⟨issues, -, ⟨⟩⟩ := mapError_eq_error.mp same

theorem withToken_error {given : Option Setting} (token : Setting)
    (room : ∀ providers settings, Holds given providers → ¬Holds (valueUnder providers tokenProvider) settings) :
    ∃ cause, withToken given token = .error cause := by
  cases first : entriesOr given with
  | error cause => exact ⟨cause, by rw [withToken, first]; rfl⟩
  | ok providers =>
    cases second : entriesOr (valueUnder providers tokenProvider) with
    | error cause => exact ⟨cause, by rw [withToken, first]; simp only [bind, Except.bind, second]⟩
    | ok settings => exact absurd (entriesOr_eq_ok_iff.mp second) (room _ _ (entriesOr_eq_ok_iff.mp first))

theorem check_refuses (key : HasToken entries token) (room : ∀ providers settings, ¬HasRoom entries providers settings) :
    check (.mapping entries) = .error (.malformed [⟨.valueError, []⟩]) ∨
      ∃ cause, check (.mapping entries) = .error (.misuse cause) := by
  obtain ⟨cause, failed⟩ := withToken_error token
    fun providers settings first second => room providers settings ⟨first, second⟩
  rw [check, moveToken_token key, failed]
  cases cause with
  | badValue message => exact .inl rfl
  | _ => exact .inr ⟨_, rfl⟩

theorem check_misuse {cause : Misuse} (misuse : check setting = .error (.misuse cause)) :
    ∃ entries token, setting = .mapping entries ∧ HasToken entries token ∧
      ∀ providers settings, ¬HasRoom entries providers settings := by
  by_contra otherwise
  push Not at otherwise
  by_cases plain : ∀ entries token, setting = .mapping entries → ¬HasToken entries token
  · exact checked_ne_misuse ((check_of_moveToken (moveToken_plain plain)).symm.trans misuse)
  · push Not at plain
    obtain ⟨entries, token, rfl, key⟩ := plain
    obtain ⟨providers, settings, room⟩ := otherwise entries token rfl key
    obtain ⟨moved, -, moves⟩ := moveToken_moves key room
    exact checked_ne_misuse ((check_of_moveToken moves).symm.trans misuse)

end Moving

/-- What is made of every setting that a file can hold. -/
theorem ofSetting_settles (setting : Setting) : Settles setting where
  nothing untrue := by
    rw [ofSetting, untrue]
    rfl
  something holds := by rw [ofSetting, if_pos holds]
  plain none := check_of_moveToken (moveToken_plain none)
  moved := by
    rintro entries token providers settings rfl key room
    exact check_moves key room
  settled cause misuse := by
    rw [ofSetting] at misuse
    split at misuse
    · exact check_misuse misuse
    · cases misuse
  refused := by
    rintro entries token rfl key room
    exact check_refuses key room
  kept memory root reads := Memory.moveToken_alike reads

/-- A key is moved beside another setting of its provider and another provider. -/
theorem ofSetting_settles_other :
    let settings := [(text "base", text "u")]
    let providers := [(text "openai", .mapping settings), (text "other", .mapping [])]
    let entries := [(text "openai", .mapping [(text "token", text "t")]), (text "providers", .mapping providers)]
    (∃ moved, Moved entries providers settings (text "t") moved ∧ check (.mapping entries) = check (.mapping moved)) ∧
      ofSetting (.mapping entries) =
        .ok { standard with providers := [("openai", [("base", .text "u"), ("api_key", .text "t")]), ("other", [])] } := by
  intro settings providers entries
  have key : HasToken entries (text "t") := ⟨[(text "token", text "t")], by simp [entries, valueUnder_cons, tokenProvider], by simp [valueUnder_cons]⟩
  have under : valueUnder entries (text "providers") = some (.mapping providers) := by simp [entries, valueUnder_cons]
  have inside : valueUnder providers tokenProvider = some (.mapping settings) := by
    simp [providers, valueUnder_cons, tokenProvider]
  have room : HasRoom entries providers settings := ⟨under ▸ .mapping providers, inside ▸ .mapping settings⟩
  refine ⟨(ofSetting_settles (.mapping entries)).moved entries (text "t") providers settings rfl key room, ?_⟩
  change check (.mapping entries) = _
  have moves : moveToken (.mapping entries) = .ok (.mapping [(text "providers", .mapping
      [(text "openai", .mapping [(text "base", text "u"), (text "api_key", text "t")]), (text "other", .mapping [])])]) := by
    rw [moveToken_token key, Memory.withToken_run (entriesOr_eq_ok_iff.mpr room.1) (entriesOr_eq_ok_iff.mpr room.2)]
    simp [bind, Except.bind, pure, Except.pure, put, ← put_getD, valueUnder_cons, drop, tokenProvider, settings, providers,
      entries]
  rw [check_of_moveToken moves]
  simp [checkMoved, entry, valueUnder_cons]
  rfl

/-- A key is to be moved and a number stands where the providers should be: neither a configuration nor issues. -/
theorem ofSetting_misuse_number :
    ofSetting (.mapping [(text "openai", .mapping [(text "token", text "t")]), (text "providers", .leaf (.int 5))]) =
      .error (.misuse .wrongType) := by
  let entries : List (Setting × Setting) :=
    [(text "openai", .mapping [(text "token", text "t")]), (text "providers", .leaf (.int 5))]
  have key : HasToken entries (text "t") :=
    ⟨[(text "token", text "t")], by simp [entries, valueUnder_cons, tokenProvider], by simp [valueUnder_cons]⟩
  have under : valueUnder entries (text "providers") = some (.leaf (.int 5)) := by simp [entries, valueUnder_cons]
  change check (.mapping entries) = _
  rw [check, moveToken_token key, under]
  rfl

end Colloquy.Config
