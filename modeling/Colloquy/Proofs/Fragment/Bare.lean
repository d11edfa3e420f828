import Colloquy.Proofs.Fragment.Tiling

/-! Bare references. A bare path is spelled by the longest word of its form at the dollar sign, and the expression
language reads the same path from that word. A dollar sign before a name is never literal. -/
namespace Colloquy.Fragment
open Token

/-! ## How bare paths are spelled -/

section Spelled
variable (Allowed : Lexeme → List Char → Prop)

/-- How a step is spelled where nothing may stand between its parts, an index as it is allowed. -/
inductive SpellsStep : Segment → List Char → Prop where
  | point {name : String} {word : List Char} (spelled : Spells (.ident name) word) :
      SpellsStep (.field name) ('.' :: word)
  | member {name : String} {word : List Char} (spelled : Spells (.ident name) word) :
      SpellsStep (.field name) ('[' :: (word ++ [']']))
  | item {i : Int} {word : List Char} (spelled : Spells (.int i) word) (allowed : Allowed (.int i) word) :
      SpellsStep (.index i) ('[' :: (word ++ [']']))

/-- How steps are spelled one after the other. -/
inductive SpellsSteps : List Segment → List Char → Prop where
  | nil : SpellsSteps [] []
  | cons {step : Segment} {steps : List Segment} {word more : List Char} (first : SpellsStep Allowed step word)
      (others : SpellsSteps steps more) : SpellsSteps (step :: steps) (word ++ more)

/-- How a path is spelled after a dollar sign. -/
inductive SpellsPath : Path → List Char → Prop where
  | intro {root : String} {steps : List Segment} {word more : List Char} (named : Spells (.ident root) word)
      (stepped : SpellsSteps Allowed steps more) : SpellsPath ⟨root, steps⟩ (word ++ more)

end Spelled

/-- What is read of an integer as it is spelled. -/
def readAs (i : Int) (word : List Char) : Except Text.Oversize Int :=
  if Fits (.int i) word then .ok i else .error ⟨(Lexeme.int i).digits word⟩

/-- A path goes on with an index that has too many digits. -/
def Exceeds (cs : List Char) (numeral : Text.Oversize) : Prop :=
  ∃ path word i digits after, cs = word ++ '[' :: (digits ++ ']' :: after) ∧ SpellsPath Fits path word ∧
    Spells (.int i) digits ∧ ¬ Fits (.int i) digits ∧ numeral = ⟨(Lexeme.int i).digits digits⟩

section Spelling
variable {Allowed : Lexeme → List Char → Prop} {cs left word rest : List Char} {name : String} {i : Int}
  {step : Segment} {steps : List Segment} {path : Path} {numeral : Text.Oversize}

theorem spells_name : Spells (.ident name) word ↔ ∃ c more,
    word = c :: more ∧ name = String.ofList word ∧ isNameStart c = true ∧ ∀ d ∈ more, isNameChar d = true := by
  constructor
  · intro spelled
    cases spelled with
    | ident start inside => exact ⟨_, _, rfl, rfl, start, inside⟩
    | single known => exact absurd rfl ((mark_ne known).1 name)
  · rintro ⟨c, more, rfl, rfl, start, inside⟩
    exact .ident start inside

theorem readName_eq_some : readName cs = some (name, left) ↔
    ∃ word, cs = word ++ left ∧ Spells (.ident name) word ∧ Apart (.ident name) left := by
  constructor
  · intro read
    unfold readName at read
    split at read
    · rename_i c rest
      split at read
      · rename_i start
        cases read
        refine ⟨c :: rest.takeWhile isNameChar, ?_, .ident start (takeWhile_inside _ _), head_dropWhile _ _⟩
        exact congrArg (c :: ·) List.takeWhile_append_dropWhile.symm
      · cases read
    · cases read
  · rintro ⟨word, rfl, spelled, apart⟩
    obtain ⟨c, more, rfl, rfl, start, inside⟩ := spells_name.mp spelled
    rw [List.cons_append, readName, if_pos start, takeWhile_run inside apart, dropWhile_run inside apart]

theorem readAs_natural (inside : ∀ d ∈ word, Text.isAsciiDigit d = true) :
    readAs (decimalOf word) word = (readDecimal word).map fun (n : Nat) => (n : Int) := by
  rw [readAs, readDecimal]
  simp only [Fits, digits_natural inside]
  split <;> rfl

theorem readAs_negative (inside : ∀ d ∈ word, Text.isAsciiDigit d = true) :
    readAs (-(decimalOf word : Int)) ('-' :: word) = (readDecimal word).map fun (n : Nat) => -(n : Int) := by
  rw [readAs, readDecimal]
  simp only [Fits, digits_negative inside]
  split <;> rfl

theorem readIndex_spelled {found : Except Text.Oversize Int} (read : readIndex cs = some (found, left)) :
    ∃ i word, cs = word ++ left ∧ Spells (.int i) word ∧ found = readAs i word := by
  unfold readIndex at read
  split at read
  rename_i negative body sign
  split at read
  · cases read
  · rename_i digits nonempty
    cases read
    have inside := takeWhile_inside Text.isAsciiDigit body
    have whole : body = body.takeWhile Text.isAsciiDigit ++ body.dropWhile Text.isAsciiDigit :=
      List.takeWhile_append_dropWhile.symm
    split at sign
    · cases sign
      exact ⟨_, '-' :: body.takeWhile Text.isAsciiDigit, congrArg ('-' :: ·) whole, .negative nonempty inside,
        (readAs_negative inside).symm⟩
    · cases sign
      exact ⟨_, _, whole, .natural nonempty inside, (readAs_natural inside).symm⟩

/-- An integer is read from what spells it, if no digit comes next. -/
theorem readIndex_of_spelled (spelled : Spells (.int i) word) (apart : Apart (.int i) rest) :
    readIndex (word ++ rest) = some (readAs i word, rest) := by
  cases spelled with
  | natural nonempty inside =>
    rw [readAs_natural inside]
    obtain ⟨d, more, rfl⟩ := List.exists_cons_of_ne_nil nonempty
    have unsigned : ∀ others, d :: more ++ rest ≠ '-' :: others := by
      intro others same
      cases same
      exact absurd (inside '-' List.mem_cons_self) (by decide)
    rw [readIndex]
    · simp only [takeWhile_run inside apart, dropWhile_run inside apart]
      rfl
    · exact unsigned
  | @negative digits nonempty inside =>
    rw [readAs_negative inside]
    obtain ⟨d, more, rfl⟩ := List.exists_cons_of_ne_nil nonempty
    rw [List.cons_append, readIndex]
    simp only [takeWhile_run inside apart, dropWhile_run inside apart]
    rfl
  | single known => exact absurd rfl ((mark_ne known).2 i)

/-! ## Steps -/

/-- Only a point or an opening bracket starts a step. -/
theorem SpellsStep.begins (spelled : SpellsStep Allowed step word) :
    ∃ c more, word = c :: more ∧ (c = '.' ∨ c = '[') := by
  cases spelled with
  | point named => exact ⟨_, _, rfl, .inl rfl⟩
  | member named => exact ⟨_, _, rfl, .inr rfl⟩
  | item spelled allowed => exact ⟨_, _, rfl, .inr rfl⟩

/-- No name goes on with a step. -/
theorem SpellsStep.apart (spelled : SpellsStep Allowed step word) (rest : List Char) :
    Apart (.ident name) (word ++ rest) := by
  obtain ⟨c, more, rfl, point | bracket⟩ := spelled.begins
  · rintro d ⟨⟩
    subst point
    rfl
  · rintro d ⟨⟩
    subst bracket
    rfl

theorem apart_bracket (lexeme : Lexeme) (rest : List Char) : Apart lexeme (']' :: rest) := by
  rintro c ⟨⟩
  cases lexeme <;> rfl

/-- What can come of reading a step that is there: it is read, or its index has too many digits. -/
inductive Steps (cs left : List Char) : Except Text.Oversize Segment → Prop where
  | read {step : Segment} {word : List Char} (split : cs = word ++ left) (spelled : SpellsStep Fits step word) :
      Steps cs left (.ok step)
  | oversized {i : Int} {digits : List Char} (split : cs = '[' :: (digits ++ ']' :: left))
      (spelled : Spells (.int i) digits) (large : ¬ Fits (.int i) digits) :
      Steps cs left (.error ⟨(Lexeme.int i).digits digits⟩)

theorem readStep_steps {found : Except Text.Oversize Segment} (read : readStep cs = some (found, left)) :
    Steps cs left found := by
  unfold readStep at read
  split at read
  · obtain ⟨⟨name, after⟩, inner, same⟩ := Option.map_eq_some_iff.mp read
    cases same
    obtain ⟨word, rfl, spelled, -⟩ := readName_eq_some.mp inner
    exact .read rfl (.point spelled)
  · split at read
    · rename_i index after inner
      cases read
      obtain ⟨i, word, rfl, spelled, rfl⟩ := readIndex_spelled inner
      unfold readAs
      split
      · exact .read (by simp) (.item spelled ‹_›)
      · exact .oversized rfl spelled ‹_›
    · split at read
      · rename_i name after inner
        cases read
        obtain ⟨word, rfl, spelled, -⟩ := readName_eq_some.mp inner
        exact .read (by simp) (.member spelled)
      · cases read
  · cases read

/-- A step in brackets is taken off as it is spelled, whatever comes next. -/
theorem readStep_bracket (spelled : SpellsStep Allowed step ('[' :: word)) (rest : List Char) :
    ∃ found, readStep ('[' :: word ++ rest) = some (found, rest) := by
  cases spelled with
  | @member name inner named =>
    have read := readName_eq_some.mpr ⟨inner, rfl, named, apart_bracket _ rest⟩
    rw [List.cons_append, List.append_assoc, List.singleton_append, readStep, readIndex_of_readName read, read]
    exact ⟨_, rfl⟩
  | @item i inner spelled allowed =>
    rw [List.cons_append, List.append_assoc, List.singleton_append, readStep,
      readIndex_of_spelled spelled (apart_bracket _ rest)]
    exact ⟨_, rfl⟩

/-- A step is taken off as it is spelled, if no name goes on next. -/
theorem readStep_of_spelled (spelled : SpellsStep Allowed step word) (apart : ∀ name, Apart (.ident name) rest) :
    ∃ found, readStep (word ++ rest) = some (found, rest) := by
  cases spelled with
  | @point name word named =>
    rw [List.cons_append, readStep, readName_eq_some.mpr ⟨word, rfl, named, apart name⟩]
    exact ⟨_, rfl⟩
  | member named => exact readStep_bracket (show SpellsStep Allowed _ _ from .member named) rest
  | item spelled allowed => exact readStep_bracket (.item spelled allowed) rest

/-- A name is read from what spells it at least. -/
theorem readName_longest (named : Spells (.ident name) word) (rest : List Char) :
    ∃ found left, readName (word ++ rest) = some (found, left) ∧ left <:+ rest := by
  obtain ⟨c, more, rfl, rfl, start, inside⟩ := spells_name.mp named
  refine ⟨String.ofList (c :: (more ++ rest).takeWhile isNameChar), rest.dropWhile isNameChar, ?_,
    List.dropWhile_suffix _⟩
  rw [List.cons_append, readName, if_pos start, List.dropWhile_append_of_pos inside]

theorem readStep_longest (spelled : SpellsStep Allowed step word) (rest : List Char) :
    ∃ found left, readStep (word ++ rest) = some (found, left) ∧ left <:+ rest := by
  cases spelled with
  | point named =>
    obtain ⟨found, left, read, suffix⟩ := readName_longest named rest
    refine ⟨.ok (.field found), left, ?_, suffix⟩
    rw [List.cons_append, readStep, read]
    rfl
  | member named =>
    obtain ⟨found, read⟩ := readStep_bracket (show SpellsStep Allowed _ _ from .member named) rest
    exact ⟨found, rest, read, List.suffix_refl _⟩
  | item spelled allowed =>
    obtain ⟨found, read⟩ := readStep_bracket (.item spelled allowed) rest
    exact ⟨found, rest, read, List.suffix_refl _⟩

/-! ## Paths -/

/-- Between two steps no name goes on. -/
theorem SpellsSteps.apart (spelled : SpellsSteps Allowed (step :: steps) word) (rest : List Char) :
    Apart (.ident name) (word ++ rest) := by
  cases spelled with
  | cons first others =>
    rw [List.append_assoc]
    exact first.apart _

theorem SpellsSteps.apart_name (spelled : SpellsSteps Allowed steps word) : Apart (.ident name) word := by
  cases spelled with
  | nil => nofun
  | cons first others => exact first.apart _

/-- Steps are spelled up to where none begins, or to an index that has too many digits. -/
theorem readSteps_spelled (cs : List Char) :
    (∀ found left, readSteps cs = .ok (found, left) → ∃ word, cs = word ++ left ∧ SpellsSteps Fits found word) ∧
    ∀ numeral, readSteps cs = .error numeral → ∃ steps word i digits after,
      cs = word ++ '[' :: (digits ++ ']' :: after) ∧ SpellsSteps Fits steps word ∧ Spells (.int i) digits ∧
        ¬ Fits (.int i) digits ∧ numeral = ⟨(Lexeme.int i).digits digits⟩ := by
  fun_induction readSteps cs with
  | case1 cs none =>
    constructor
    · rintro found left ⟨⟩
      exact ⟨[], rfl, .nil⟩
    · rintro numeral ⟨⟩
  | case2 cs numeral rest read =>
    constructor
    · rintro found left ⟨⟩
    rintro other ⟨⟩
    cases readStep_steps read with
    | oversized split spelled large => exact ⟨[], [], _, _, _, split, .nil, spelled, large, rfl⟩
  | case3 cs step rest read ih =>
    cases readStep_steps read with
    | @read step first split spelled =>
      subst split
      constructor
      · intro found left later
        obtain ⟨⟨more, after⟩, later, same⟩ := eq_ok_of_map later
        cases same
        obtain ⟨word, whole, others⟩ := ih.1 _ _ later
        exact ⟨first ++ word, by rw [List.append_assoc, ← whole], .cons spelled others⟩
      · intro numeral later
        obtain ⟨steps, word, i, digits, after, rfl, others, rest⟩ := ih.2 numeral (eq_error_of_map later)
        exact ⟨step :: steps, first ++ word, i, digits, after, by rw [List.append_assoc], .cons spelled others, rest⟩

theorem readSteps_suffix {cs left : List Char} (read : readSteps cs = .ok (steps, left)) : left <:+ cs := by
  obtain ⟨word, whole, -⟩ := (readSteps_spelled cs).1 _ _ read
  exact ⟨word, whole.symm⟩

/-- A first step that is there is read along with the others. -/
theorem readSteps_some {found : Except Text.Oversize Segment} (first : readStep cs = some (found, rest))
    (read : readSteps cs = .ok (steps, left)) : ∃ more, readSteps rest = .ok (more, left) := by
  cases found with
  | error numeral =>
    rw [readSteps_error first] at read
    cases read
  | ok step =>
    rw [readSteps_ok first] at read
    obtain ⟨⟨more, after⟩, later, same⟩ := eq_ok_of_map read
    cases same
    exact ⟨more, later⟩

/-- Steps are read from what spells them at least. -/
theorem readSteps_longest (spelled : SpellsSteps Allowed steps word) {found : List Segment}
    (read : readSteps (word ++ rest) = .ok (found, left)) : left <:+ rest := by
  induction spelled generalizing found with
  | nil => exact readSteps_suffix read
  | @cons step steps first more spelled others ih =>
    rw [List.append_assoc] at read
    cases steps with
    | nil =>
      cases others
      obtain ⟨step', after, taken, suffix⟩ := readStep_longest spelled rest
      rw [List.nil_append] at read
      obtain ⟨more, later⟩ := readSteps_some taken read
      exact (readSteps_suffix later).trans suffix
    | cons next steps =>
      obtain ⟨step', taken⟩ := readStep_of_spelled spelled fun name => others.apart rest
      obtain ⟨more, later⟩ := readSteps_some taken read
      exact ih later

theorem readBare_spelled (read : readBare cs = some (.ok (path, left))) :
    ∃ word, cs = word ++ left ∧ SpellsPath Fits path word := by
  obtain ⟨⟨root, rest⟩, inner, later⟩ := Option.map_eq_some_iff.mp read
  obtain ⟨⟨steps, after⟩, later, same⟩ := eq_ok_of_map later
  cases same
  obtain ⟨name, rfl, named, -⟩ := readName_eq_some.mp inner
  obtain ⟨word, rfl, stepped⟩ := (readSteps_spelled rest).1 _ _ later
  exact ⟨name ++ word, by rw [List.append_assoc], .intro named stepped⟩

theorem readBare_exceeds (read : readBare cs = some (.error numeral)) : Exceeds cs numeral := by
  obtain ⟨⟨root, rest⟩, inner, later⟩ := Option.map_eq_some_iff.mp read
  obtain ⟨name, rfl, named, -⟩ := readName_eq_some.mp inner
  obtain ⟨steps, word, i, digits, after, rfl, stepped, rest⟩ :=
    (readSteps_spelled rest).2 numeral (eq_error_of_map later)
  exact ⟨⟨root, steps⟩, name ++ word, i, digits, after, by rw [List.append_assoc], .intro named stepped, rest⟩

/-- A path is read from what spells it at least. -/
theorem readBare_longest (spelled : SpellsPath Allowed path word) {found : Path}
    (read : readBare (word ++ rest) = some (.ok (found, left))) : left <:+ rest := by
  obtain ⟨⟨root', after⟩, inner, later⟩ := Option.map_eq_some_iff.mp read
  obtain ⟨⟨steps', beyond⟩, later, same⟩ := eq_ok_of_map later
  cases same
  cases spelled with
  | @intro root steps name more named stepped =>
    rw [List.append_assoc] at inner
    cases steps with
    | nil =>
      cases stepped
      obtain ⟨name', left, again, suffix⟩ := readName_longest named rest
      rw [List.nil_append, again] at inner
      cases inner
      exact (readSteps_suffix later).trans suffix
    | cons next steps =>
      rw [readName_eq_some.mpr ⟨name, rfl, named, stepped.apart rest⟩] at inner
      cases inner
      exact readSteps_longest stepped later

/-! ## The same paths in the expression language -/

/-- Lexemes are laid out in a text. -/
def Lays (lexemes : List Lexeme) (text : List Char) : Prop :=
  ∃ tokens, Expr.lexemes tokens = lexemes ∧ Layout 0 tokens text

theorem lays_nil : Lays [] [] := ⟨[], rfl, .done nofun⟩

theorem Lays.cons {lexeme : Lexeme} {lexemes : List Lexeme} (lays : Lays lexemes rest) (spelled : Spells lexeme word)
    (fits : Fits lexeme word) (apart : Apart lexeme rest) : Lays (lexeme :: lexemes) (word ++ rest) := by
  obtain ⟨tokens, rfl, laid⟩ := lays
  obtain ⟨moved, same, laid⟩ := laid.anywhere (0 + 0 + word.length)
  have gapless : ∀ c ∈ [], Text.isBlank c = true := nofun
  exact ⟨⟨lexeme, 0⟩ :: moved, congrArg (lexeme :: ·) same, .next gapless spelled fits apart laid⟩

/-- Nothing goes on with a mark. -/
theorem Lays.mark {c : Char} {lexeme : Lexeme} {lexemes : List Lexeme} (lays : Lays lexemes rest)
    (known : mark? c = some lexeme) : Lays (lexeme :: lexemes) (c :: rest) :=
  lays.cons (.single known) (mark_fits known _) (mark_ends known rest)

/-- Nor does a name count digits. -/
theorem Lays.ident {lexemes : List Lexeme} (lays : Lays lexemes rest) (named : Spells (.ident name) word)
    (apart : Apart (.ident name) rest) : Lays (.ident name :: lexemes) (word ++ rest) :=
  lays.cons named (Nat.zero_le _) apart

/-- What spells steps writes a derivation of them. -/
theorem SpellsSteps.lays (spelled : SpellsSteps Fits steps word) : ∃ trees : List Expr.StepTree,
    trees.map Expr.StepTree.segment = steps ∧ Lays (trees.flatMap Expr.StepTree.word) word := by
  induction spelled with
  | nil => exact ⟨[], rfl, lays_nil⟩
  | @cons step steps first more spelled others ih =>
    obtain ⟨trees, rfl, lays⟩ := ih
    cases spelled with
    | @point name word named =>
      exact ⟨.point name :: trees, rfl, (lays.ident named others.apart_name).mark rfl⟩
    | @member name word named =>
      refine ⟨.member name :: trees, rfl, ?_⟩
      rw [List.cons_append, List.append_assoc]
      exact ((lays.mark rfl).ident named (apart_bracket _ more)).mark rfl
    | @item i word number fits =>
      refine ⟨.item i :: trees, rfl, ?_⟩
      rw [List.cons_append, List.append_assoc]
      exact ((lays.mark rfl).cons number fits (apart_bracket _ more)).mark rfl

/-- What spells a path writes a derivation of it, with the dollar sign and without. -/
theorem SpellsPath.writes (spelled : SpellsPath Fits path word) : ∃ first second : Expr.Tree,
    first.Writes ('$' :: word) ∧ first.expr = .ofPath path ∧ second.Writes word ∧ second.expr = .ofPath path := by
  cases spelled with
  | @intro root steps name more named stepped =>
    obtain ⟨trees, rfl, lays⟩ := stepped.lays
    have spelled := lays.ident named stepped.apart_name
    have word (dollar : Bool) : (⟨.operand (.path ⟨dollar, root, trees⟩), []⟩ : Expr.Tree).word =
        (if dollar then [.dollar] else []) ++ .ident root :: trees.flatMap Expr.StepTree.word := by
      simp [Expr.Tree.word, Expr.PrimaryTree.word, Expr.OperandTree.word, Expr.PathTree.word]
    refine ⟨⟨.operand (.path ⟨true, root, trees⟩), []⟩, ⟨.operand (.path ⟨false, root, trees⟩), []⟩, ?_, rfl, ?_, rfl⟩
    · rw [Expr.Tree.Writes, word]
      exact spelled.mark rfl
    · rw [Expr.Tree.Writes, word]
      exact spelled

/-- A dollar sign is no part of a name or an integer. -/
theorem spells_dollarless {lexeme : Lexeme} (spelled : Spells lexeme word) (unsigned : lexeme ≠ .dollar)
    (unquoted : ∀ s, lexeme ≠ .text s) : '$' ∉ word := by
  intro member
  cases spelled with
  | ident start inside => exact absurd (name_inside start inside _ member) (by decide)
  | natural nonempty inside => exact absurd (inside _ member) (by decide)
  | negative nonempty inside =>
    exact absurd (inside _ ((List.mem_cons.mp member).resolve_left (by decide))) (by decide)
  | text quote quotes => exact unquoted _ rfl
  | single known =>
    rw [← List.mem_singleton.mp member] at known
    exact unsigned (Option.some.inj known).symm

theorem SpellsStep.dollarless (spelled : SpellsStep Allowed step word) : '$' ∉ word := by
  cases spelled with
  | point named => simpa using spells_dollarless named nofun nofun
  | member named => simpa using spells_dollarless named nofun nofun
  | item number allowed => simpa using spells_dollarless number nofun nofun

theorem SpellsSteps.dollarless (spelled : SpellsSteps Allowed steps word) : '$' ∉ word := by
  induction spelled with
  | nil => exact List.not_mem_nil
  | cons first others ih => simpa using ⟨first.dollarless, ih⟩

theorem SpellsPath.dollarless (spelled : SpellsPath Allowed path word) : '$' ∉ word := by
  cases spelled with
  | intro named stepped => simpa using ⟨spells_dollarless named nofun nofun, stepped.dollarless⟩

end Spelling

/-! ## Bare references in a text -/

/-- A region in braces; any other reference is bare. -/
def isRegion : Fragment → Bool
  | text _ => false
  | reference _ source _ => source.toList.take 2 == ['\x7b', '\x7b']

theorem isRegion_braces (expr : Expr) (rest : List Char) (position : Nat) :
    isRegion (.reference expr (String.ofList ('\x7b' :: '\x7b' :: rest)) position) = true := by
  rw [isRegion, String.toList_ofList]
  rfl

/-- A bare reference in a text: it is spelled by the longest word at its place, and in braces the same expression is
read from that word, with its dollar sign or without. So it has the same value in braces, and is rendered alike if there
is one. -/
structure ReadsAlike (source : String) (expr : Expr) (written : String) (position : Nat) : Prop where
  spelled : ∃ path word, expr = .ofPath path ∧ written = String.ofList ('$' :: word) ∧ SpellsPath Fits path word
  isPrefix : written.toList <+: source.toList.drop position
  longest : ∀ path word, SpellsPath Any path word → '$' :: word <+: source.toList.drop position →
    ('$' :: word).length ≤ written.length
  alone : ∀ inside ∈ [written, String.ofList written.toList.tail], Expr.parse inside = .ok expr ∧
    parse (braced inside) = .ok [.reference expr (braced inside) 0]
  rendered : ∀ inside ∈ [written, String.ofList written.toList.tail], ∀ fragments,
    parse (braced inside) = .ok fragments → ∀ bindings, expr.eval bindings ≠ .ok none →
      renderAll bindings fragments = renderAll bindings [.reference expr written position]

section Texts
variable {source : String} {expr : Expr} {written : String} {position place : Nat} {cs word left : List Char}
  {fragments : List Fragment} {path : Path}

theorem renderAll_reference (bindings : Bindings) (bound : expr.eval bindings ≠ .ok none) (other : String)
    (elsewhere : Nat) : renderAll bindings [.reference expr written position] =
      renderAll bindings [.reference expr other elsewhere] := by
  have same : (reference expr written position).render bindings = (reference expr other elsewhere).render bindings := by
    simp only [render]
    split
    · rfl
    · exact absurd ‹_› bound
    · rfl
  simp only [renderAll, same]

theorem readsAlike (read : readBare (word ++ left) = some (.ok (path, left)))
    (here : source.toList.drop position = '$' :: (word ++ left)) :
    ReadsAlike source (.ofPath path) (String.ofList ('$' :: word)) position := by
  obtain ⟨spelling, same, spelled⟩ := readBare_spelled read
  obtain rfl := List.append_cancel_right same
  have alone : ∀ inside ∈ [String.ofList ('$' :: word), String.ofList (String.ofList ('$' :: word)).toList.tail],
      Expr.parse inside = .ok (.ofPath path) ∧
        parse (braced inside) = .ok [.reference (.ofPath path) (braced inside) 0] := by
    obtain ⟨first, second, writes, known, writes', known'⟩ := spelled.writes
    rw [String.toList_ofList, List.tail_cons, List.forall_mem_cons, List.forall_mem_singleton]
    refine ⟨⟨known ▸ Expr.parse_writes writes, known ▸ parse_braced writes⟩, ?_⟩
    exact ⟨known' ▸ Expr.parse_writes writes', known' ▸ parse_braced writes'⟩
  refine ⟨⟨path, word, rfl, rfl, spelled⟩, ?_, ?_, alone, ?_⟩
  · rw [here, String.toList_ofList]
    exact ⟨left, rfl⟩
  · rintro other longer spelled' ⟨rest, whole⟩
    rw [here] at whole
    have split : word ++ left = longer ++ rest := (List.cons.inj whole).2.symm
    have suffix : left <:+ rest := readBare_longest spelled' (split ▸ read)
    have lengths := congrArg List.length split
    have shorter := suffix.length_le
    rw [List.length_append, List.length_append] at lengths
    rw [String.length_ofList, List.length_cons, List.length_cons]
    omega
  · intro inside member fragments parsed bindings bound
    rw [(alone inside member).2] at parsed
    cases parsed
    exact renderAll_reference bindings bound _ _

/-- Where a reference of a text stands. -/
theorem Tiles.mem_reference (tiles : Tiles position cs fragments) (member : .reference expr written place ∈ fragments) :
    ∃ front word left, cs = front ++ (word ++ left) ∧ place = position + front.length ∧
      written = String.ofList word ∧ Refers expr word left := by
  induction tiles with
  | done => cases member
  | @text position run rest fragments nonempty literal apart more ih =>
    obtain ⟨front, word, left, rfl, rfl, rfl, refers⟩ := ih ((List.mem_cons.mp member).resolve_left nofun)
    exact ⟨run ++ front, word, left, by rw [List.append_assoc], by rw [List.length_append, Nat.add_assoc], rfl, refers⟩
  | @reference position expr' start rest fragments refers more ih =>
    rcases List.mem_cons.mp member with same | later
    · cases same
      exact ⟨[], start, rest, rfl, rfl, rfl, refers⟩
    · obtain ⟨front, word, left, rfl, rfl, rfl, refers⟩ := ih later
      have length : position + start.length + front.length = position + (start ++ front).length := by
        rw [List.length_append, Nat.add_assoc]
      exact ⟨start ++ front, word, left, by rw [List.append_assoc], length, rfl, refers⟩

/-- A literal run has no dollar sign before a name. -/
theorem Literal.dollar {run rest : List Char} {offset : Nat} {c : Char} (literal : Literal run rest)
    (inside : offset < run.length) (dollar : (run ++ rest)[offset]? = some '$')
    (next : (run ++ rest)[offset + 1]? = some c) : isNameStart c = false := by
  induction run generalizing offset with
  | nil => cases inside
  | cons d run ih =>
    obtain ⟨first, more⟩ := literal
    cases offset with
    | zero =>
      obtain rfl : d = '$' := Option.some.inj dollar
      have head : (run ++ rest).head? = some c := by rw [List.head?_eq_getElem?]; exact next
      simpa [opens, head] using first
    | succ offset => exact ih more (Nat.lt_of_succ_lt_succ inside) dollar next

/-- A dollar sign before a name stands in a region or starts a bare reference. -/
theorem Tiles.dollar (tiles : Tiles position cs fragments) {offset : Nat} {c : Char} (dollar : cs[offset]? = some '$')
    (next : cs[offset + 1]? = some c) (start : isNameStart c = true) : ∃ expr written place,
      .reference expr written place ∈ fragments ∧
        if isRegion (.reference expr written place) then
          place ≤ position + offset ∧ position + offset < place + written.length
        else place = position + offset := by
  induction tiles generalizing offset with
  | done => cases dollar
  | @text position run rest fragments nonempty literal apart more ih =>
    by_cases inside : offset < run.length
    · rw [literal.dollar inside dollar next] at start
      cases start
    · rw [List.getElem?_append_right (by omega)] at dollar next
      rw [Nat.sub_add_comm (by omega)] at next
      obtain ⟨expr, written, place, member, placed⟩ := ih dollar next
      have same : position + run.length + (offset - run.length) = position + offset := by omega
      rw [same] at placed
      exact ⟨expr, written, place, List.mem_cons_of_mem _ member, placed⟩
  | @reference position expr word rest fragments refers more ih =>
    by_cases inside : offset < word.length
    · refine ⟨expr, String.ofList word, position, List.mem_cons_self, ?_⟩
      cases refers with
      | region writes =>
        rw [if_pos (isRegion_braces _ _ _), String.length_ofList]
        exact ⟨Nat.le_add_right position offset, Nat.add_lt_add_left inside position⟩
      | @bare path word _ read =>
        obtain ⟨spelling, same, spelled⟩ := readBare_spelled read
        obtain rfl := List.append_cancel_right same
        cases offset with
        | zero => simp [isRegion]
        | succ offset =>
          -- No dollar sign comes after the first one.
          have early : offset < word.length := Nat.lt_of_succ_lt_succ inside
          rw [List.cons_append, List.getElem?_cons_succ, List.getElem?_append_left early] at dollar
          exact absurd (List.mem_of_getElem? dollar) spelled.dollarless
    · rw [List.getElem?_append_right (by omega)] at dollar next
      rw [Nat.sub_add_comm (by omega)] at next
      obtain ⟨expr, written, place, member, placed⟩ := ih dollar next
      have same : position + word.length + (offset - word.length) = position + offset := by omega
      rw [same] at placed
      exact ⟨expr, written, place, List.mem_cons_of_mem _ member, placed⟩

/-- A bare reference is the longest path at its place and the same reference in braces; a dollar sign before a name is
in a region or starts a bare reference. -/
theorem parse_bare (parsed : parse source = .ok fragments) :
    (∀ expr written position, .reference expr written position ∈ fragments →
      isRegion (.reference expr written position) = false → ReadsAlike source expr written position) ∧
    ∀ offset c, source.toList[offset]? = some '$' → source.toList[offset + 1]? = some c → isNameStart c = true →
      ∃ expr written place, .reference expr written place ∈ fragments ∧
        if isRegion (.reference expr written place) then place ≤ offset ∧ offset < place + written.length
        else place = offset := by
  have tiles := tiles_of_parse parsed
  constructor
  · intro expr written position member bare
    obtain ⟨front, word, left, whole, rfl, rfl, refers⟩ := tiles.mem_reference member
    have here : source.toList.drop (0 + front.length) = word ++ left := by
      rw [whole, Nat.zero_add, List.drop_left]
    cases refers with
    | region writes => simp [isRegion] at bare
    | bare read => exact readsAlike read here
  · intro offset c dollar next start
    simpa using tiles.dollar dollar next start

/-- The path goes on for as long as its form allows, and a dollar sign in a region starts nothing. -/
theorem parse_bare_bill : ∃ fragments, parse "Cost: $5, $a.b[0].[x \x7b\x7b $c \x7d\x7d" = .ok fragments ∧
    ReadsAlike "Cost: $5, $a.b[0].[x \x7b\x7b $c \x7d\x7d" (.ofPath ⟨"a", [.field "b", .index 0]⟩) "$a.b[0]" 10 ∧
    ∃ expr written place, .reference expr written place ∈ fragments ∧
      if isRegion (.reference expr written place) then place ≤ 24 ∧ 24 < place + written.length else place = 24 := by
  have parsed : parse "Cost: $5, $a.b[0].[x \x7b\x7b $c \x7d\x7d" = .ok [.text "Cost: $5, ",
      .reference (.ofPath ⟨"a", [.field "b", .index 0]⟩) "$a.b[0]" 10, .text ".[x ",
      .reference (.ofPath ⟨"c", []⟩) "\x7b\x7b $c \x7d\x7d" 21] := by decide +kernel
  obtain ⟨alike, dollars⟩ := parse_bare parsed
  exact ⟨_, parsed, alike _ _ _ (by simp) rfl, dollars 24 'c' rfl rfl rfl⟩

end Texts
end Colloquy.Fragment
