import Colloquy.Markup.Character
import Colloquy.Markup.Fault
import Colloquy.Reading

/-! The tokens of markup. A scanner takes the rest of a document and returns what it read with what is left; it
stops at a character that cannot stand where it does, or when the document ends inside a token. -/
namespace Colloquy.Markup

/-- Why a scanner stopped. -/
inductive Stop where
  | invalid (left : Nat)
  | unfinished
  deriving DecidableEq, Repr

/-- What a scanner read and left. -/
abbrev Scan (α : Type) := Except Stop (α × List Char)

/-- Stops at the first of `cs`; at the end of the document the token is unfinished. -/
def stopAt {α : Type} (cs : List Char) : Except Stop α :=
  .error (if cs.isEmpty then .unfinished else .invalid cs.length)

/-- A name without a colon. -/
def name : List Char → Scan String
  | [] => stopAt []
  | c :: rest =>
    if isNameStart c then .ok (String.ofList (c :: rest.takeWhile isNameChar), rest.dropWhile isNameChar)
    else stopAt (c :: rest)

/-- A name with the prefix that selects its namespace. -/
structure QName where
  space : Option String
  base : String
  deriving DecidableEq, Repr

/-- The name as written. -/
def QName.written (q : QName) : String :=
  match q.space with
  | some space => space ++ ":" ++ q.base
  | none => q.base

/-- A name with at most one colon, and a name on each side of it. -/
def qualified (cs : List Char) : Scan QName :=
  match name cs with
  | .error stop => .error stop
  | .ok (first, ':' :: rest) =>
    match name rest with
    | .error stop => .error stop
    | .ok (_, ':' :: rest) => stopAt (':' :: rest)
    | .ok (second, rest) => .ok (⟨some first, second⟩, rest)
  | .ok (first, rest) => .ok (⟨none, first⟩, rest)

/-- What an ampersand introduces. -/
inductive Reference where
  | code (n : Nat)
  | entity (name : String)
  deriving DecidableEq, Repr

/-- A decimal digit. -/
def isDigit (c : Char) : Bool := '0' ≤ c && c ≤ '9'

/-- A hexadecimal digit. -/
def isHexDigit (c : Char) : Bool := isDigit c || 'a' ≤ c && c ≤ 'f' || 'A' ≤ c && c ≤ 'F'

/-- The value of a hexadecimal digit. -/
def hexValue (c : Char) : Nat :=
  if isDigit c then c.toNat - '0'.toNat
  else if 'a' ≤ c then c.toNat - 'a'.toNat + 10 else c.toNat - 'A'.toNat + 10

/-- Digits of a base up to a semicolon. -/
def characterCode (base : Nat) (p : Char → Bool) (cs : List Char) : Scan Reference :=
  match cs.takeWhile p, cs.dropWhile p with
  | [], _ => stopAt cs
  | digits, ';' :: rest => .ok (.code (digits.foldl (fun n c => n * base + hexValue c) 0), rest)
  | _, rest => stopAt rest

/-- The reference after an ampersand. -/
def reference : List Char → Scan Reference
  | '#' :: 'x' :: rest => characterCode 16 isHexDigit rest
  | '#' :: rest => characterCode 10 isDigit rest
  | cs =>
    match name cs with
    | .error stop => .error stop
    | .ok (entity, ';' :: rest) => .ok (.entity entity, rest)
    | .ok (_, rest) => stopAt rest

/-- The characters up to the quote that closes a value; ampersands must introduce references and no tag may
start. -/
def quotedValue (quote : Char) : List Char → Scan (List Char)
  | [] => stopAt []
  | c :: rest =>
    if c == quote then .ok ([], rest)
    else if c == '<' || !isAllowed c then stopAt (c :: rest)
    else
      let more := (quotedValue quote rest).map fun (value, left) => (c :: value, left)
      if c == '&' then
        match reference rest with
        | .error stop => .error stop
        | .ok _ => more
      else more

/-- An attribute as written: `left` and `valueLeft` tell where its name and its value start. -/
structure RawAttribute where
  name : QName
  left : Nat
  value : List Char
  valueLeft : Nat
  deriving Repr

/-- The white space that is skipped between parts of a tag. -/
def skipGaps (cs : List Char) : List Char := cs.dropWhile isGap

/-- One attribute: name, equals sign and quoted value. -/
def rawAttribute (cs : List Char) : Scan RawAttribute :=
  match qualified cs with
  | .error stop => .error stop
  | .ok (name, rest) =>
    match skipGaps rest with
    | '=' :: rest =>
      match skipGaps rest with
      | quote :: rest =>
        if quote == '"' || quote == '\'' then
          (quotedValue quote rest).map fun (value, left) => (⟨name, cs.length, value, rest.length⟩, left)
        else stopAt (quote :: rest)
      | [] => stopAt []
    | rest => stopAt rest

/-- The end of a start tag, and whether it also closes the element. -/
def tagEnd : List Char → Scan Bool
  | '>' :: rest => .ok (false, rest)
  | '/' :: '>' :: rest => .ok (true, rest)
  | '/' :: rest => stopAt rest
  | rest => stopAt rest

/-- A comment after its opening; two hyphens close it or are out of place. -/
def commentBody : List Char → Scan (List Char)
  | '-' :: '-' :: '>' :: rest => .ok ([], rest)
  | '-' :: '-' :: rest => stopAt rest
  | c :: rest =>
    if isAllowed c then (commentBody rest).map fun (body, left) => (c :: body, left) else stopAt (c :: rest)
  | [] => stopAt []

/-- The body of a processing instruction. -/
def instructionBody : List Char → Scan (List Char)
  | '?' :: '>' :: rest => .ok ([], rest)
  | c :: rest =>
    if isAllowed c then (instructionBody rest).map fun (body, left) => (c :: body, left)
    else stopAt (c :: rest)
  | [] => stopAt []

/-- A processing instruction, or the declaration that uses its syntax. -/
inductive Instruction where
  | declaration (body : List Char) (left : Nat)
  | other
  deriving Repr

/-- A processing instruction after its opening. The name `xml` makes it a declaration; other spellings of that
name are out of place. -/
def instruction (cs : List Char) : Scan Instruction :=
  match name cs with
  | .error stop => .error stop
  | .ok (target, rest) =>
    let reserved := target.toLower == "xml" && target != "xml"
    match rest with
    | [] => stopAt []
    | c :: more =>
      if !(isGap c || c == '?') || reserved then stopAt rest
      else if c == '?' && more.head? != some '>' then stopAt more
      else (instructionBody rest).map fun (body, left) =>
        (if target == "xml" then .declaration body rest.length else .other, left)

/-- The number of bytes that characters are stored in. -/
def bytes (cs : List Char) : Nat := cs.foldl (fun n c => n + c.utf8Size) 0

/-- The word that opens a section of character data, after `<![`. -/
def characterDataOpening (cs : List Char) : Scan Unit :=
  let word := "CDATA[".toList
  if bytes (cs.take word.length) < word.length then .error .unfinished
  else if word.isPrefixOf cs then .ok ((), cs.drop word.length)
  else
    let agreed := ((cs.zip word).takeWhile fun (c, w) => c == w).length
    stopAt (cs.drop agreed)

/-- The name in an end tag, which may hold colons anywhere but at its start. -/
def closingName : List Char → Scan String
  | [] => stopAt []
  | c :: rest =>
    if isNameStart c then
      let p c := isNameChar c || c == ':'
      .ok (String.ofList (c :: rest.takeWhile p), rest.dropWhile p)
    else stopAt (c :: rest)

/-- An end tag after its opening. -/
def closingTag (cs : List Char) : Scan String :=
  match closingName cs with
  | .error stop => .error stop
  | .ok (tag, rest) =>
    match skipGaps rest with
    | '>' :: rest => .ok (tag, rest)
    | rest => stopAt rest

/-- A scanner only goes forward. -/
def Forward {α : Type} (cs : List Char) (scan : Scan α) : Prop :=
  ∀ found rest, scan = .ok (found, rest) → rest.length ≤ cs.length

theorem stopAt_forward {α : Type} (cs before : List Char) : Forward before (stopAt cs : Scan α) := by
  intro found rest read
  simp [stopAt] at read

theorem map_forward {α β : Type} {cs : List Char} {scan : Scan α} {f : α × List Char → β × List Char}
    (forward : Forward cs scan) (keeps : ∀ found rest, (f (found, rest)).2 = rest) :
    Forward cs (scan.map f) := by
  intro found rest read
  cases scan with
  | error stop => simp [Except.map] at read
  | ok result =>
    have left := keeps result.1 result.2
    simp only [Except.map, Except.ok.injEq] at read
    rw [read] at left
    simp only at left
    rw [left]
    exact forward result.1 result.2 rfl

theorem name_forward (cs : List Char) : Forward cs (name cs) := by
  intro found rest read
  unfold name at read
  split at read
  · simp [stopAt] at read
  · split at read
    · next tail _ =>
      have := length_dropWhile_le isNameChar tail
      simp at read
      simp [← read.2]
      omega
    · simp [stopAt] at read

theorem qualified_forward (cs : List Char) : Forward cs (qualified cs) := by
  intro found rest read
  unfold qualified at read
  split at read
  · simp at read
  · next first tail opened =>
    have outer := name_forward cs _ _ opened
    split at read
    · simp at read
    · simp [stopAt] at read
    · next second left inner =>
      have := name_forward tail _ _ inner
      simp at read outer
      simp [← read.2]
      omega
  · next opened =>
    have := name_forward cs _ _ opened
    simp at read
    simp_all

theorem characterCode_forward (base : Nat) (p : Char → Bool) (cs : List Char) :
    Forward cs (characterCode base p cs) := by
  intro found rest read
  unfold characterCode at read
  split at read
  · simp [stopAt] at read
  · next left =>
    have := length_dropWhile_le p cs
    simp at read
    simp_all
    omega
  · simp [stopAt] at read

theorem reference_forward (cs : List Char) : Forward cs (reference cs) := by
  intro found rest read
  unfold reference at read
  split at read
  · have := characterCode_forward _ _ _ _ _ read
    simp
    omega
  · have := characterCode_forward _ _ _ _ _ read
    simp
    omega
  · split at read
    · simp at read
    · next opened =>
      have := name_forward cs _ _ opened
      simp at read this
      simp_all
      omega
    · simp [stopAt] at read

theorem quotedValue_forward (quote : Char) (cs : List Char) : Forward cs (quotedValue quote cs) := by
  induction cs with
  | nil => exact stopAt_forward _ _
  | cons c tail ih =>
    have more : Forward tail ((quotedValue quote tail).map fun (value, left) => (c :: value, left)) :=
      map_forward ih fun _ _ => rfl
    intro found rest read
    unfold quotedValue at read
    split at read
    · simp at read; simp [← read.2]
    · split at read
      · simp [stopAt] at read
      · split at read
        · split at read
          · simp at read
          · have := more _ _ read; simp; omega
        · have := more _ _ read; simp; omega

theorem rawAttribute_shorter {cs rest : List Char} {found : RawAttribute}
    (read : rawAttribute cs = .ok (found, rest)) : rest.length < cs.length := by
  unfold rawAttribute at read
  split at read
  · simp at read
  · next first tail opened =>
    have a := qualified_forward cs _ _ opened
    have b := length_dropWhile_le isGap tail
    split at read
    · next after same =>
      have c := length_dropWhile_le isGap after
      split at read
      · next quote value equal =>
        split at read
        · have := map_forward (quotedValue_forward quote value) (fun _ _ => rfl) _ _ read
          simp only [skipGaps] at same equal
          simp [same] at b
          simp [equal] at c
          omega
        · simp [stopAt] at read
      · simp [stopAt] at read
    · simp [stopAt] at read

theorem tagEnd_forward (cs : List Char) : Forward cs (tagEnd cs) := by
  intro found rest read
  unfold tagEnd at read
  split at read <;> simp [stopAt] at read <;> simp [← read.2]
  omega

theorem commentBody_forward (cs : List Char) : Forward cs (commentBody cs) := by
  fun_induction commentBody cs with
  | case1 rest => intro found left read; simp at read; simp [← read.2]; omega
  | case2 => exact stopAt_forward _ _
  | case3 c rest _ _ _ ih =>
    intro found left read
    have := map_forward ih (fun _ _ => rfl) _ _ read
    simp
    omega
  | case4 => exact stopAt_forward _ _
  | case5 => exact stopAt_forward _ _

theorem instructionBody_forward (cs : List Char) : Forward cs (instructionBody cs) := by
  fun_induction instructionBody cs with
  | case1 rest => intro found left read; simp at read; simp [← read.2]; omega
  | case2 c rest _ _ ih =>
    intro found left read
    have := map_forward ih (fun _ _ => rfl) _ _ read
    simp
    omega
  | case3 => exact stopAt_forward _ _
  | case4 => exact stopAt_forward _ _

theorem instruction_forward (cs : List Char) : Forward cs (instruction cs) := by
  intro found rest read
  unfold instruction at read
  split at read
  · simp at read
  · next target tail opened =>
    have := name_forward cs _ _ opened
    dsimp only at read
    split at read
    · simp [stopAt] at read
    · split at read
      · simp [stopAt] at read
      · split at read
        · simp [stopAt] at read
        · have := map_forward (instructionBody_forward _) (fun _ _ => rfl) _ _ read
          omega

theorem characterDataOpening_forward (cs : List Char) : Forward cs (characterDataOpening cs) := by
  intro found rest read
  simp only [characterDataOpening] at read
  split at read
  · simp at read
  · split at read
    · simp at read
      simp [← read]
    · simp [stopAt] at read

theorem closingTag_forward (cs : List Char) : Forward cs (closingTag cs) := by
  intro found rest read
  unfold closingTag at read
  split at read
  · simp at read
  · next tag tail opened =>
    have named : tail.length ≤ cs.length := by
      unfold closingName at opened
      split at opened
      · simp [stopAt] at opened
      · split at opened
        · next more _ =>
          have := length_dropWhile_le (fun c => isNameChar c || c == ':') more
          simp at opened
          simp [← opened.2]
          omega
        · simp [stopAt] at opened
    have := length_dropWhile_le isGap tail
    split at read
    · next same =>
      simp only [skipGaps] at same
      simp at read
      simp [same] at this
      simp_all
      omega
    · simp [stopAt] at read

end Colloquy.Markup
