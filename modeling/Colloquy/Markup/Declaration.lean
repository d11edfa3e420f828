import Colloquy.Markup.Scan

/-! The declaration at the head of a document: a version, then optionally an encoding and whether the document
stands alone. Only the last has an effect on reading. -/
namespace Colloquy.Markup.Declaration

/-- A name with a quoted value, or what stands where none can be read, given by the characters left there. -/
structure Setting where
  name : List Char
  nameLeft : Nat
  value : List Char
  valueLeft : Nat

/-- A character that a quoted value of a declaration may hold. -/
def isValueChar (c : Char) : Bool := c.isAlphanum || c == '.' || c == '-' || c == '_'

/-- The next setting of a declaration, none at its end; an error tells where reading failed. -/
def setting (cs : List Char) : Except Nat (Option Setting × List Char) :=
  match cs with
  | [] => .ok (none, [])
  | c :: _ =>
    if !isGap c then .error cs.length
    else
      let start := cs.dropWhile isGap
      let name := start.takeWhile fun c => c.toNat < 128 && c != '=' && !isGap c
      match start, (start.drop name.length).dropWhile isGap with
      | [], _ => .ok (none, [])
      | _, '=' :: rest =>
        if name.isEmpty then .error (rest.length + 1)
        else
          match rest.dropWhile isGap with
          | quote :: rest =>
            if quote == '"' || quote == '\'' then
              let value := rest.takeWhile isValueChar
              match rest.drop value.length with
              | c :: more =>
                if c == quote then .ok (some ⟨name, start.length, value, rest.length⟩, more)
                else .error (more.length + 1)
              | [] => .error 0
            else .error (rest.length + 1)
          | [] => .error 0
      | _, rest => .error rest.length

/-- What follows a setting that was the last but for white space. -/
def finish (rest : List Char) (value : Bool) : Except Nat Bool :=
  match rest.dropWhile isGap with
  | [] => .ok value
  | rest => .error rest.length

/-- The setting that says whether the document stands alone. -/
def standalone (s : Setting) (rest : List Char) : Except Nat Bool :=
  if s.name != "standalone".toList then .error s.nameLeft
  else if s.value == "yes".toList then finish rest true
  else if s.value == "no".toList then finish rest false
  else .error s.valueLeft

/-- Whether the document stands alone, or where its declaration is malformed. `after` counts the characters
behind the body. -/
def read (after : Nat) (body : List Char) : Except Nat Bool :=
  (go body).mapError (· + after)
where
  /-- The settings in their order. -/
  go (body : List Char) : Except Nat Bool := do
    match ← setting body with
    | (none, rest) => .error rest.length
    | (some version, rest) =>
      if version.name != "version".toList then .error version.nameLeft
      else
        match ← setting rest with
        | (none, _) => return false
        | (some second, rest) =>
          if second.name == "encoding".toList then
            if !(second.value.head?.any Char.isAlpha) then .error second.valueLeft
            else
              match ← setting rest with
              | (none, _) => return false
              | (some third, rest) => standalone third rest
          else standalone second rest

end Colloquy.Markup.Declaration
