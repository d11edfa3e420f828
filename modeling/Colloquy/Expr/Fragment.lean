import Colloquy.Expr.Parser
import Colloquy.Text.Lines

/-! Texts with references in them. A text is cut into literal runs and references; a reference is a region in
double braces or a bare path after a dollar sign, and keeps its own spelling. -/
namespace Colloquy

/-- A piece of a text. -/
inductive Fragment where
  | text (s : String)
  | reference (expr : Expr) (source : String) (position : Nat)
  deriving DecidableEq, Repr, Inhabited

namespace Fragment

/-- The characters that the fragment stands for in the text. -/
def source : Fragment → String
  | text s => s
  | reference _ source _ => source

/-- A fault in a region, with its place in the text. -/
structure Failure where
  fault : Expr.Fault
  position : Int
  place : Text.Place
  deriving DecidableEq, Repr

/-- The name at the start of `cs`, with the rest. -/
def readName : List Char → Option (String × List Char)
  | c :: rest =>
    if Token.isNameStart c then
      some (String.ofList (c :: rest.takeWhile Token.isNameChar), rest.dropWhile Token.isNameChar)
    else none
  | [] => none

/-- The integer at the start of `cs`, unless it has too many digits, with the rest. -/
def readIndex (cs : List Char) : Option (Except Text.Oversize Int × List Char) :=
  let (negative, body) := match cs with
    | '-' :: rest => (true, rest)
    | _ => (false, cs)
  match body.takeWhile Text.isAsciiDigit with
  | [] => none
  | digits =>
    let i := (Token.readDecimal digits).map fun (n : Nat) => if negative then -(n : Int) else n
    some (i, body.dropWhile Text.isAsciiDigit)

/-- One step of a bare path, with the rest: a point and a name, or a name or integer in brackets, nothing
between them. The integer may have too many digits. -/
def readStep : List Char → Option (Except Text.Oversize Segment × List Char)
  | '.' :: rest => (readName rest).map fun (name, rest) => (.ok (.field name), rest)
  | '[' :: rest =>
    match readIndex rest with
    | some (i, ']' :: rest) => some (i.map .index, rest)
    | _ =>
      match readName rest with
      | some (name, ']' :: rest) => some (.ok (.field name), rest)
      | _ => none
  | _ => none

theorem readName_shorter {cs rest : List Char} {name : String} (read : readName cs = some (name, rest)) :
    rest.length < cs.length := by
  unfold readName at read
  split at read
  · next c tail =>
    split at read
    · have := length_dropWhile_le Token.isNameChar tail
      simp at read
      simp [← read.2]
      omega
    · simp at read
  · simp at read

theorem readIndex_shorter {cs rest : List Char} {i : Except Text.Oversize Int} (read : readIndex cs = some (i, rest)) :
    rest.length ≤ cs.length := by
  unfold readIndex at read
  split at read
  next negative body split =>
  split at read
  · simp at read
  · simp at read
    have := length_dropWhile_le Text.isAsciiDigit body
    have bound : body.length ≤ cs.length := by
      split at split <;> simp at split <;> simp [← split.2]
    simp [← read.2]
    omega

theorem readStep_shorter {cs rest : List Char} {step : Except Text.Oversize Segment}
    (read : readStep cs = some (step, rest)) : rest.length < cs.length := by
  unfold readStep at read
  split at read
  · next tail =>
    simp only [Option.map_eq_some_iff, Prod.exists, Prod.mk.injEq] at read
    obtain ⟨name, left, inner, -, rfl⟩ := read
    have := readName_shorter inner
    simp
    omega
  · next tail =>
    split at read
    · next i left inner =>
      have := readIndex_shorter inner
      simp at read
      simp_all
      omega
    · split at read
      · next name left inner =>
        have := readName_shorter inner
        simp at read
        simp_all
        omega
      · simp at read
  · simp at read

/-- The steps of a bare path, as many as follow one another, up to one with too many digits. -/
def readSteps (cs : List Char) : Except Text.Oversize (List Segment × List Char) :=
  match _read : readStep cs with
  | none => .ok ([], cs)
  | some (.error numeral, _) => .error numeral
  | some (.ok step, rest) => (readSteps rest).map fun (more, left) => (step :: more, left)
termination_by cs.length
decreasing_by exact readStep_shorter _read

/-- The bare path that follows a dollar sign, with the rest. -/
def readBare (cs : List Char) : Option (Except Text.Oversize (Path × List Char)) :=
  (readName cs).map fun (name, rest) => (readSteps rest).map fun (steps, left) => (⟨name, steps⟩, left)

/-- The literal run that has been read, in reverse, as a fragment unless it is empty. -/
def flush (run : List Char) (more : List Fragment) : List Fragment :=
  if run.isEmpty then more else .text (String.ofList run.reverse) :: more

/-- Cuts the rest `cs` of a text, which starts at `position`; `run` holds the literal characters just before
it in reverse. -/
def cut (position : Nat) (run : List Char) : List Char → Except (Unread Expr.Failure) (List Fragment)
  | [] => .ok (flush run [])
  | c :: rest =>
    if c == '\x7b' && rest.head? == some '\x7b' then
      match Region.read (position + 2) rest.tail with
      | .error reason => .error reason
      | .ok region =>
        match Expr.heldBy region with
        | .error reason => .error reason
        | .ok expr =>
          let size := region.stop - position
          let source := String.ofList ((c :: rest).take size)
          (cut (position + size) [] (rest.drop (size - 1))).map fun more =>
            flush run (.reference expr source position :: more)
    else if c == '$' then
      match readBare rest with
      | some (.error numeral) => .error (.oversized numeral)
      | some (.ok (path, left)) =>
        let size := 1 + (rest.length - left.length)
        let source := String.ofList ((c :: rest).take size)
        (cut (position + size) [] (rest.drop (size - 1))).map fun more =>
          flush run (.reference (.ofPath path) source position :: more)
      | none => cut (position + 1) (c :: run) rest
    else cut (position + 1) (c :: run) rest
termination_by cs => cs.length
decreasing_by all_goals simp +arith

/-- Cuts a text into literal runs and references. -/
def parse (source : String) : Except (Unread Failure) (List Fragment) :=
  match cut 0 [] source.toList with
  | .ok fragments => .ok fragments
  | .error (.malformed ⟨fault, position⟩) => .error (.malformed ⟨fault, position, Text.place source position⟩)
  | .error (.oversized numeral) => .error (.oversized numeral)

end Fragment
end Colloquy
