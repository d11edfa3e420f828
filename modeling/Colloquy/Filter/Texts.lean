import Colloquy.Filter.Numbers
import Colloquy.Text.Lines
import Colloquy.Text.Word

/-! Filters on texts. Values of other kinds are taken as their text. A text that is marked safe stays so under filters
that only rearrange its characters. -/
namespace Colloquy.Filter
open Colloquy.Text

/-- The characters that have a meaning in markup, written as references. -/
def escapeChar (c : Char) : List Char :=
  if c == '&' then ['&', 'a', 'm', 'p', ';']
  else if c == '<' then ['&', 'l', 't', ';']
  else if c == '>' then ['&', 'g', 't', ';']
  else if c == '\'' then ['&', '#', '3', '9', ';']
  else if c == '"' then ['&', '#', '3', '4', ';']
  else [c]

/-- A text with those characters escaped. -/
def escapeText (s : String) : String := String.ofList (s.toList.flatMap escapeChar)

/-- A value as a safe text; one that is safe already is left alone. -/
def escaped : Value → Value
  | .safe s => .safe s
  | value => .safe (escapeText value.asText)

/-- Changes the text of a value and keeps whether it is safe. -/
def onText (f : String → String) : Value → Value
  | .safe s => .safe (f s)
  | value => .text (f value.asText)

/-- A filter without parameters that changes the text of a value. -/
def textual (f : String → String) : Filter := total [] fun value _ => .ok (onText f value)

/-- Joins two texts; if either is safe the other is escaped. -/
def joined : Value → Value → Value
  | .safe s, .safe t => .safe (s ++ t)
  | .safe s, other => .safe (s ++ escapeText other.asText)
  | other, .safe t => .safe (escapeText other.asText ++ t)
  | a, b => .text (a.asText ++ b.asText)

/-- A character that a word in a title may follow. -/
def startsWord (c : Char) : Bool := isBlank c || c == '-' || c == '(' || c == '{' || c == '[' || c == '<'

/-- One run of a title: its first character in capitals and the others small. -/
def titleRun (run : List Char) : String :=
  upper (String.ofList (run.take 1)) ++ lower (String.ofList (run.drop 1))

/-- A text with every word capitalized. -/
def title (s : String) : String := String.join ((runs startsWord s.toList).map titleRun)

/-- A text in the middle of a line of `width` characters; an odd blank stands on the left if the width is odd. -/
def centered (width : Int) (s : String) : String :=
  let missing := width.toNat - s.length
  let left := missing / 2 + (if missing % 2 == 1 && width.toNat % 2 == 1 then 1 else 0)
  String.ofList (List.replicate left ' ' ++ s.toList ++ List.replicate (missing - left) ' ')

/-- Lines with `gap` in front of all but the first; empty ones are left alone unless `blanks` is set. -/
def indented (gap : List Char) (blanks : Bool) (s : List Char) : List Char :=
  match splitLines (s ++ ['\n']) with
  | [] => []
  | first :: rest =>
    first ++ rest.flatMap fun line => '\n' :: (if line.isEmpty && !blanks then line else gap ++ line)

/-- The number of words in a text. -/
def wordCount (s : String) : Nat :=
  ((runs isWordChar s.toList).filter fun run => (run.head?.map isWordChar).getD false).length

/-- The width of an indentation: spaces, or the very text. -/
def gapOf : Value → Except Misuse (List Char)
  | .text s | .safe s => .ok s.toList
  | value => (bounded 63 value).map fun n => List.replicate n.toNat ' '

/-- Moves the lines of a text to the right. -/
def indent (value : Value) (argument : String → Value) : Except Misuse Value := do
  let gap ← gapOf (argument "width")
  let blanks := (argument "blank").isTrue
  let front := if (argument "first").isTrue then gap else []
  match value with
  | .text s => return .text (String.ofList (front ++ indented gap blanks s.toList))
  | .safe s => return .safe (String.ofList (front ++ indented gap blanks s.toList))
  | .list _ => throw .noAttribute
  | _ => throw .wrongType

/-- The first items of a sequence, as many as there are or all but some at the end. -/
def upTo {α : Type} (n : Int) (items : List α) : List α :=
  if 0 ≤ n then items.take n.toNat else items.take (items.length - (-n).toNat)

/-- A length that a text is measured against, with whether it can be used to cut one. -/
def lengthOf : Value → Except Misuse (Int × Bool)
  | .float x =>
    match Decimal.ratio? x with
    | some (num, den) => .ok (Int.fdiv num den, false)
    | none => .error .wrongType
  | value => (whole value).map fun n => (n, true)

/-- Shortens a text to a length with an ending, at a blank unless words may be cut; a text that is only a little
longer is left alone. The rule needs the length to leave room for the ending. -/
def truncate (subject : Option Value) (argument : String → Value) : Filtered := do
  let ending := argument "end"
  let (length, cuts) ← lengthOf (argument "length")
  let some size := ending.length? | throw .wrongType
  if length < size then throw .assertion
  let leeway ← match argument "leeway" with
    | .null => .ok 5
    | other => whole other
  if leeway < 0 then throw .assertion
  let value ← defined subject
  let some total := value.length? | throw .wrongType
  if (total : Int) ≤ length + leeway then return some value
  if !cuts then throw .wrongType
  let cutsWords := (argument "killwords").isTrue
  match value with
  | .text s | .safe s =>
    let start := upTo (length - size) s.toList
    let kept := String.ofList (if cutsWords then start else beforeLast ' ' start)
    if ending.text?.isNone then throw .wrongType
    return some (joined (match value with
      | .safe _ => .safe kept
      | _ => .text kept) ending)
  | .list _ | .tuple _ | .range _ _ _ => throw (if cutsWords then .wrongType else .noAttribute)
  | _ => throw .wrongType

/-- Puts one text in the place of another. -/
def replaced (value : Value) (argument : String → Value) : Except Misuse Value := do
  let limit ← match argument "count" with
    | .null => .ok none
    | other => (whole other).map fun n => if n < 0 then none else some n.toNat
  return .text (String.ofList
    (Text.replace (argument "old").asText.toList (argument "new").asText.toList limit value.asText.toList))

/-- Removes characters from the ends of a text: the blank ones, or those of a given text. -/
def trimmed (value : Value) (argument : String → Value) : Except Misuse Value :=
  match argument "chars" with
  | .null => .ok (onText Text.trim value)
  | .text set | .safe set =>
    .ok (onText (fun s => String.ofList (trimBy (fun c => set.toList.contains c) s.toList)) value)
  | _ => .error .wrongType

/-- What a value reads as, where a text that cannot be read is no good. -/
def readOr {α : Type} (value : Value) (read : Except Misuse (Option α)) : Except Misuse α := do
  match ← read with
  | some found => return found
  | none => throw (if value.text?.isSome then .badValue "the text is no number" else .wrongType)

/-- How arguments are read in a safe format: their texts are escaped, and a text may stand for the number that it
writes; a place that needs a number or a character of its own takes none of them. -/
def safeRules : Value.Format.Rules where
  guarded := escapeText
  whole value := readOr value (readWhole (.int 10) value)
  exact _ := .error .wrongType
  fraction value := readOr value (readFloat value)
  character _ := .error .wrongType

/-- Fills the directives of a text with the arguments. -/
def formatted (subject : Option Value) (positional : List Value) (keywords : Fields Value) : Filtered := do
  if !positional.isEmpty && !keywords.isEmpty then
    throw (.badArgument "can't handle positional and keyword arguments at the same time")
  let value ← defined subject
  let supply := if keywords.isEmpty then Value.Format.Supply.row positional
    else .names keywords (some (.mapping keywords))
  match value with
  | .safe s => return some (.safe (← Value.Format.write safeRules s supply))
  | other => return some (.text (← Value.Format.write .plain other.asText supply))

/-- The filters on texts. -/
def texts : Fields Filter := [
  ("upper", textual upper),
  ("lower", textual lower),
  ("capitalize", textual capitalize),
  ("title", total [] fun value _ => .ok (.text (title value.asText))),
  ("string", textual id),
  ("safe", total [] fun value _ => .ok (.safe value.asText)),
  ("e", total [] fun value _ => .ok (escaped value)),
  ("escape", total [] fun value _ => .ok (escaped value)),
  ("forceescape", total [] fun value _ => .ok (.safe (escapeText value.asText))),
  ("center", total [.optional "width" (.int 80)] fun value argument => do
    let width ← bounded 63 (argument "width")
    return onText (centered width) value),
  ("indent", total [.optional "width" (.int 4), .optional "first" (.bool false), .optional "blank" (.bool false)]
    indent),
  ("truncate", plain [.optional "length" (.int 255), .optional "killwords" (.bool false),
    .optional "end" (.text "..."), .optional "leeway" .null] truncate),
  ("replace", total [.required "old", .required "new", .optional "count" .null] replaced),
  ("trim", total [.optional "chars" .null] trimmed),
  ("wordcount", total [] fun value _ => .ok (.int (wordCount value.asText))),
  ("format", variadic formatted)]

end Colloquy.Filter
