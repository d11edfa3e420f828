import Colloquy.Config.Setting
import Colloquy.Text.Numeral
import Colloquy.Yaml.Node

/-! The settings that a YAML document holds. A plain scalar is what it looks like: null, a truth value, a number, a date,
or else a text. A tag may say so instead. -/
namespace Colloquy.Yaml

/-- What a scalar is. -/
inductive Kind where
  | null
  | bool
  | int
  | float
  | text
  | date
  | merge
  | other
  deriving DecidableEq

/-- Words for true. -/
def trueWords : List String := ["yes", "Yes", "YES", "true", "True", "TRUE", "on", "On", "ON"]

/-- Words for false. -/
def falseWords : List String := ["no", "No", "NO", "false", "False", "FALSE", "off", "Off", "OFF"]

/-- Words for null. -/
def nullWords : List String := ["~", "null", "Null", "NULL", ""]

/-- The rest after a sign. -/
def unsigned : List Char → List Char
  | '+' :: rest | '-' :: rest => rest
  | cs => cs

/-- Digits and underscores. -/
def isDigits (cs : List Char) : Bool := cs.all fun c => Text.isAsciiDigit c || c == '_'

/-- Whether the characters are at least one digit, and after it digits and underscores. -/
def startsDigits (cs : List Char) : Bool := (cs.head?.map Text.isAsciiDigit).getD false && isDigits cs

/-- Parts of a count in sixties: digits below sixty. -/
def isSixtieth : List Char → Bool
  | [d] => Text.isAsciiDigit d
  | [t, d] => '0' ≤ t && t ≤ '5' && Text.isAsciiDigit d
  | _ => false

/-- The parts between separators. -/
def split (separator : Char) : List Char → List (List Char)
  | [] => [[]]
  | c :: rest =>
    match split separator rest with
    | part :: parts => if c == separator then [] :: part :: parts else (c :: part) :: parts
    | [] => [[c]]

/-- Whether a text looks like an integer: binary, octal, decimal, hexadecimal, or in sixties. -/
def looksInt (cs : List Char) : Bool :=
  match unsigned cs with
  | ['0'] => true
  | '0' :: 'b' :: rest => !rest.isEmpty && rest.all fun c => c == '0' || c == '1' || c == '_'
  | '0' :: 'x' :: rest => !rest.isEmpty && rest.all fun c => (Json.hexValue? c).isSome || c == '_'
  | '0' :: rest => !rest.isEmpty && rest.all fun c => ('0' ≤ c && c ≤ '7') || c == '_'
  | cs =>
    match split ':' cs with
    | first :: parts => startsDigits first && first.head? != some '0' && parts.all isSixtieth
    | [] => false

/-- Whether a text looks like what follows the digits of a floating point number: nothing, or a signed exponent. -/
def looksExponent : List Char → Bool
  | [] => true
  | e :: sign :: digits =>
    (e == 'e' || e == 'E') && (sign == '+' || sign == '-') && !digits.isEmpty && digits.all Text.isAsciiDigit
  | _ => false

/-- Whether a text looks like a floating point number: it has a point, or names infinity or no number at all. -/
def looksFloat (cs : List Char) : Bool :=
  let body := unsigned cs
  let isDigit (c : Char) : Bool := Text.isAsciiDigit c || c == '_'
  if [".inf", ".Inf", ".INF"].contains (String.ofList body) then true
  else if [".nan", ".NaN", ".NAN"].contains (String.ofList cs) then true
  else
    match Text.cutAt (· == '.') cs with
    | ([], some rest) =>
      (rest.head?.map Text.isAsciiDigit).getD false && looksExponent (rest.dropWhile isDigit)
    | (whole, some rest) =>
      match split ':' (unsigned whole) with
      | [digits] => startsDigits digits && looksExponent (rest.dropWhile isDigit)
      | first :: parts => startsDigits first && parts.all isSixtieth && rest.all isDigit
      | [] => false
    | (_, none) => false

/-- Takes at least one digit and at most some. -/
def takeDigits (least most : Nat) (cs : List Char) : Option (List Char) :=
  let count := min most (cs.takeWhile Text.isAsciiDigit).length
  if least ≤ count then some (cs.drop count) else none

/-- Takes a character that must be there. -/
def takeChar (c : Char) : List Char → Option (List Char)
  | d :: rest => if c == d then some rest else none
  | [] => none

/-- Whether a text looks like a time of day with a zone. -/
def looksTime (cs : List Char) : Bool :=
  let clock := do
    let rest ← takeDigits 1 2 cs
    let rest ← takeDigits 2 2 (← takeChar ':' rest)
    takeDigits 2 2 (← takeChar ':' rest)
  match clock with
  | none => false
  | some rest =>
    let rest := match rest with
      | '.' :: fraction => fraction.dropWhile Text.isAsciiDigit
      | rest => rest
    match rest, rest.dropWhile fun c => c == ' ' || c == '\t' with
    | [], _ => true
    | _, ['Z'] => true
    | _, sign :: zone =>
      (sign == '+' || sign == '-') && match takeDigits 1 2 zone with
        | some [] => true
        | some (':' :: minutes) => takeDigits 2 2 minutes == some []
        | _ => false
    | _, [] => false

/-- Whether a text looks like a date, perhaps with a time. -/
def looksDate (cs : List Char) : Bool :=
  let day (least : Nat) := do
    let rest ← takeDigits 4 4 cs
    let rest ← takeDigits least 2 (← takeChar '-' rest)
    takeDigits least 2 (← takeChar '-' rest)
  day 2 == some [] || match day 1 with
    | some (c :: rest) =>
      if c == 'T' || c == 't' then looksTime rest
      else (c == ' ' || c == '\t') && looksTime (rest.dropWhile fun c => c == ' ' || c == '\t')
    | _ => false

/-- What a plain text looks like. -/
def kindOf (s : String) : Kind :=
  let cs := s.toList
  if nullWords.contains s then .null
  else if trueWords.contains s || falseWords.contains s then .bool
  else if looksFloat cs then .float
  else if looksInt cs then .int
  else if looksDate cs then .date
  else if s == "<<" then .merge
  else if s == "=" then .other
  else .text

/-- The kind that a tag asks for; none if it is left to the looks. -/
def kindOfTag (tag : String) : Option Kind :=
  let own := "tag:yaml.org,2002:"
  if tag == "!" then none
  else if tag == own ++ "null" then some .null
  else if tag == own ++ "bool" then some .bool
  else if tag == own ++ "int" then some .int
  else if tag == own ++ "float" then some .float
  else if tag == own ++ "str" then some .text
  else if tag == own ++ "timestamp" then some .date
  else some .other

/-- The value of digits in sixties. -/
def sixties (parts : List (List Char)) : Option Int :=
  parts.foldl (fun total part => do
    return 60 * (← total) + (← Text.readInteger? 10 (String.ofList part))) (some 0)

/-- The integer that a text writes. -/
def intOf? (s : String) : Option Int :=
  let cs := s.toList.filter (· != '_')
  let body := unsigned cs
  let magnitude := match body with
    | ['0'] => some 0
    | '0' :: 'b' :: digits => Text.readInteger? 2 (String.ofList digits)
    | '0' :: 'x' :: digits => Text.readInteger? 16 (String.ofList digits)
    | '0' :: digits => Text.readInteger? 8 (String.ofList digits)
    | body => if body.contains ':' then sixties (split ':' body) else Text.readInteger? 10 (String.ofList body)
  magnitude.map fun n => if cs.head? == some '-' then -n else n

/-- The floating point number that a text writes. -/
def floatOf? (s : String) : Option Float :=
  let cs := (s.toList.filter (· != '_')).map Text.smallLetter
  let body := unsigned cs
  let magnitude :=
    if String.ofList body == ".inf" then some (1.0 / 0.0)
    else if String.ofList body == ".nan" then some (0.0 / 0.0)
    else if body.contains ':' then
      (split ':' body).foldl (fun total part => do
        return 60.0 * (← total) + (← Text.readFloat? (String.ofList part))) (some 0.0)
    else Text.readFloat? (String.ofList body)
  magnitude.map fun x => if cs.head? == some '-' then -x else x

/-- The truth value that a text writes. -/
def boolOf? (s : String) : Option Bool :=
  let isSame (word : String) : Bool := word.toList == s.toList.map Text.smallLetter
  if trueWords.any isSame then some true else if falseWords.any isSame then some false else none

/-- The value of a scalar of a kind. Dates are objects that nothing more is known about. -/
def scalarValue (kind : Kind) (s : String) : Except Problem Value :=
  let orBad {α : Type} (value : Option α) (make : α → Value) : Except Problem Value :=
    match value with
    | some value => .ok (make value)
    | none => .error .badScalar
  match kind with
  | .null => .ok .null
  | .bool => orBad (boolOf? s) .bool
  | .int => orBad (intOf? s) .int
  | .float => orBad (floatOf? s) .float
  | .text => .ok (.text s)
  | .date => if looksDate s.toList then .ok .foreign else .error .badScalar
  | .merge | .other => .error .unknownTag

/-- The kind of a scalar. -/
def scalarKind (tag : Option String) (isPlain : Bool) (s : String) : Kind :=
  match tag.bind kindOfTag with
  | some kind => kind
  | none => if isPlain && tag.isNone then kindOf s else .text

/-- Whether a tag is the usual one of a collection. -/
def isUsual (kind : String) (tag : Option String) : Bool :=
  match tag with
  | none => true
  | some tag => tag == "!" || tag == "tag:yaml.org,2002:" ++ kind

/-- Whether the name of an entry asks to merge the entries of its value. -/
def isMerge : Node → Bool
  | .scalar tag isPlain s => tag == some "tag:yaml.org,2002:merge" || (tag.isNone && isPlain && kindOf s == .merge)
  | _ => false

mutual

/-- The entries to merge for a value: those of a mapping, or of several, earlier ones coming last. -/
def mergedEntries (steps : Nat) (node : Node) : Except Problem (List (Node × Node)) := do
  match steps, node with
  | 0, _ => throw .badMerge
  | steps + 1, .mapping _ entries => flatten steps entries
  | steps + 1, .sequence _ nodes => do
    let lists ← nodes.mapM fun node =>
      match node with
      | .mapping _ entries => flatten steps entries
      | _ => throw .badMerge
    return lists.reverse.flatten
  | _, _ => throw .badMerge

/-- The entries of a mapping, with those to be merged before its own. -/
def flatten (steps : Nat) (entries : List (Node × Node)) : Except Problem (List (Node × Node)) := do
  match steps with
  | 0 => throw .badMerge
  | steps + 1 =>
    let merged ← (entries.filter fun (name, _) => isMerge name).mapM fun (_, value) => mergedEntries steps value
    return merged.flatten ++ entries.filter fun (name, _) => !isMerge name

end

/-- The setting that a node is. -/
def settingOf (steps : Nat) (node : Node) : Except Problem Setting := do
  match steps with
  | 0 => throw .badMerge
  | steps + 1 =>
    match node with
    | .scalar tag isPlain s => return .leaf (← scalarValue (scalarKind tag isPlain s) s)
    | .sequence tag nodes => do
      if !isUsual "seq" tag then throw .unknownTag
      return .list (← nodes.mapM (settingOf steps))
    | .mapping tag entries => do
      if !isUsual "map" tag then throw .unknownTag
      let entries ← flatten steps entries
      let settings ← entries.mapM fun (name, value) => do
        let name ← settingOf steps name
        if !name.isName then throw .badName
        return (name, ← settingOf steps value)
      return .mapping (settings.foldl (fun all (name, value) => Setting.put all name value) [])

/-- Characters that a text may hold. -/
def isPrintable (c : Char) : Bool :=
  c == '\t' || c == '\n' || c == '\r' || (' ' ≤ c && c ≤ '~') || c == '\x85' || ('\xa0' ≤ c && c ≤ '\ud7ff')
    || ('\ue000' ≤ c && c ≤ '\ufffd') || 0x10000 ≤ c.toNat

/-- The setting that a text holds; nothing is null. -/
def load (s : String) : Except Problem Setting := do
  if !s.toList.all isPrintable then throw .unprintable
  match ← readDocument s with
  | some node => settingOf (s.length + 2) node
  | none => return .leaf .null

end Colloquy.Yaml
