import Colloquy.Fields
import Colloquy.Json.LooseText
import Colloquy.Text.Numeral

/-! Reading damaged JSON. Valid JSON is read as it is. Of anything else as much is read as can be: what is left open is
closed, missing commas and quotes are supplied, comments and whatever stands around the data are passed over, and several
values in a row become a list. -/
namespace Colloquy.Json
open Loose

namespace Mend

/-- Characters that a number may hold. -/
def isNumberPart (c : Char) : Bool := Text.isAsciiDigit c || "-.eE/,_".toList.contains c

/-- The value of the characters of a number; a text if they are none. -/
def numberOf (cs : List Char) : Json :=
  let written := String.ofList cs
  if cs.contains ',' then .text written
  else if cs.contains '.' || cs.contains 'e' || cs.contains 'E' then
    ((Text.readFloat? written).map Json.float).getD (.text written)
  else ((Text.readInteger? 10 written).map Json.int).getD (.text written)

/-- Reads a number, in which underscores say nothing. A sign or mark at its end is left over; none if letters follow, so
that it is a text, which a comma before them prevents. -/
def readNumber? (isItem : Bool) (cs : List Char) : Option (Json × List Char) :=
  let taken := cs.takeWhile fun c => isNumberPart c && !(isItem && c == ',')
  let rest := cs.drop taken.length
  let digits := taken.filter (· != '_')
  let isText := (rest.head?.map isLetter).getD false
  digits.getLast?.bind fun last =>
    if last == ',' || (!isText && "-eE/".toList.contains last) then
      some (numberOf digits.dropLast, cs.drop (taken.length - 1))
    else if isText then none
    else some (numberOf digits, rest)

/-- Words without quotes that are values. -/
def words : List (String × Json) := [("true", .bool true), ("false", .bool false), ("null", .null), ("none", .null)]

/-- Reads a word in any case, which must not go on. -/
def readWord? (cs : List Char) : Option (Json × List Char) :=
  let letters := cs.takeWhile Text.isWordChar
  words.findSome? fun (word, value) =>
    if letters.map Text.smallLetter == word.toList then some (value, cs.drop letters.length) else none

/-- The rest after a block comment. -/
def skipBlock : List Char → List Char
  | '*' :: '/' :: rest => rest
  | _ :: rest => skipBlock rest
  | [] => []

/-- The rest after a comment, which a line end ends, and also whatever ends the parts that it stands in. -/
def skipComment (around : List Part) (cs : List Char) : List Char :=
  let ends (c : Char) : Bool := c == '\n' || c == '\r' || (around.contains .item && c == ']')
    || (around.contains .member && c == '}') || (around.contains .name && c == ':')
  match cs with
  | '/' :: '/' :: rest => rest.dropWhile (!ends ·)
  | '/' :: '*' :: rest => skipBlock ('*' :: rest)
  | '/' :: rest => rest
  | _ => cs.dropWhile (!ends ·)

/-- Reads a text or a word. Characters before the first quote, letter or digit are passed over. -/
def readText (around : List Part) (cs : List Char) : Json × List Char :=
  match cs with
  | '#' :: _ | '/' :: _ => (.text "", skipComment around cs)
  | _ =>
    let part := around.head?
    match cs.dropWhile fun c => !isQuote c && !isBare c with
    | [] => (.text "", [])
    | c :: rest =>
      if isQuote c then
        let (s, rest) := readQuoted part around c rest
        (.text s, rest)
      else
        match if part == some .name then none else readWord? (c :: rest) with
        | some found => found
        | none =>
          let (s, rest) := readBare part around (c :: rest)
          (.text s, rest)

/-- Whether a value is an empty text, list or object. -/
def isEmpty : Json → Bool
  | .text s => s.isEmpty
  | .list items => items.isEmpty
  | .object fields => fields.isEmpty
  | _ => false

/-- Whether a value counts as nothing. -/
def isNothing : Json → Bool
  | .null => true
  | .bool b => !b
  | .int n => n == 0
  | .float x => x == 0.0
  | value => isEmpty value

/-- Whether a quoted text is followed by a colon, and so begins a member. -/
def beginsMember (mark : Char) (rest : List Char) : Bool :=
  match seek [mark] rest with
  | some after => startsWith [':'] (skipBlank after)
  | none => false

/-- The items of a value that is a list. -/
def rowOf? : Json → Option (List Json)
  | .list items => some items
  | _ => none

/-- The length that all lists among some items have, if there are such lists and they are not empty. -/
def rowLength? (items : List Json) : Option Nat :=
  match items.filterMap rowOf? with
  | [] => none
  | first :: rest =>
    if first.length != 0 && rest.all fun row => row.length == first.length then some first.length else none

/-- Items in rows of a length, as many rows as `rows` allows. -/
def rowsOf (length : Nat) : Nat → List Json → List Json
  | 0, _ => []
  | _, [] => []
  | rows + 1, items => .list (items.take length) :: rowsOf length rows (items.drop length)

/-- Items after those of a list. In a list of rows of one length, loose items at the end become rows if they can, and the
new items are rows or one row. -/
def extend (items more : List Json) : List Json :=
  match rowLength? items with
  | none =>
    items ++ match more with
      | [.list inner] => inner
      | _ => more
  | some length =>
    let loose := (items.reverse.takeWhile fun item => (rowOf? item).isNone).reverse
    let settled := items.take (items.length - loose.length)
    let rows := settled ++ if loose.length % length == 0 then rowsOf length loose.length loose else loose
    if more.isEmpty then rows
    else if more.all fun item => (rowOf? item).isSome then rows ++ more
    else rows ++ [.list more]

/-- Members with more items in the list that is the last of them; none if it is not a list. -/
def extendLast (members : Fields Json) (more : List Json) : Option (Fields Json) :=
  match members.getLast? with
  | some (name, .list items) => some (members.put name (.list (extend items more)))
  | _ => none

/-- Whether a list that is the value of a member has ended without its bracket where a quoted text begins a member: it
has items, and a brace comes next rather than a bracket. -/
def endsBeforeMember (around : List Part) (items : List Json) (rest : List Char) : Bool :=
  !items.isEmpty && (around.drop 1).head? == some .member &&
    startsWith ['}'] (rest.dropWhile fun c => c != '}' && c != ']')

/-- The rest after blanks and commas. -/
def skipGap (cs : List Char) : List Char := cs.dropWhile fun c => Text.isBlank c || c == ','

/-- The outcome of reading the name of a member: the members so far, and the name with the rest from where it began. -/
structure Name where
  members : Fields Json
  name : String
  start : List Char
  rest : List Char

mutual

/-- Reads a value, or an empty text if there is none. -/
def readValue (steps : Nat) (around : List Part) (cs : List Char) : Json × List Char :=
  match steps, cs with
  | 0, _ => (.text "", [])
  | _, [] => (.text "", [])
  | steps + 1, c :: rest =>
    if c == '\x7b' then readObject steps around [] false rest rest
    else if around.isEmpty && isQuote c && beginsMember c rest then readObject steps around [] false cs cs
    else if c == '[' then
      let (items, rest) := readItems steps (.item :: around) [] rest
      (.list items, rest)
    else if !around.isEmpty && (isQuote c || isLetter c) then readText around cs
    else if !around.isEmpty && (Text.isDecimal c || c == '-' || c == '.') then
      (readNumber? (around.head? == some .item) cs).getD (readText around cs)
    else if c == '#' || c == '/' then
      let rest := skipComment around cs
      if around.isEmpty then readValue steps around rest else (.text "", rest)
    else readValue steps around rest

/-- Reads items up to the end of their list. -/
def readItems (steps : Nat) (around : List Part) (items : List Json) (cs : List Char) : List Json × List Char :=
  match steps, cs with
  | 0, _ => (items, [])
  | _, [] => (items, [])
  | steps + 1, c :: rest =>
    if c == ']' || c == '}' then (items, rest)
    else if c == ',' then readItems steps around items (skipGap rest)
    else
      let cs := skipBlank (c :: rest)
      let isMember := isQuote c && beginsMember c rest
      if isMember && endsBeforeMember around items rest then (items, cs)
      else
        let (value, rest) :=
          if isMember then readObject steps around [] false cs cs
          else if isQuote c then readText around cs
          else readValue steps around cs
        if isEmpty value && !startsWith [']', ','] rest then readItems steps around items (skipGap (rest.drop 1))
        else if value.text? == some "..." && (cs.take (cs.length - rest.length)).getLast? == some '.' then
          readItems steps around items (skipGap rest)
        else readItems steps around (items ++ [value]) (skipGap rest)

/-- Reads the name of a member. A list where a name should be adds to the list before it. -/
def readName (steps : Nat) (around : List Part) (members : Fields Json) (start cs : List Char) : Name :=
  match steps, cs with
  | 0, _ => ⟨members, "", start, []⟩
  | _, [] => ⟨members, "", start, []⟩
  | steps + 1, c :: rest =>
    let asText : Name :=
      match readText (.name :: around) cs with
      | (.text "", rest) =>
        let rest := skipBlank rest
        if startsWith [':', '}'] rest then ⟨members, "", cs, rest⟩ else readName steps around members cs rest
      | (.text name, rest) => ⟨members, name, cs, rest⟩
      | (_, rest) => readName steps around members cs rest
    if c == '[' then
      let (more, after) := readItems steps (.item :: .name :: around) [] rest
      match extendLast members more with
      | some members =>
        let after := skipBlank after
        readName steps around members cs (skipBlank (if startsWith [','] after then after.drop 1 else after))
      | none => asText
    else asText

/-- Reads members up to the end of their object, `separated` telling whether a comma stands before them. A name that is
written again in an object among items begins the next object, unless it is a member like any other; a bracket there ends
the object; and braces around values without names hold items. -/
def readObject (steps : Nat) (around : List Part) (members : Fields Json) (separated : Bool) (start cs : List Char) :
    Json × List Char :=
  match steps with
  | 0 => (.object members, [])
  | steps + 1 =>
    match cs with
    | [] => endObject steps around members start cs
    | c :: _ =>
      if c == '}' then endObject steps around members start cs
      else
        let cs := skipBlank cs
        let cs := if startsWith [':'] cs then cs.drop 1 else cs
        let found := readName steps around members cs cs
        let members := found.members
        let rest := skipBlank found.rest
        let isUsual := separated && found.start.length == cs.length && (found.start.head?.map isQuote).getD false
          && startsWith [':'] rest
        if around.contains .item && members.has found.name && !isUsual then (.object members, '\x7b' :: found.start)
        else
          if rest.isEmpty || startsWith ['}'] rest then endObject steps around members start rest
          else
            let rest := skipBlank (rest.drop 1)
            let (value, rest) :=
              if startsWith [',', '}'] rest then (.text "", rest) else readValue steps (.member :: around) rest
            let members := members.put found.name value
            let next := if startsWith [',', '\'', '"'] rest then rest.drop 1 else rest
            if startsWith [']'] next && around.contains .item then (.object members, next)
            else readObject steps around members (startsWith [','] rest) start (skipBlank next)

/-- Ends an object. Outside of anything else, members may go on after a comma. -/
def endObject (steps : Nat) (around : List Part) (members : Fields Json) (start cs : List Char) : Json × List Char :=
  match steps with
  | 0 => (.object members, cs.drop 1)
  | steps + 1 =>
    let rest := cs.drop 1
    if members.isEmpty && start.length > cs.length + 1 then
      match readItems steps (.item :: around) [] start with
      | ([], rest) => (.object [], rest)
      | (items, rest) => (.list items, rest)
    else if around.isEmpty then
      let next := skipBlank rest
      let member := skipBlank (next.drop 1)
      if !startsWith [','] next then (.object members, next)
      else if (member.head?.map isQuote).getD false then
        match readObject steps around [] true member member with
        | (.object more, rest) => (.object (members.merge more), rest)
        | (_, rest) => (.object members, rest)
      else (.object members, rest)
    else (.object members, rest)

end

mutual

/-- Whether two values have the same kinds in the same places. -/
def sameShape : Json → Json → Bool
  | .null, .null | .bool _, .bool _ | .int _, .int _ | .float _, .float _ | .text _, .text _ => true
  | .list xs, .list ys => sameItems xs ys
  | .object xs, .object ys => xs.length == ys.length && sameMembers xs ys
  | _, _ => false

/-- Whether lists have the same shapes in the same places. -/
def sameItems : List Json → List Json → Bool
  | [], [] => true
  | x :: xs, y :: ys => sameShape x y && sameItems xs ys
  | _, _ => false

/-- Whether the members of one object have the same shapes as those of another. -/
def sameMembers : List (String × Json) → List (String × Json) → Bool
  | [], _ => true
  | (name, x) :: rest, ys =>
    (match Fields.get? ys name with
      | some y => sameShape x y
      | none => false) && sameMembers rest ys

end

/-- Puts a further value after those read so far. Unless a comma stands between, one of the same shape as the last takes
its place; so does any other if the last is nothing. -/
def further (values : List Json) (separated : Bool) (value : Json) : List Json :=
  match values.getLast? with
  | some last =>
    if (!separated && sameShape last value) || isNothing last then values.dropLast ++ [value] else values ++ [value]
  | none => [value]

/-- Reads further values up to the end. -/
def readFurther (steps : Nat) (values : List Json) (cs : List Char) : List Json :=
  match steps, cs with
  | 0, _ => values
  | _, [] => values
  | steps + 1, cs =>
    let (value, rest) := readValue (4 * cs.length + 4) [] cs
    if isNothing value then readFurther steps values (rest.drop 1)
    else readFurther steps (further values (startsWith [','] (skipBlank cs)) value) rest

end Mend

/-- What can be read of a text. -/
def mend (s : String) : Json :=
  match read? s with
  | some value => value
  | none =>
    let cs := s.toList
    let (first, rest) := Mend.readValue (4 * cs.length + 4) [] cs
    match Mend.readFurther rest.length [first] rest with
    | [value] => value
    | values => .list values

end Colloquy.Json
