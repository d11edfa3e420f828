import Colloquy.Text.CaseTable

/-! Case conversion of whole texts. A capital sigma at the end of a word becomes the final form of the
letter; every other character is mapped on its own. -/
namespace Colloquy.Text

/-- The text in capitals. -/
def upper (s : String) : String := String.ofList (s.toList.flatMap upperMap.apply)

/-- Whether the nearest character that is not ignorable has a case. -/
def meetsCased (cs : List Char) : Bool :=
  match cs.dropWhile fun c => caseIgnorable.holds c.toNat with
  | [] => false
  | c :: _ => cased.holds c.toNat

/-- Small letters, given the characters before, nearest first. -/
def lowerAfter (before : List Char) : List Char → List Char
  | [] => []
  | c :: rest =>
    let image :=
      if c == 'Σ' && meetsCased before && !meetsCased rest then ['ς'] else lowerMap.apply c
    image ++ lowerAfter (c :: before) rest

/-- The text in small letters. -/
def lower (s : String) : String := String.ofList (lowerAfter [] s.toList)

/-- The first character in title form and the others in small letters. -/
def capitalize (s : String) : String :=
  match s.toList with
  | [] => ""
  | c :: rest => String.ofList (titleMap.apply c ++ lowerAfter [c] rest)

end Colloquy.Text
