import Colloquy.Text.Dedent

/-! How alike two texts are. The longest block that both share is matched first, then the longest ones before it and
after it, and so on; the texts are alike when the matched characters are at least three in ten of all. -/
namespace Colloquy.Text

/-- A block that stands in two texts: its offset in each, and its length. -/
structure Shared where
  first : Nat
  second : Nat
  size : Nat

/-- The longest block that two texts share; of several the one that comes first in the first text, then in the
second. -/
def longestShared (as bs : List Char) : Shared :=
  (List.range as.length).foldl (fun best i =>
    (List.range bs.length).foldl (fun best j =>
      let size := (commonStart (as.drop i) (bs.drop j)).length
      if best.size < size then ⟨i, j, size⟩ else best) best) ⟨0, 0, 0⟩

/-- The number of characters matched by blocks that are nested at most to some depth. -/
def matchedWithin : Nat → List Char → List Char → Nat
  | 0, _, _ => 0
  | depth + 1, as, bs =>
    let block := longestShared as bs
    if block.size == 0 then 0
    else matchedWithin depth (as.take block.first) (bs.take block.second) + block.size
      + matchedWithin depth (as.drop (block.first + block.size)) (bs.drop (block.second + block.size))

/-- The number of characters of two texts that are matched. Each block takes away a character at least. -/
def matched (as bs : List Char) : Nat := matchedWithin as.length as bs

/-- How alike a name is to a text: the matched characters, of all. -/
structure Likeness where
  name : String
  matched : Nat
  total : Nat

/-- How alike a name is to a text. -/
def likeness (text name : String) : Likeness :=
  ⟨name, matched name.toList text.toList, name.length + text.length⟩

/-- Whether a name is alike enough to be meant. -/
def Likeness.isClose (l : Likeness) : Bool := 3 * l.total ≤ 10 * l.matched

/-- Whether a name comes before another: the one that is more alike, or else the later one in the order of texts. -/
def Likeness.before (l other : Likeness) : Bool :=
  let mine := l.matched * other.total
  let theirs := other.matched * l.total
  theirs < mine || (mine == theirs && other.name < l.name)

/-- The names that may be meant by a text, the most alike first, at most three. -/
def closest (names : List String) (text : String) : List String :=
  ((((names.map (likeness text)).filter Likeness.isClose).mergeSort Likeness.before).take 3).map Likeness.name

end Colloquy.Text
