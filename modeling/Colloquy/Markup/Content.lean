import Colloquy.Markup.Node
import Colloquy.Markup.Space

/-! Reading the content of the document element. The elements that are open are kept on a stack; each holds the
children that are finished and the run of character data that is not. -/
namespace Colloquy.Markup

/-- A token of content. -/
inductive Piece where
  | text (cs : List Char)
  | comment (body : List Char)
  | instruction
  | openTag (name : QName) (attributes : List RawAttribute) (closed : Bool)
  | closeTag (name : String)
  | skipped (name : String)

/-- A scanner's stop as a fault; `left` is where its token starts. -/
def Stop.halt (left : Nat) : Stop → Halt
  | .invalid spot => ⟨.invalidToken, spot⟩
  | .unfinished => ⟨.unclosedToken, left⟩

/-- Line ends as single line feeds. -/
def normalizeLines : List Char → List Char
  | '\r' :: '\n' :: rest => '\n' :: normalizeLines rest
  | '\r' :: rest => '\n' :: normalizeLines rest
  | c :: rest => c :: normalizeLines rest
  | [] => []

/-- The attributes and the end of a start tag after its name and white space. -/
def tagAttributes (cs : List Char) : Scan (List RawAttribute × Bool) :=
  match tagEnd cs with
  | .ok (closed, rest) => .ok (([], closed), rest)
  | .error stop =>
    if cs.head? == some '/' || cs.isEmpty then .error stop
    else
      match _read : rawAttribute cs with
      | .error stop => .error stop
      | .ok (first, rest) =>
        if rest.head?.any isGap then
          (tagAttributes (skipGaps rest)).map fun ((more, closed), left) => ((first :: more, closed), left)
        else (tagEnd rest).map fun (closed, left) => (([first], closed), left)
termination_by cs.length
decreasing_by
  have := rawAttribute_shorter _read
  have := length_dropWhile_le isGap rest
  simp only [skipGaps]
  omega

/-- A start tag after its opening. -/
def openingTag (cs : List Char) : Scan (QName × List RawAttribute × Bool) :=
  match qualified cs with
  | .error stop => .error stop
  | .ok (tag, rest) =>
    if rest.head?.any isGap then
      (tagAttributes (skipGaps rest)).map fun ((attributes, closed), left) => ((tag, attributes, closed), left)
    else (tagEnd rest).map fun (closed, left) => ((tag, [], closed), left)

/-- Character data of a section after its opening, up to the mark that closes it. -/
def characterData : List Char → Except Halt (List Char × List Char)
  | ']' :: ']' :: '>' :: rest => .ok ([], rest)
  | [']', ']'] => .error ⟨.unclosedCharacterData, 2⟩
  | [']'] => .error ⟨.unclosedCharacterData, 1⟩
  | ['\r'] => .error ⟨.unclosedCharacterData, 1⟩
  | c :: rest =>
    if isAllowed c then (characterData rest).map fun (body, left) => (c :: body, left)
    else .error ⟨.invalidToken, rest.length + 1⟩
  | [] => .error ⟨.unclosedCharacterData, 0⟩

/-- A scanner's result with its stop as a fault. -/
def Scan.orHalt {α : Type} (left : Nat) (scan : Scan α) : Except Halt (α × List Char) :=
  scan.mapError (Stop.halt left)

/-- What a less-than sign introduces, `left` being where it stands. -/
def markupPiece (left : Nat) : List Char → Except Halt (Piece × List Char)
  | '/' :: rest => ((closingTag rest).orHalt left).map fun (tag, rest) => (.closeTag tag, rest)
  | '?' :: rest =>
    match (instruction rest).orHalt left with
    | .error halt => .error halt
    | .ok (.declaration _ _, _) => .error ⟨.misplacedDeclaration, left⟩
    | .ok (.other, rest) => .ok (.instruction, rest)
  | '!' :: '-' :: '-' :: rest =>
    ((commentBody rest).orHalt left).map fun (body, rest) => (.comment (normalizeLines body), rest)
  | '!' :: '-' :: rest => Scan.orHalt left (stopAt rest)
  | '!' :: '[' :: rest =>
    match (characterDataOpening rest).orHalt left with
    | .error halt => .error halt
    | .ok ((), rest) => (characterData rest).map fun (body, rest) => (.text (normalizeLines body), rest)
  | '!' :: rest => Scan.orHalt left (stopAt rest)
  | rest =>
    ((openingTag rest).orHalt left).map fun ((tag, attributes, closed), rest) =>
      (.openTag tag attributes closed, rest)

/-- The first token of content that is not at its end. -/
def piece (policy : Policy) (c : Char) (rest : List Char) : Except Halt (Piece × List Char) :=
  let left := rest.length + 1
  if c == '<' then markupPiece left rest
  else if c == '&' then
    match (reference rest).orHalt left with
    | .error halt => .error halt
    | .ok (.code n, rest) =>
      match characterOf n with
      | some c => .ok (.text [c], rest)
      | none => .error ⟨.invalidCharacterNumber, left⟩
    | .ok (.entity name, rest) =>
      match predefined name with
      | some c => .ok (.text [c], rest)
      | none => if policy.skips then .ok (.skipped name, rest) else .error ⟨.undefinedEntity, left⟩
  else if c == '\r' then
    match rest with
    | [] => .error ⟨.noElement, left⟩
    | '\n' :: rest => .ok (.text ['\n'], rest)
    | rest => .ok (.text ['\n'], rest)
  else if c == ']' && "]>".toList.isPrefixOf rest then .error ⟨.invalidToken, rest.length - 1⟩
  else if isAllowed c then .ok (.text [c], rest)
  else .error ⟨.invalidToken, left⟩

/-- An element that is open: its name as written, what is finished of it, and the namespaces inside it. The
children and the run of character data are in reverse. -/
structure Frame where
  written : String
  tag : String
  attributes : List (String × String)
  spaces : Spaces
  children : List Node
  run : List Char

/-- Ends the run of character data; an empty one leaves no child. -/
def Frame.flush (frame : Frame) : List Node :=
  if frame.run.isEmpty then frame.children
  else .text (String.ofList frame.run.reverse) :: frame.children

/-- Adds a child. -/
def Frame.add (frame : Frame) (node : Node) : Frame :=
  { frame with children := node :: frame.flush, run := [] }

/-- The finished element. -/
def Frame.element (frame : Frame) : Element := ⟨frame.tag, frame.attributes, frame.flush.reverse⟩

theorem Scan.orHalt_ok {α : Type} {left : Nat} {scan : Scan α} {result : α × List Char}
    (read : scan.orHalt left = .ok result) : scan = .ok result := by
  cases scan with
  | error stop => cases read
  | ok found =>
    cases read
    rfl

theorem tagAttributes_forward (cs : List Char) : Forward cs (tagAttributes cs) := by
  fun_induction tagAttributes cs with
  | case1 cs closed rest ended =>
    intro found left read
    have := tagEnd_forward cs _ _ ended
    simp at read
    simp [← read.2, this]
  | case2 => intro found left read; simp at read
  | case3 => intro found left read; simp at read
  | case4 cs _ _ _ first rest inner gap ih =>
    intro found left read
    have a := rawAttribute_shorter inner
    have b := length_dropWhile_le isGap rest
    have c := map_forward ih (fun _ _ => rfl) _ _ read
    simp only [skipGaps] at c
    omega
  | case5 cs _ _ _ first rest inner gap =>
    intro found left read
    have a := rawAttribute_shorter inner
    have b := map_forward (tagEnd_forward rest) (fun _ _ => rfl) _ _ read
    omega

theorem openingTag_forward (cs : List Char) : Forward cs (openingTag cs) := by
  intro found rest read
  unfold openingTag at read
  split at read
  · simp at read
  · next tag tail opened =>
    have a := qualified_forward cs _ _ opened
    have b := length_dropWhile_le isGap tail
    split at read
    · have := map_forward (tagAttributes_forward _) (fun _ _ => rfl) _ _ read
      simp only [skipGaps] at this
      omega
    · have := map_forward (tagEnd_forward _) (fun _ _ => rfl) _ _ read
      omega

theorem characterData_forward {cs body rest : List Char} (read : characterData cs = .ok (body, rest)) :
    rest.length ≤ cs.length := by
  fun_induction characterData cs generalizing body rest <;> try (simp at read; done)
  · simp at read
    simp [← read.2]
    omega
  · next ih =>
    obtain ⟨⟨_, _⟩, inner, result⟩ := eq_ok_of_map read
    have := ih inner
    simp at result
    simp [← result.2]
    omega

theorem markupPiece_forward {left : Nat} {cs rest : List Char} {found : Piece}
    (read : markupPiece left cs = .ok (found, rest)) : rest.length ≤ cs.length := by
  unfold markupPiece at read
  split at read
  · obtain ⟨result, inner, same⟩ := eq_ok_of_map read
    have := closingTag_forward _ result.1 result.2 (Scan.orHalt_ok inner)
    simp at same
    simp [← same.2]
    omega
  · split at read
    · simp at read
    · simp at read
    · next inner =>
      have := instruction_forward _ _ _ (Scan.orHalt_ok inner)
      simp at read
      simp [← read.2]
      omega
  · obtain ⟨result, inner, same⟩ := eq_ok_of_map read
    have := commentBody_forward _ result.1 result.2 (Scan.orHalt_ok inner)
    simp at same
    simp [← same.2]
    omega
  · cases read
  · split at read
    · simp at read
    · next inner =>
      have a := characterDataOpening_forward _ _ _ (Scan.orHalt_ok inner)
      obtain ⟨⟨_, _⟩, inside, same⟩ := eq_ok_of_map read
      have b := characterData_forward inside
      simp at same
      simp [← same.2]
      omega
  · cases read
  · obtain ⟨result, inner, same⟩ := eq_ok_of_map read
    have := openingTag_forward _ result.1 result.2 (Scan.orHalt_ok inner)
    simp at same
    simp [← same.2]
    omega

theorem piece_forward {policy : Policy} {c : Char} {cs rest : List Char} {found : Piece}
    (read : piece policy c cs = .ok (found, rest)) : rest.length ≤ cs.length := by
  unfold piece at read
  dsimp only at read
  split at read
  · exact markupPiece_forward read
  · split at read
    · split at read
      · simp at read
      · next inner =>
        have := reference_forward _ _ _ (Scan.orHalt_ok inner)
        split at read
        · simp at read; simp [← read.2]; omega
        · simp at read
      · next inner =>
        have := reference_forward _ _ _ (Scan.orHalt_ok inner)
        split at read
        · simp at read; simp [← read.2]; omega
        · split at read
          · simp at read; simp [← read.2]; omega
          · simp at read
    · split at read
      · split at read <;> simp at read <;> simp [← read.2]
      · split at read
        · simp at read
        · split at read
          · simp at read; simp [← read.2]
          · simp at read

/-- Reads content up to the end of the document element: `frame` is the innermost open element and `outer` holds
those around it. -/
def content (policy : Policy) (frame : Frame) (outer : List Frame) (cs : List Char) :
    Except Halt (Element × List Char) :=
  match cs with
  | [] => .error ⟨.noElement, 0⟩
  | c :: tail =>
    match _read : piece policy c tail with
    | .error halt => .error halt
    | .ok (.text run, rest) => content policy { frame with run := run.reverse ++ frame.run } outer rest
    | .ok (.comment body, rest) => content policy (frame.add (.comment (String.ofList body))) outer rest
    | .ok (.instruction, rest) => content policy frame outer rest
    | .ok (.skipped name, _) => .error ⟨.skippedEntity name, tail.length + 1⟩
    | .ok (.openTag q raw closed, rest) =>
      match openTag policy frame.spaces (tail.length + 1) q raw with
      | .error halt => .error halt
      | .ok (tag, attributes, spaces) =>
        if closed then content policy (frame.add (.element ⟨tag, attributes, []⟩)) outer rest
        else content policy ⟨q.written, tag, attributes, spaces, [], []⟩ (frame :: outer) rest
    | .ok (.closeTag tag, rest) =>
      if tag != frame.written then .error ⟨.mismatchedTag, tail.length - 1⟩
      else
        match outer with
        | [] => .ok (frame.element, rest)
        | parent :: outer => content policy (parent.add (.element frame.element)) outer rest
termination_by cs.length
decreasing_by
  all_goals
    have := piece_forward _read
    simp
    omega

end Colloquy.Markup
