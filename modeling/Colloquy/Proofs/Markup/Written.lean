import Colloquy.Proofs.Markup.Tags

/-! Content that is written. Text, comments and the tags around children are read again as the pieces they were written
for; only a carriage return in a text comes back as a line end, since nothing is written for it but itself. -/
namespace Colloquy.Markup

/-- Adds characters to the run of character data. -/
def Frame.extend (frame : Frame) (run : List Char) : Frame := { frame with run := run.reverse ++ frame.run }

/-- What follows the end of an element: the element around it goes on, and the document element is the last one. -/
def closeElement (policy : Policy) (e : Element) (rest : List Char) : List Frame → Except Halt (Element × List Char)
  | [] => .ok (e, rest)
  | parent :: outer => content policy (parent.add (.element e)) outer rest

/-! ## Steps of reading -/

section Steps
variable {policy : Policy} {frame : Frame} {outer : List Frame} {c : Char} {tail rest : List Char}

theorem content_text {run : List Char} (read : piece policy c tail = .ok (.text run, rest)) :
    content policy frame outer (c :: tail) = content policy (frame.extend run) outer rest := by
  rw [content]
  split <;> rename_i same <;> rw [read] at same <;> cases same
  rfl

theorem content_comment {body : List Char} (read : piece policy c tail = .ok (.comment body, rest)) :
    content policy frame outer (c :: tail) = content policy (frame.add (.comment (String.ofList body))) outer rest := by
  rw [content]
  split <;> rename_i same <;> rw [read] at same <;> cases same
  rfl

theorem content_openTag {q : QName} {raw : List RawAttribute} {closed : Bool} {tag : String}
    {attributes : List (String × String)} {spaces : Spaces}
    (read : piece policy c tail = .ok (.openTag q raw closed, rest))
    (opened : openTag policy frame.spaces (tail.length + 1) q raw = .ok (tag, attributes, spaces)) :
    content policy frame outer (c :: tail) =
      if closed then content policy (frame.add (.element ⟨tag, attributes, []⟩)) outer rest
      else content policy ⟨q.written, tag, attributes, spaces, [], []⟩ (frame :: outer) rest := by
  rw [content]
  split <;> rename_i same <;> rw [read] at same <;> cases same
  simp only [opened]

theorem content_closeTag {tag : String} (read : piece policy c tail = .ok (.closeTag tag, rest))
    (same : frame.written = tag) :
    content policy frame outer (c :: tail) = closeElement policy frame.element rest outer := by
  rw [content]
  split <;> rename_i token <;> rw [read] at token <;> cases token
  cases outer <;> simp only [same, bne_self_eq_false, Bool.false_eq_true, ↓reduceIte, closeElement]

theorem content_stopped {halt : Halt} (read : piece policy c tail = .error halt) :
    content policy frame outer (c :: tail) = .error halt := by
  rw [content]
  split <;> rename_i same <;> rw [read] at same <;> cases same
  rfl

end Steps

/-! ## Comments and tags -/

section Pieces
variable {policy : Policy}

/-- A comment ends where it was written to end. -/
theorem commentBody_written {body : List Char} (formed : CommentBody body) (rest : List Char) :
    commentBody (body ++ '-' :: '-' :: '>' :: rest) = .ok (body, rest) := by
  induction formed with
  | nil => rfl
  | @cons c more allowed single inside ih =>
    have other : c = '-' → ∀ d left, more ++ '-' :: '-' :: '>' :: rest = d :: left → d ≠ '-' := by
      intro hyphen d left same
      obtain ⟨nonempty, next⟩ := single hyphen
      cases more with
      | nil => exact absurd rfl nonempty
      | cons e others =>
        cases same
        exact fun equal => next (by rw [List.head?_cons, equal])
    rw [List.cons_append, commentBody, ih]
    · simp only [allowed, ↓reduceIte]
      rfl
    · exact fun left hyphen same => other hyphen _ _ same rfl
    · exact fun left hyphen same => other hyphen _ _ same rfl

theorem normalizeLines_of_feed {cs : List Char} (feed : '\r' ∉ cs) : normalizeLines cs = cs := by
  induction cs with
  | nil => rfl
  | cons c rest ih =>
    obtain ⟨other, others⟩ := List.ne_and_not_mem_of_not_mem_cons feed
    rw [normalizeLines, ih others]
    · exact fun _ same _ => other same.symm
    · exact fun same => other same.symm

theorem piece_comment {body : List Char} (formed : CommentBody body) (feed : '\r' ∉ body) (rest : List Char) :
    piece policy '<' ('!' :: '-' :: '-' :: (body ++ '-' :: '-' :: '>' :: rest)) = .ok (.comment body, rest) := by
  simp only [piece, beq_self_eq_true, ↓reduceIte, markupPiece, commentBody_written formed rest, Scan.orHalt,
    Except.mapError, Except.map, normalizeLines_of_feed feed]

theorem piece_closeTag (policy : Policy) {tag : String} (named : IsName tag.toList) (rest : List Char) :
    piece policy '<' ('/' :: (tag.toList ++ '>' :: rest)) = .ok (.closeTag tag, rest) := by
  have ends : EndsName ('>' :: rest) := by
    rintro _ ⟨⟩
    decide
  have read := closingName_written named ends
  have mark : isGap '>' = false := rfl
  rw [String.ofList_toList] at read
  simp only [piece, beq_self_eq_true, ↓reduceIte, markupPiece, closingTag, read, skipGaps_mark mark, Scan.orHalt,
    Except.mapError, Except.map]

/-- What follows a less-than sign is a start tag unless one of three characters introduces it. -/
theorem markupPiece_openTag {c : Char} (left : Nat) (rest : List Char) (other : c ∉ ['/', '?', '!']) :
    markupPiece left (c :: rest) = ((openingTag (c :: rest)).orHalt left).map
      fun ((tag, attributes, closed), rest) => (.openTag tag attributes closed, rest) := by
  simp only [List.mem_cons, List.not_mem_nil, or_false, not_or] at other
  unfold markupPiece
  split
  case h_7 => rfl
  all_goals
    rename_i same
    cases same
    simp at other

/-- A start tag begins with a name, or with a brace when it is in a namespace. -/
theorem tagChars_begins {tag : String} (named : IsName tag.toList ∨ InSpace tag) (attributes : List (String × String))
    (closed : Bool) (rest : List Char) : ∃ c more, tagChars tag attributes closed rest = c :: more ∧
      (isNameStart c = true ∨ InSpace tag ∧ c = '\x7b') := by
  rcases named with named | spaced
  · obtain ⟨c, tail, word, start, -⟩ := named.begins
    exact ⟨c, _, by rw [tagChars, word, List.cons_append], .inl start⟩
  · obtain ⟨tail, word⟩ := spaced.begins
    exact ⟨'\x7b', _, by rw [tagChars, word, List.cons_append], .inr ⟨spaced, rfl⟩⟩

/-- What is written for a start tag is taken for one. -/
theorem piece_tagChars {tag : String} (named : IsName tag.toList ∨ InSpace tag) (attributes : List (String × String))
    (closed : Bool) (rest : List Char) : piece policy '<' (tagChars tag attributes closed rest) =
      ((openingTag (tagChars tag attributes closed rest)).orHalt ((tagChars tag attributes closed rest).length + 1)).map
        fun ((tag, attributes, closed), rest) => (.openTag tag attributes closed, rest) := by
  obtain ⟨c, more, begins, first⟩ := tagChars_begins named attributes closed rest
  have other : c ∉ ['/', '?', '!'] := by
    rcases first with start | ⟨-, rfl⟩
    · have apart : ∀ d ∈ ['/', '?', '!'], d ∈ marks := by simp [marks]
      exact fun member => isNameStart_ne start (apart c member) rfl
    · decide
  rw [begins]
  simp only [piece, beq_self_eq_true, ↓reduceIte, markupPiece_openTag _ _ other]

section Tags
variable (policy : Policy) {tag : String} {attributes : List (String × String)} (closed : Bool) (rest : List Char)

theorem piece_openTag (formed : TagFormed tag attributes) (unspaced : Unspaced tag attributes) :
    ∃ raws, piece policy '<' (tagChars tag attributes closed rest) = .ok (.openTag ⟨none, tag⟩ raws closed, rest) ∧
      List.Forall₂ ReadsBack raws attributes := by
  obtain ⟨raws, read, back⟩ := openingTag_written closed rest formed unspaced
  refine ⟨raws, ?_, back⟩
  rw [piece_tagChars formed.tag, read]
  rfl

theorem piece_spaced (formed : TagFormed tag attributes) (spaced : ¬ Unspaced tag attributes) :
    ∃ halt, piece policy '<' (tagChars tag attributes closed rest) = .error halt := by
  obtain ⟨stop, failed⟩ := openingTag_spaced closed rest formed spaced
  refine ⟨stop.halt ((tagChars tag attributes closed rest).length + 1), ?_⟩
  rw [piece_tagChars formed.tag, failed]
  rfl

end Tags

end Pieces

/-! ## Text -/

section Text
variable {policy : Policy} {c : Char}

theorem piece_reference {code : List Char} (known : (c, code) ∈ references) (rest : List Char) :
    piece policy '&' (code ++ ';' :: rest) = .ok (.text [c], rest) := by
  obtain ⟨found, read, means⟩ := reference_written known rest
  have other : ('&' == '<') = false := rfl
  cases found with
  | code n =>
    have same : characterOf n = some c := means
    simp only [piece, other, Bool.false_eq_true, ↓reduceIte, beq_self_eq_true, read, Scan.orHalt, Except.mapError, same]
  | entity name =>
    have same : predefined name = some c := means
    simp only [piece, other, Bool.false_eq_true, ↓reduceIte, beq_self_eq_true, read, Scan.orHalt, Except.mapError, same]

theorem piece_plain {rest : List Char} (plain : c ∉ ['<', '&', '\r']) (allowed : isAllowed c = true)
    (apart : "]>".toList.isPrefixOf rest = false) : piece policy c rest = .ok (.text [c], rest) := by
  simp only [List.mem_cons, List.not_mem_nil, or_false, not_or] at plain
  simp only [piece, beq_iff_eq, plain.1, plain.2.1, plain.2.2, apart, Bool.and_false, Bool.false_eq_true, allowed,
    ↓reduceIte]

/-- A carriage return is a line end of its own unless a line feed follows. -/
theorem piece_carriage {d : Char} (more : List Char) (other : d ≠ '\n') :
    piece policy '\r' (d :: more) = .ok (.text ['\n'], d :: more) := by
  have first : ('\r' == '<') = false := rfl
  have second : ('\r' == '&') = false := rfl
  simp only [piece, first, second, Bool.false_eq_true, ↓reduceIte, beq_self_eq_true]
  split
  · rename_i same
    cases same
  · rename_i same
    cases same
    exact absurd rfl other
  · rfl

/-- What is written for a text before a tag: a greater-than sign never begins it, and a line feed only if the text
begins with one. -/
theorem escaped_begins (cs tail : List Char) : ∃ d more, cs.flatMap escapeText ++ '<' :: tail = d :: more ∧
    d ≠ '>' ∧ (d = '\n' → cs.head? = some '\n') := by
  cases cs with
  | nil => exact ⟨'<', tail, rfl, by decide, by simp⟩
  | cons c rest =>
    rcases escapeText_cases c with ⟨code, known, written⟩ | ⟨plain, written⟩
    · exact ⟨'&', code ++ ';' :: (rest.flatMap escapeText ++ '<' :: tail), by simp [written], by decide, by simp⟩
    · exact ⟨c, rest.flatMap escapeText ++ '<' :: tail, by simp [written], fun same => plain (by simp [same]), by simp⟩

/-- The mark that closes a section of character data is never written in a text. -/
theorem escaped_open (cs tail : List Char) : "]>".toList.isPrefixOf (cs.flatMap escapeText ++ '<' :: tail) = false := by
  refine Bool.eq_false_iff.mpr fun closes => ?_
  obtain ⟨left, same⟩ := List.isPrefixOf_iff_prefix.mp closes
  cases cs with
  | nil => cases same
  | cons c rest =>
    rw [List.flatMap_cons, List.append_assoc] at same
    rcases escapeText_cases c with ⟨code, known, written⟩ | ⟨plain, written⟩
    · rw [written] at same
      cases same
    · obtain ⟨d, more, begins, other, -⟩ := escaped_begins rest tail
      rw [written, begins] at same
      cases same
      exact other rfl

/-- A text that is written before a tag is read into the run of character data, its line ends as line feeds. -/
theorem content_escaped {cs : List Char} (allowed : Allowed cs) (frame : Frame) (outer : List Frame)
    (tail : List Char) : content policy frame outer (cs.flatMap escapeText ++ '<' :: tail) =
      content policy (frame.extend (normalizeLines cs)) outer ('<' :: tail) := by
  have joined (frame : Frame) (c : Char) (run : List Char) :
      (frame.extend [c]).extend run = frame.extend (c :: run) := by simp [Frame.extend]
  fun_induction normalizeLines cs generalizing frame with
  | case1 rest ih =>
    have step : piece policy '\r' ('\n' :: (rest.flatMap escapeText ++ '<' :: tail)) =
        .ok (.text ['\n'], rest.flatMap escapeText ++ '<' :: tail) := rfl
    have written : ('\r' :: '\n' :: rest).flatMap escapeText ++ '<' :: tail =
        '\r' :: '\n' :: (rest.flatMap escapeText ++ '<' :: tail) := rfl
    rw [written, content_text step, ih fun c member => allowed c (by simp [member]), joined]
  | case2 rest other ih =>
    obtain ⟨d, more, begins, -, feed⟩ := escaped_begins rest tail
    have step : piece policy '\r' (rest.flatMap escapeText ++ '<' :: tail) =
        .ok (.text ['\n'], rest.flatMap escapeText ++ '<' :: tail) := by
      rw [begins]
      refine piece_carriage more fun same => ?_
      obtain ⟨left, split⟩ := List.head?_eq_some_iff.mp (feed same)
      exact other left split
    have written : ('\r' :: rest).flatMap escapeText ++ '<' :: tail =
        '\r' :: (rest.flatMap escapeText ++ '<' :: tail) := rfl
    rw [written, content_text step, ih fun c member => allowed c (by simp [member]), joined]
  | case3 c rest _ other ih =>
    obtain ⟨here, others⟩ := List.forall_mem_cons.mp allowed
    have next := ih others (frame.extend [c])
    rw [joined] at next
    rw [← next]
    rcases escapeText_cases c with ⟨code, known, written⟩ | ⟨plain, written⟩
    · have chars : (c :: rest).flatMap escapeText ++ '<' :: tail =
          '&' :: (code ++ ';' :: (rest.flatMap escapeText ++ '<' :: tail)) := by simp [written]
      rw [chars, content_text (piece_reference known _)]
    · have chars : (c :: rest).flatMap escapeText ++ '<' :: tail =
          c :: (rest.flatMap escapeText ++ '<' :: tail) := by simp [written]
      have unmarked : c ∉ ['<', '&', '\r'] := by
        simp only [List.mem_cons, List.not_mem_nil, or_false, not_or] at plain ⊢
        exact ⟨plain.2.1, plain.1, other⟩
      rw [chars, content_text (piece_plain unmarked here (escaped_open rest tail))]
  | case4 =>
    simp [Frame.extend]

end Text

end Colloquy.Markup
