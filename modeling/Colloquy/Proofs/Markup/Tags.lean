import Colloquy.Proofs.Markup.Legible
import Colloquy.Proofs.Markup.Values

/-! Start tags. What is written for a tag with its attributes reads as that tag with those attributes, in their order,
whatever their values are. A name in a namespace is written with a brace in front, at which reading stops. -/
namespace Colloquy.Markup

/-- An attribute without the blank before it. -/
def attributeChars (a : String × String) : List Char := a.1.toList ++ '=' :: (quoteValue a.2).toList

/-- What ends a start tag, which may close its element. -/
def tagMark (closed : Bool) : List Char := if closed then ['/', '>'] else ['>']

theorem writeAttributes_chars (attributes : List (String × String)) :
    (writeAttributes attributes).toList = attributes.flatMap fun a => ' ' :: attributeChars a := by
  induction attributes with
  | nil => rfl
  | cons a rest ih =>
    unfold writeAttributes at ih ⊢
    rw [List.map_cons, String.join_cons, String.toList_append, ih]
    simp [attributeChars]

theorem tagEnd_mark (closed : Bool) (rest : List Char) : tagEnd (tagMark closed ++ rest) = .ok (closed, rest) := by
  cases closed <;> rfl

theorem tagMark_head (closed : Bool) (rest : List Char) :
    ∃ c more, tagMark closed ++ rest = c :: more ∧ c ∈ marks ∧ isGap c = false := by
  cases closed
  · exact ⟨'>', rest, rfl, by decide, rfl⟩
  · exact ⟨'/', '>' :: rest, rfl, by decide, rfl⟩

/-- An attribute that was scanned and means the one that was written. -/
structure ReadsBack (raw : RawAttribute) (a : String × String) : Prop where
  name : raw.name = ⟨none, a.1⟩
  value : ∀ policy tagLeft after, expandValue policy tagLeft after raw.value = .ok a.2.toList

section Attributes
variable {a : String × String} {after rest : List Char}

theorem skipGaps_mark {c : Char} (mark : isGap c = false) : skipGaps (c :: rest) = c :: rest := by
  simp [skipGaps, mark]

theorem rawAttribute_written (named : IsName a.1.toList) (allowed : Allowed a.2.toList) (after : List Char) :
    ∃ raw, rawAttribute (attributeChars a ++ after) = .ok (raw, after) ∧ ReadsBack raw a := by
  obtain ⟨quote, spelled, double, spells, written⟩ := quoteValue_spelled allowed
  have chars : attributeChars a ++ after = a.1.toList ++ '=' :: quote :: (spelled ++ quote :: after) := by
    simp [attributeChars, written]
  have scanned := quotedValue_spelled spells double after
  have ends : EndsName ('=' :: quote :: (spelled ++ quote :: after)) := by
    rintro _ ⟨⟩
    decide
  have first := qualified_written named ends
  have equals : isGap '=' = false := rfl
  have gap : isGap quote = false := by rcases double with rfl | rfl <;> rfl
  have quoted : (quote == '"' || quote == '\'') = true := by rcases double with rfl | rfl <;> rfl
  rw [String.ofList_toList] at first
  refine ⟨⟨⟨none, a.1⟩, (attributeChars a ++ after).length, spelled, (spelled ++ quote :: after).length⟩, ?_, rfl, ?_⟩
  · rw [chars]
    simp only [rawAttribute, first, skipGaps_mark equals, skipGaps_mark gap, quoted, ↓reduceIte, scanned]
    rfl
  · exact fun policy tagLeft after => expandValue_spelled policy tagLeft after spells

theorem tagEnd_open {c : Char} (inside : c ∉ ['/', '>']) : tagEnd (c :: after) = stopAt (c :: after) := by
  simp only [List.mem_cons, List.not_mem_nil, or_false, not_or] at inside
  unfold tagEnd
  split
  · rename_i same
    cases same
    exact absurd rfl inside.2
  · rename_i same
    cases same
    exact absurd rfl inside.1
  · rename_i same
    cases same
    exact absurd rfl inside.1
  · rfl

theorem tagAttributes_step {c : Char} {first : RawAttribute} (inside : c ∉ ['/', '>'])
    (read : rawAttribute (c :: after) = .ok (first, rest)) : tagAttributes (c :: after) =
      if rest.head?.any isGap then
        (tagAttributes (skipGaps rest)).map fun ((more, closed), left) => ((first :: more, closed), left)
      else (tagEnd rest).map fun (closed, left) => (([first], closed), left) := by
  rw [tagAttributes, tagEnd_open inside]
  simp only [List.mem_cons, List.not_mem_nil, or_false, not_or] at inside
  simp only [stopAt, List.head?_cons, Option.some_beq_some, beq_iff_eq, inside.1, List.isEmpty_cons, Bool.or_false,
    Bool.false_eq_true, ↓reduceIte]
  split
  · rename_i failed
    rw [read] at failed
    cases failed
  · rename_i again
    rw [read] at again
    cases again
    rfl

theorem tagAttributes_refused {c : Char} {stop : Stop} (inside : c ∉ ['/', '>'])
    (failed : rawAttribute (c :: after) = .error stop) : tagAttributes (c :: after) = .error stop := by
  rw [tagAttributes, tagEnd_open inside]
  simp only [List.mem_cons, List.not_mem_nil, or_false, not_or] at inside
  simp only [stopAt, List.head?_cons, Option.some_beq_some, beq_iff_eq, inside.1, List.isEmpty_cons, Bool.or_false,
    Bool.false_eq_true, ↓reduceIte]
  split
  · rename_i again
    rw [failed] at again
    cases again
    rfl
  · rename_i read
    rw [failed] at read
    cases read

end Attributes

/-! ## Several attributes -/

/-- The attributes of a tag after the first blank, up to the end of the tag and what follows it. -/
def attributesChars (a : String × String) (more : List (String × String)) (closed : Bool) (rest : List Char) :
    List Char :=
  attributeChars a ++ ((more.flatMap fun b => ' ' :: attributeChars b) ++ (tagMark closed ++ rest))

theorem IsName.begins {word : List Char} (named : IsName word) :
    ∃ c rest, word = c :: rest ∧ isNameStart c = true ∧ c ∉ ['/', '>'] := by
  cases word with
  | nil => cases named
  | cons c rest =>
    obtain ⟨start, -⟩ := named
    have apart : ∀ d ∈ ['/', '>'], d ∈ marks := by simp [marks]
    exact ⟨c, rest, rfl, start, fun same => isNameStart_ne start (apart c same) rfl⟩

theorem InSpace.begins {name : String} (spaced : InSpace name) : ∃ rest, name.toList = '\x7b' :: rest := by
  obtain ⟨uri, base, rfl⟩ := spaced
  exact ⟨(uri ++ "\x7d" ++ base).toList, by simp [expandedName]⟩

section Several
variable {a : String × String} (more : List (String × String)) (closed : Bool) (rest : List Char)

/-- Attributes begin with a character that neither ends a tag nor is skipped. -/
theorem attributesChars_begins (named : IsName a.1.toList ∨ InSpace a.1) :
    ∃ c body, attributesChars a more closed rest = c :: body ∧ c ∉ ['/', '>'] ∧ isGap c = false := by
  rcases named with named | spaced
  · obtain ⟨c, tail, word, start, inside⟩ := named.begins
    refine ⟨c, (attributesChars a more closed rest).tail, by simp [attributesChars, attributeChars, word], inside, ?_⟩
    simp [isGap, isNameStart_ne start (d := ' ') (by decide), isNameStart_ne start (d := '\t') (by decide),
      isNameStart_ne start (d := '\n') (by decide), isNameStart_ne start (d := '\r') (by decide)]
  · obtain ⟨tail, word⟩ := spaced.begins
    refine ⟨'\x7b', (attributesChars a more closed rest).tail, ?_, by decide, rfl⟩
    simp [attributesChars, attributeChars, word]

/-- One blank before an attribute is skipped, and no more. -/
theorem skipGaps_attributes (named : IsName a.1.toList ∨ InSpace a.1) :
    skipGaps (' ' :: attributesChars a more closed rest) = attributesChars a more closed rest := by
  obtain ⟨c, body, begins, -, gap⟩ := attributesChars_begins more closed rest named
  have blank : isGap ' ' = true := rfl
  rw [begins, skipGaps, List.dropWhile_cons_of_pos blank]
  exact skipGaps_mark gap

/-- The first attribute is read, and the tag goes on with the others or ends. -/
theorem tagAttributes_first (named : IsName a.1.toList) (allowed : Allowed a.2.toList)
    (others : ∀ b ∈ more, IsName b.1.toList ∨ InSpace b.1) :
    ∃ raw, ReadsBack raw a ∧ tagAttributes (attributesChars a more closed rest) =
      match more with
      | [] => .ok (([raw], closed), rest)
      | b :: others => (tagAttributes (attributesChars b others closed rest)).map
          fun ((later, closed), left) => ((raw :: later, closed), left) := by
  obtain ⟨raw, read, same⟩ := rawAttribute_written named allowed
    ((more.flatMap fun b => ' ' :: attributeChars b) ++ (tagMark closed ++ rest))
  refine ⟨raw, same, ?_⟩
  obtain ⟨c, body, begins, inside, -⟩ := attributesChars_begins more closed rest (.inl named)
  change rawAttribute (attributesChars a more closed rest) = _ at read
  rw [begins] at read
  rw [begins, tagAttributes_step inside read]
  cases more with
  | nil =>
    obtain ⟨d, after, mark, -, gap⟩ := tagMark_head closed rest
    have ended := tagEnd_mark closed rest
    rw [mark] at ended
    simp only [List.flatMap_nil, List.nil_append, mark, List.head?_cons, Option.any_some, gap, Bool.false_eq_true,
      ↓reduceIte, ended]
    rfl
  | cons b later =>
    have written : ((b :: later).flatMap fun b => ' ' :: attributeChars b) ++ (tagMark closed ++ rest) =
        ' ' :: attributesChars b later closed rest := by simp [attributesChars]
    have blank : isGap ' ' = true := rfl
    have skipped := skipGaps_attributes later closed rest (others b List.mem_cons_self)
    simp only [written, List.head?_cons, Option.any_some, blank, ↓reduceIte, skipped]

/-- Attributes with names that are names are read back, each with its value. -/
theorem tagAttributes_written (each : ∀ b ∈ a :: more, IsName b.1.toList ∧ Allowed b.2.toList) :
    ∃ raws, tagAttributes (attributesChars a more closed rest) = .ok ((raws, closed), rest) ∧
      List.Forall₂ ReadsBack raws (a :: more) := by
  induction more generalizing a with
  | nil =>
    obtain ⟨here, -⟩ := List.forall_mem_cons.mp each
    obtain ⟨raw, same, read⟩ := tagAttributes_first [] closed rest here.1 here.2 (by simp)
    exact ⟨[raw], read, .cons same .nil⟩
  | cons b later ih =>
    obtain ⟨here, others⟩ := List.forall_mem_cons.mp each
    obtain ⟨raw, same, read⟩ := tagAttributes_first (b :: later) closed rest here.1 here.2
      fun c member => .inl (others c member).1
    obtain ⟨raws, found, back⟩ := ih others
    refine ⟨raw :: raws, ?_, .cons same back⟩
    simp only [read, found]
    rfl

theorem tagAttributes_brace (brace : InSpace a.1) :
    ∃ stop, tagAttributes (attributesChars a more closed rest) = .error stop := by
  obtain ⟨tail, word⟩ := brace.begins
  have begins : attributesChars a more closed rest = '\x7b' :: (attributesChars a more closed rest).tail := by
    simp [attributesChars, attributeChars, word]
  obtain ⟨stop, refused⟩ := qualified_refused (c := '\x7b') (by decide) (attributesChars a more closed rest).tail
  have failed : rawAttribute ('\x7b' :: (attributesChars a more closed rest).tail) = .error stop := by
    simp only [rawAttribute, refused]
  rw [begins]
  exact ⟨stop, tagAttributes_refused (by decide) failed⟩

/-- Reading stops at an attribute in a namespace. -/
theorem tagAttributes_inSpace (each : ∀ b ∈ a :: more, (IsName b.1.toList ∨ InSpace b.1) ∧ Allowed b.2.toList)
    (spaced : ∃ b ∈ a :: more, InSpace b.1) :
    ∃ stop, tagAttributes (attributesChars a more closed rest) = .error stop := by
  induction more generalizing a with
  | nil =>
    obtain ⟨b, member, brace⟩ := spaced
    obtain rfl := List.mem_singleton.mp member
    exact tagAttributes_brace [] closed rest brace
  | cons b later ih =>
    obtain ⟨here, others⟩ := List.forall_mem_cons.mp each
    rcases here.1 with named | brace
    · have names : ∀ c ∈ b :: later, IsName c.1.toList ∨ InSpace c.1 := fun c member => (others c member).1
      obtain ⟨raw, -, read⟩ := tagAttributes_first (b :: later) closed rest named here.2 names
      obtain ⟨c, member, brace⟩ := spaced
      rcases List.mem_cons.mp member with rfl | later
      · exact absurd brace named.not_inSpace
      · obtain ⟨stop, failed⟩ := ih others ⟨c, later, brace⟩
        refine ⟨stop, ?_⟩
        simp only [read, failed]
        rfl
    · exact tagAttributes_brace (b :: later) closed rest brace

end Several

/-! ## Whole tags -/

/-- A start tag after its opening, up to its end and what follows it. -/
def tagChars (tag : String) (attributes : List (String × String)) (closed : Bool) (rest : List Char) : List Char :=
  tag.toList ++ ((writeAttributes attributes).toList ++ (tagMark closed ++ rest))

/-- A tag and attributes of which none is in a namespace. -/
structure Unspaced (tag : String) (attributes : List (String × String)) : Prop where
  tag : ¬ InSpace tag
  attributes : ∀ a ∈ attributes, ¬ InSpace a.1

section Whole
variable {tag : String} {attributes : List (String × String)} (closed : Bool) (rest : List Char)

theorem tagChars_cons (a : String × String) (more : List (String × String)) :
    tagChars tag (a :: more) closed rest = tag.toList ++ ' ' :: attributesChars a more closed rest := by
  simp [tagChars, writeAttributes_chars, attributesChars]

theorem openingTag_nil (named : IsName tag.toList) :
    openingTag (tagChars tag [] closed rest) = .ok ((⟨none, tag⟩, [], closed), rest) := by
  obtain ⟨c, after, mark, ends, gap⟩ := tagMark_head closed rest
  have ended := tagEnd_mark closed rest
  have boundary : EndsName (c :: after) := by
    rintro _ ⟨⟩
    exact ends
  have first := qualified_written named boundary
  have chars : tagChars tag [] closed rest = tag.toList ++ c :: after := by
    simp [tagChars, writeAttributes_chars, mark]
  rw [mark] at ended
  rw [String.ofList_toList] at first
  simp only [chars, openingTag, first, List.head?_cons, Option.any_some, gap, Bool.false_eq_true, ↓reduceIte, ended]
  rfl

theorem openingTag_cons (named : IsName tag.toList) {a : String × String} {more : List (String × String)}
    (first : IsName a.1.toList ∨ InSpace a.1) : openingTag (tagChars tag (a :: more) closed rest) =
      (tagAttributes (attributesChars a more closed rest)).map
        fun ((attributes, closed), left) => ((⟨none, tag⟩, attributes, closed), left) := by
  have boundary : EndsName (' ' :: attributesChars a more closed rest) := by
    rintro _ ⟨⟩
    decide
  have read := qualified_written named boundary
  have blank : isGap ' ' = true := rfl
  have skipped := skipGaps_attributes more closed rest first
  rw [String.ofList_toList] at read
  rw [tagChars_cons]
  simp only [openingTag, read, List.head?_cons, Option.any_some, blank, ↓reduceIte, skipped]

/-- A start tag without namespaces is scanned as it was written. -/
theorem openingTag_written (formed : TagFormed tag attributes) (unspaced : Unspaced tag attributes) :
    ∃ raws, openingTag (tagChars tag attributes closed rest) = .ok ((⟨none, tag⟩, raws, closed), rest) ∧
      List.Forall₂ ReadsBack raws attributes := by
  have named := formed.tag.resolve_right unspaced.tag
  cases attributes with
  | nil => exact ⟨[], openingTag_nil closed rest named, .nil⟩
  | cons a more =>
    have each : ∀ b ∈ a :: more, IsName b.1.toList ∧ Allowed b.2.toList := fun b member =>
      ⟨((formed.names b member).resolve_right (unspaced.attributes b member)).1, formed.values b member⟩
    obtain ⟨raws, read, back⟩ := tagAttributes_written more closed rest each
    refine ⟨raws, ?_, back⟩
    rw [openingTag_cons closed rest named (.inl (each a List.mem_cons_self).1), read]
    rfl

/-- Reading stops at a start tag that is in a namespace or has an attribute in one. -/
theorem openingTag_spaced (formed : TagFormed tag attributes) (spaced : ¬ Unspaced tag attributes) :
    ∃ stop, openingTag (tagChars tag attributes closed rest) = .error stop := by
  rcases formed.tag with named | brace
  · cases attributes with
    | nil => exact absurd ⟨named.not_inSpace, by simp⟩ spaced
    | cons a more =>
      have each : ∀ b ∈ a :: more, (IsName b.1.toList ∨ InSpace b.1) ∧ Allowed b.2.toList := fun b member =>
        ⟨(formed.names b member).imp_left And.left, formed.values b member⟩
      have found : ∃ b ∈ a :: more, InSpace b.1 := by
        by_contra absent
        refine spaced ⟨named.not_inSpace, fun b member brace => absent ⟨b, member, brace⟩⟩
      obtain ⟨stop, failed⟩ := tagAttributes_inSpace more closed rest each found
      refine ⟨stop, ?_⟩
      rw [openingTag_cons closed rest named (each a List.mem_cons_self).1, failed]
      rfl
  · obtain ⟨tail, word⟩ := brace.begins
    obtain ⟨stop, refused⟩ := qualified_refused (c := '\x7b') (by decide)
      (tail ++ ((writeAttributes attributes).toList ++ (tagMark closed ++ rest)))
    refine ⟨stop, ?_⟩
    simp only [tagChars, word, List.cons_append, openingTag, refused]

end Whole

/-! ## What tags mean -/

/-- An attribute that has no prefix. -/
def withoutPrefix (a : String × String) : QName × String := (⟨none, a.1⟩, a.2)

theorem declaredSpace_none {name : String} (other : name ≠ "xmlns") : declaredSpace ⟨none, name⟩ = none := by
  unfold declaredSpace
  split
  · rename_i same
    cases same
    exact absurd rfl other
  · rename_i same
    cases same
  · rfl

theorem Opening.add_plain {opening : Opening} {raw : RawAttribute} {a : String × String} (policy : Policy)
    (tagLeft : Nat) (back : ReadsBack raw a) (fresh : a.1 ∉ opening.seen) (other : a.1 ≠ "xmlns") :
    opening.add policy [] tagLeft raw = .ok
      ⟨a.1 :: opening.seen, opening.attributes ++ [withoutPrefix a], opening.spaces⟩ := by
  have written : (⟨none, a.1⟩ : QName).written = a.1 := rfl
  have unseen : opening.seen.contains a.1 = false := by simpa using fresh
  have plain (name : QName) : hasTokens [] name = false := rfl
  unfold Opening.add Opening.take
  simp only [back.name, written, unseen, Bool.false_eq_true, ↓reduceIte, back.value, declaredSpace_none other,
    String.ofList_toList, withoutPrefix, plain]

/-- Attributes that do not repeat each other are added one after the other. -/
theorem addAll_plain {raws : List RawAttribute} {attributes : List (String × String)} (opening : Opening)
    (policy : Policy) (tagLeft : Nat) (back : List.Forall₂ ReadsBack raws attributes)
    (fresh : ∀ a ∈ attributes, a.1 ∉ opening.seen) (other : ∀ a ∈ attributes, a.1 ≠ "xmlns")
    (distinct : attributes.Pairwise fun a b => a.1 ≠ b.1) :
    ∃ seen, raws.foldlM (Opening.add policy [] tagLeft) opening =
      .ok ⟨seen, opening.attributes ++ attributes.map withoutPrefix, opening.spaces⟩ := by
  induction back generalizing opening with
  | nil => exact ⟨opening.seen, by simp [pure, Except.pure]⟩
  | @cons raw a rest attributes same others ih =>
    obtain ⟨here, later⟩ := List.pairwise_cons.mp distinct
    obtain ⟨seen, added⟩ := ih ⟨a.1 :: opening.seen, opening.attributes ++ [withoutPrefix a], opening.spaces⟩
      (fun b member => by simpa using ⟨fun equal => here b member equal.symm, fresh b (List.mem_cons_of_mem _ member)⟩)
      (fun b member => other b (List.mem_cons_of_mem _ member)) later
    refine ⟨seen, ?_⟩
    have first := Opening.add_plain policy tagLeft same (fresh a List.mem_cons_self) (other a List.mem_cons_self)
    rw [List.foldlM_cons, first]
    change rest.foldlM (Opening.add policy [] tagLeft) _ = _
    simpa using added

theorem expandNames_plain (spaces : Spaces) (tagLeft : Nat) (attributes : List (String × String)) (seen : List String) :
    expandNames spaces tagLeft (attributes.map withoutPrefix) seen = .ok attributes := by
  induction attributes with
  | nil => rfl
  | cons a rest ih =>
    simp only [List.map_cons, withoutPrefix, expandNames] at ih ⊢
    rw [ih]
    rfl

/-- How a document is read that has no document type. -/
def Policy.bare : Policy := ⟨false, []⟩

/-- A start tag without namespaces means what was written, and declares no namespace. -/
theorem openTag_written {tag : String} {attributes : List (String × String)} {raws : List RawAttribute}
    (tagLeft : Nat) (formed : TagFormed tag attributes) (unspaced : Unspaced tag attributes)
    (back : List.Forall₂ ReadsBack raws attributes) :
    openTag .bare .initial tagLeft ⟨none, tag⟩ raws = .ok (tag, attributes, .initial) := by
  have distinct : attributes.Pairwise fun a b => a.1 ≠ b.1 := by
    refine formed.distinct.imp_of_mem fun {a b} member _ apart equal => ?_
    exact unspaced.attributes a member (apart equal)
  have other : ∀ a ∈ attributes, a.1 ≠ "xmlns" := fun a member =>
    ((formed.names a member).resolve_right (unspaced.attributes a member)).2
  obtain ⟨seen, added⟩ := addAll_plain ⟨[], [], .initial⟩ .bare tagLeft back (by simp) other distinct
  have name : elementName .initial ⟨none, tag⟩ = some tag := rfl
  have undeclared : (Policy.bare.declared.get? (QName.written ⟨none, tag⟩)).getD [] = [] := rfl
  simp only [openTag, undeclared, added, List.foldlM_nil, List.nil_append, pure, Except.pure, expandNames_plain, name]

end Colloquy.Markup
