import Mathlib.Data.List.Chain
import Mathlib.Data.List.Forall2
import Colloquy.Markup.Reader
import Colloquy.Proofs.Markup.Names

/-! What trees are read. Whatever the document, its tree has names that are names or are in a namespace, attributes
without repetitions, characters that may occur in markup, comments that could be written, and no text that is empty or
next to another one. -/
namespace Colloquy.Markup

/-- Characters that may occur in markup. -/
def Allowed (cs : List Char) : Prop := ∀ c ∈ cs, isAllowed c = true

/-- The body of a comment: no two hyphens in a row and none at the end. -/
inductive CommentBody : List Char → Prop where
  | nil : CommentBody []
  | cons {c : Char} {rest : List Char} (allowed : isAllowed c = true)
      (single : c = '-' → rest ≠ [] ∧ rest.head? ≠ some '-') (more : CommentBody rest) : CommentBody (c :: rest)

/-- A tag with its attributes as they are read. -/
structure TagFormed (tag : String) (attributes : List (String × String)) : Prop where
  tag : IsName tag.toList ∨ InSpace tag
  names : ∀ a ∈ attributes, IsName a.1.toList ∧ a.1 ≠ "xmlns" ∨ InSpace a.1
  distinct : attributes.Pairwise fun a b => a.1 = b.1 → InSpace a.1
  values : ∀ a ∈ attributes, Allowed a.2.toList

/-- Whether a node is text. -/
def Node.isText : Node → Bool
  | text _ => true
  | _ => false

/-- Text and comments as they are read. -/
def Node.Formed : Node → Prop
  | text value => value ≠ "" ∧ Allowed value.toList
  | comment body => CommentBody body.toList ∧ '\r' ∉ body.toList
  | element _ => True

/-- Two neighbours, not both of them text. -/
def Apart (a b : Node) : Prop := a.isText = false ∨ b.isText = false

/-- A tree as it is read. -/
inductive Legible : Element → Prop where
  | intro {e : Element} (opening : TagFormed e.tag e.attributes) (leaves : ∀ node ∈ e.children, node.Formed)
      (apart : e.children.IsChain Apart) (elements : ∀ child ∈ e.elements, Legible child) : Legible e

/-! ## Line ends -/

section Lines
variable {cs : List Char}

theorem normalizeLines_feed : '\r' ∉ normalizeLines cs := by
  fun_induction normalizeLines cs with
  | case1 rest ih => simpa using ih
  | case2 rest _ ih => simpa using ih
  | case3 c rest _ other ih => simpa [eq_comm] using ⟨other, ih⟩
  | case4 => simp

theorem normalizeLines_allowed (allowed : Allowed cs) : Allowed (normalizeLines cs) := by
  have feed : isAllowed '\n' = true := by decide
  fun_induction normalizeLines cs with
  | case1 rest ih => exact List.forall_mem_cons.mpr ⟨feed, ih fun c member => allowed c (by simp [member])⟩
  | case2 rest _ ih => exact List.forall_mem_cons.mpr ⟨feed, ih fun c member => allowed c (by simp [member])⟩
  | case3 c rest _ _ ih =>
    obtain ⟨here, others⟩ := List.forall_mem_cons.mp allowed
    exact List.forall_mem_cons.mpr ⟨here, ih others⟩
  | case4 => simp [Allowed]

/-- Reading line ends keeps the first character, unless it is a line end. -/
theorem head_normalizeLines (nonempty : cs ≠ []) :
    (normalizeLines cs).head? = some '\n' ∨ (normalizeLines cs).head? = cs.head? := by
  fun_cases normalizeLines cs with
  | case1 => exact .inl rfl
  | case2 => exact .inl rfl
  | case3 => exact .inr rfl
  | case4 => exact absurd rfl nonempty

theorem normalizeLines_comment (body : CommentBody cs) : CommentBody (normalizeLines cs) := by
  have feed : isAllowed '\n' = true := by decide
  fun_induction normalizeLines cs with
  | case1 rest ih =>
    cases body with
    | cons _ _ more => cases more with
      | cons _ _ more => exact .cons feed (by simp) (ih more)
  | case2 rest _ ih =>
    cases body with
    | cons _ _ more => exact .cons feed (by simp) (ih more)
  | case3 c rest _ _ ih =>
    cases body with
    | cons allowed single more =>
      refine .cons allowed (fun hyphen => ?_) (ih more)
      obtain ⟨nonempty, other⟩ := single hyphen
      rcases head_normalizeLines nonempty with feed | same
      · refine ⟨?_, by simp [feed]⟩
        rintro empty
        simp [empty] at feed
      · rw [← same] at other
        refine ⟨?_, other⟩
        rintro empty
        rw [empty] at same
        exact nonempty (List.head?_eq_none_iff.mp same.symm)
  | case4 => exact .nil

end Lines
/-! ## Tokens -/

/-- An attribute as it is scanned. -/
structure RawFormed (raw : RawAttribute) : Prop where
  name : IsName raw.name.base.toList
  value : Allowed raw.value

section Tokens
variable {cs rest : List Char}

theorem quotedValue_allowed {quote : Char} {value : List Char} (read : quotedValue quote cs = .ok (value, rest)) :
    Allowed value := by
  induction cs generalizing value with
  | nil => cases read
  | cons c tail ih =>
    have more (allowed : isAllowed c = true) (inner : (quotedValue quote tail).map
        (fun found => (c :: found.1, found.2)) = .ok (value, rest)) : Allowed value := by
      obtain ⟨⟨body, left⟩, found, same⟩ := eq_ok_of_map inner
      cases same
      exact List.forall_mem_cons.mpr ⟨allowed, ih found⟩
    unfold quotedValue at read
    split at read
    · cases read
      simp [Allowed]
    · split at read
      · cases read
      · rename_i legal
        have allowed : isAllowed c = true := by
          simp only [Bool.or_eq_true, Bool.not_eq_true', not_or, Bool.not_eq_false] at legal
          exact legal.2
        split at read
        · split at read
          · cases read
          · exact more allowed read
        · exact more allowed read

theorem rawAttribute_formed {raw : RawAttribute} (read : rawAttribute cs = .ok (raw, rest)) : RawFormed raw := by
  unfold rawAttribute at read
  split at read
  · cases read
  · rename_i named
    split at read
    · split at read
      · split at read
        · obtain ⟨⟨value, left⟩, found, same⟩ := eq_ok_of_map read
          cases same
          exact ⟨qualified_isName named, quotedValue_allowed found⟩
        · cases read
      · cases read
    · cases read

theorem tagAttributes_formed {raw : List RawAttribute} {closed : Bool}
    (read : tagAttributes cs = .ok ((raw, closed), rest)) : ∀ a ∈ raw, RawFormed a := by
  fun_induction tagAttributes cs generalizing raw with
  | case1 =>
    cases read
    simp
  | case2 => cases read
  | case3 => cases read
  | case4 cs _ _ _ first left inner gap ih =>
    obtain ⟨⟨⟨more, ending⟩, after⟩, others, same⟩ := eq_ok_of_map read
    cases same
    exact List.forall_mem_cons.mpr ⟨rawAttribute_formed inner, ih others⟩
  | case5 cs _ _ _ first left inner gap =>
    obtain ⟨⟨ending, after⟩, ended, same⟩ := eq_ok_of_map read
    cases same
    exact List.forall_mem_cons.mpr ⟨rawAttribute_formed inner, by simp⟩

theorem openingTag_formed {q : QName} {raw : List RawAttribute} {closed : Bool}
    (read : openingTag cs = .ok ((q, raw, closed), rest)) : IsName q.base.toList ∧ ∀ a ∈ raw, RawFormed a := by
  unfold openingTag at read
  split at read
  · cases read
  · rename_i named
    split at read
    · obtain ⟨⟨⟨more, ending⟩, after⟩, others, same⟩ := eq_ok_of_map read
      cases same
      exact ⟨qualified_isName named, tagAttributes_formed others⟩
    · obtain ⟨⟨ending, after⟩, ended, same⟩ := eq_ok_of_map read
      cases same
      exact ⟨qualified_isName named, by simp⟩

/-- A comment that does not begin with a hyphen has a body that begins with the same character. -/
theorem commentBody_head {body : List Char} (read : commentBody cs = .ok (body, rest)) (other : cs.head? ≠ some '-') :
    body ≠ [] ∧ body.head? ≠ some '-' := by
  unfold commentBody at read
  split at read
  · exact absurd rfl other
  · exact absurd rfl other
  · split at read
    · obtain ⟨⟨more, left⟩, found, same⟩ := eq_ok_of_map read
      cases same
      exact ⟨List.cons_ne_nil _ _, other⟩
    · cases read
  · cases read

theorem commentBody_formed {body : List Char} (read : commentBody cs = .ok (body, rest)) : CommentBody body := by
  fun_induction commentBody cs generalizing body with
  | case1 rest =>
    cases read
    exact .nil
  | case2 => cases read
  | case3 c tail notEnd notPair allowed ih =>
    obtain ⟨⟨more, left⟩, found, same⟩ := eq_ok_of_map read
    cases same
    refine .cons allowed (fun hyphen => commentBody_head found ?_) (ih found)
    intro another
    obtain ⟨after, split⟩ := List.head?_eq_some_iff.mp another
    exact notPair after hyphen split
  | case4 => cases read
  | case5 => cases read

theorem characterData_allowed {body : List Char} (read : characterData cs = .ok (body, rest)) : Allowed body := by
  fun_induction characterData cs generalizing body with
  | case1 rest =>
    cases read
    simp [Allowed]
  | case2 => cases read
  | case3 => cases read
  | case4 => cases read
  | case5 c tail _ _ _ _ allowed ih =>
    obtain ⟨⟨more, left⟩, found, same⟩ := eq_ok_of_map read
    cases same
    exact List.forall_mem_cons.mpr ⟨allowed, ih found⟩
  | case6 => cases read
  | case7 => cases read

end Tokens

/-- A token whose parts may occur in markup. -/
def Piece.Formed : Piece → Prop
  | text run => Allowed run
  | comment body => CommentBody body ∧ '\r' ∉ body
  | openTag q raw _ => IsName q.base.toList ∧ ∀ a ∈ raw, RawFormed a
  | _ => True

section Pieces
variable {cs rest : List Char} {found : Piece} {left : Nat}

theorem markupPiece_formed (read : markupPiece left cs = .ok (found, rest)) : found.Formed := by
  unfold markupPiece at read
  split at read
  · obtain ⟨⟨tag, after⟩, inner, same⟩ := eq_ok_of_map read
    cases same
    trivial
  · split at read
    · cases read
    · cases read
    · cases read
      trivial
  · obtain ⟨⟨body, after⟩, inner, same⟩ := eq_ok_of_map read
    cases same
    exact ⟨normalizeLines_comment (commentBody_formed (Scan.orHalt_ok inner)), normalizeLines_feed⟩
  · cases read
  · split at read
    · cases read
    · obtain ⟨⟨body, after⟩, inner, same⟩ := eq_ok_of_map read
      cases same
      exact normalizeLines_allowed (characterData_allowed inner)
  · cases read
  · obtain ⟨⟨⟨tag, attributes, closed⟩, after⟩, inner, same⟩ := eq_ok_of_map read
    cases same
    exact openingTag_formed (Scan.orHalt_ok inner)

theorem characterOf_allowed {n : Nat} {c : Char} (found : characterOf n = some c) : isAllowed c = true := by
  unfold characterOf at found
  split at found
  · rename_i legal
    cases found
    simp only [Bool.and_eq_true] at legal
    exact legal.2
  · cases found

theorem predefined_allowed {name : String} {c : Char} (found : predefined name = some c) : isAllowed c = true := by
  unfold predefined at found
  split at found <;> cases found <;> decide

theorem piece_formed {policy : Policy} {c : Char} (read : piece policy c cs = .ok (found, rest)) : found.Formed := by
  have single {c : Char} (allowed : isAllowed c = true) : Allowed [c] := by simpa [Allowed] using allowed
  have feed : isAllowed '\n' = true := by decide
  unfold piece at read
  dsimp only at read
  split at read
  · exact markupPiece_formed read
  · split at read
    · split at read
      · cases read
      · split at read
        · rename_i known
          cases read
          exact single (characterOf_allowed known)
        · cases read
      · split at read
        · rename_i known
          cases read
          exact single (predefined_allowed known)
        · split at read
          · cases read
            trivial
          · cases read
    · split at read
      · split at read
        · cases read
        · cases read
          exact single feed
        · cases read
          exact single feed
      · split at read
        · cases read
        · split at read
          · rename_i allowed
            cases read
            exact single allowed
          · cases read

end Pieces

/-! ## Start tags -/

section References
variable {cs rest : List Char}

theorem name_suffix {found : String} (read : name cs = .ok (found, rest)) : rest <:+ cs := by
  unfold name at read
  split at read
  · cases read
  · split at read
    · cases read
      exact (List.dropWhile_suffix _).trans (List.suffix_cons _ _)
    · cases read

theorem characterCode_suffix {base : Nat} {p : Char → Bool} {found : Reference}
    (read : characterCode base p cs = .ok (found, rest)) : rest <:+ cs := by
  unfold characterCode at read
  split at read
  · cases read
  · rename_i behind _
    cases read
    have whole := List.dropWhile_suffix (l := cs) p
    rw [behind] at whole
    exact (List.suffix_cons _ _).trans whole
  · cases read

theorem reference_suffix {found : Reference} (read : reference cs = .ok (found, rest)) : rest <:+ cs := by
  unfold reference at read
  split at read
  · exact (characterCode_suffix read).trans ((List.suffix_cons _ _).trans (List.suffix_cons _ _))
  · exact (characterCode_suffix read).trans (List.suffix_cons _ _)
  · split at read
    · cases read
    · rename_i named
      cases read
      exact (List.suffix_cons _ _).trans (name_suffix named)
    · cases read

end References

theorem expandValue_allowed {policy : Policy} {tagLeft after : Nat} {cs value : List Char}
    (read : expandValue policy tagLeft after cs = .ok value) (allowed : Allowed cs) : Allowed value := by
  have behind {rest left : List Char} {found : Reference} (referred : reference rest = .ok (found, left))
      (allowed : Allowed ('&' :: rest)) : Allowed left :=
    fun c member => allowed c (List.mem_cons_of_mem _ ((reference_suffix referred).subset member))
  have joined {c : Char} {rest value : List Char} (here : isAllowed c = true)
      (others : ∀ more, expandValue policy tagLeft after rest = .ok more → Allowed more)
      (read : (expandValue policy tagLeft after rest).map (c :: ·) = .ok value) : Allowed value := by
    obtain ⟨more, found, rfl⟩ := eq_ok_of_map read
    exact List.forall_mem_cons.mpr ⟨here, others more found⟩
  fun_induction expandValue policy tagLeft after cs generalizing value with
  | case1 =>
    cases read
    simp [Allowed]
  | case2 => cases read
  | case3 rest n left referred c known ih =>
    exact joined (characterOf_allowed known) (fun more found => ih found (behind referred allowed)) read
  | case4 => cases read
  | case5 rest name left referred c known ih =>
    exact joined (predefined_allowed known) (fun more found => ih found (behind referred allowed)) read
  | case6 rest name left referred _ _ ih => exact ih read (behind referred allowed)
  | case7 => cases read
  | case8 => cases read
  | case9 rest ih =>
    refine joined (by decide) (fun more found => ih found fun c member => allowed c ?_) read
    exact List.mem_cons_of_mem _ (List.mem_cons_of_mem _ member)
  | case10 c rest _ _ _ ih =>
    obtain ⟨here, others⟩ := List.forall_mem_cons.mp allowed
    refine joined ?_ (fun more found => ih found others) read
    split
    · decide
    · exact here

theorem singleSpaces_sublist (after : Bool) (cs : List Char) : (singleSpaces after cs).Sublist cs := by
  fun_induction singleSpaces after cs with
  | case1 => exact .slnil
  | case2 after c rest _ ih => exact ih.cons c
  | case3 after c rest _ ih => exact ih.cons_cons c

/-- Joining tokens leaves characters out and adds none. -/
theorem joinTokens_sublist (cs : List Char) : (joinTokens cs).Sublist cs := by
  unfold joinTokens
  dsimp only
  split
  · exact (List.dropLast_sublist _).trans (singleSpaces_sublist true cs)
  · exact singleSpaces_sublist true cs

theorem tokens_allowed {cs : List Char} (allowed : Allowed cs) (tokens : Bool) :
    Allowed (if tokens then joinTokens cs else cs) := by
  split
  · exact fun c member => allowed c ((joinTokens_sublist cs).subset member)
  · exact allowed

/-- What an attribute may be called: without a prefix it is a name. -/
def QName.Formed (q : QName) : Prop := q.space = none → IsName q.base.toList

/-- An attribute as a document type may declare it. -/
structure DeclaredAttribute.Formed (known : DeclaredAttribute) : Prop where
  name : known.name.Formed
  value : ∀ value, known.value = some value → Allowed value.toList

/-- What a document type may have declared. -/
def Policy.Formed (policy : Policy) : Prop :=
  ∀ owner known, policy.declared.get? owner = some known → ∀ d ∈ known, d.Formed

/-- A start tag of which some attributes have been read. -/
structure Opening.Formed (opening : Opening) : Prop where
  names : ∀ a ∈ opening.attributes, a.1.Formed ∧ declaredSpace a.1 = none
  values : ∀ a ∈ opening.attributes, Allowed a.2.toList
  seen : ∀ a ∈ opening.attributes, a.1.written ∈ opening.seen
  distinct : opening.attributes.Pairwise fun a b => a.1.written ≠ b.1.written

/-- An attribute that was not there can be taken. -/
theorem Opening.take_formed {tagLeft : Nat} {opening next : Opening} {name : QName} {value : String}
    (taken : opening.take tagLeft name value = .ok next) (formed : opening.Formed) (named : name.Formed)
    (allowed : Allowed value.toList) (fresh : name.written ∉ opening.seen) : next.Formed := by
  unfold Opening.take at taken
  dsimp only at taken
  split at taken
  · rename_i plain
    cases taken
    have apart : ∀ a ∈ opening.attributes, a.1.written ≠ name.written := by
      intro a member same
      exact fresh (same ▸ formed.seen a member)
    constructor
    · intro a member
      rcases List.mem_append.mp member with old | new
      · exact formed.names a old
      · obtain rfl := List.mem_singleton.mp new
        exact ⟨named, plain⟩
    · intro a member
      rcases List.mem_append.mp member with old | new
      · exact formed.values a old
      · obtain rfl := List.mem_singleton.mp new
        exact allowed
    · intro a member
      rcases List.mem_append.mp member with old | new
      · exact List.mem_cons_of_mem _ (formed.seen a old)
      · obtain rfl := List.mem_singleton.mp new
        exact List.mem_cons_self
    · refine List.pairwise_append.mpr ⟨formed.distinct, List.pairwise_singleton _ _, ?_⟩
      intro a old b new
      obtain rfl := List.mem_singleton.mp new
      exact apart a old
  · split at taken
    · cases taken
      exact ⟨formed.names, formed.values, fun a member => List.mem_cons_of_mem _ (formed.seen a member),
        formed.distinct⟩
    · cases taken

section Added
variable {policy : Policy} {declared : List DeclaredAttribute} {tagLeft : Nat} {opening next : Opening}

theorem Opening.add_formed {raw : RawAttribute} (added : opening.add policy declared tagLeft raw = .ok next)
    (formed : opening.Formed) (scanned : RawFormed raw) : next.Formed := by
  unfold Opening.add at added
  dsimp only at added
  split at added
  · cases added
  · rename_i fresh
    split at added
    · cases added
    · rename_i value expanded
      refine Opening.take_formed added formed (fun _ => scanned.name) ?_ (by simpa using fresh)
      rw [String.toList_ofList]
      exact tokens_allowed (expandValue_allowed expanded scanned.value) _

theorem Opening.addMissing_formed {known : DeclaredAttribute} (added : opening.addMissing tagLeft known = .ok next)
    (formed : opening.Formed) (declared : known.Formed) : next.Formed := by
  unfold Opening.addMissing at added
  split at added
  · cases added
    exact formed
  · rename_i value given
    split at added
    · cases added
      exact formed
    · rename_i fresh
      exact Opening.take_formed added formed declared.name (declared.value value given) (by simpa using fresh)

end Added

/-- A step that keeps a start tag as it may be read can be taken for every one of a list. -/
theorem foldlM_formed {α : Type} {add : Opening → α → Except Halt Opening} (legal : α → Prop)
    (step : ∀ opening next a, add opening a = .ok next → opening.Formed → legal a → next.Formed) {items : List α}
    {opening final : Opening} (added : items.foldlM add opening = .ok final) (formed : opening.Formed)
    (each : ∀ a ∈ items, legal a) : final.Formed := by
  induction items generalizing opening with
  | nil =>
    cases added
    exact formed
  | cons first rest ih =>
    obtain ⟨here, others⟩ := List.forall_mem_cons.mp each
    obtain ⟨next, found, later⟩ := eq_ok_of_bind added
    exact ih later (step opening next first found formed here) others

/-- An attribute as it was written, and the same one with its name in its namespace. -/
structure NamedAs (written : QName × String) (named : String × String) : Prop where
  value : named.2 = written.2
  name : written.1.space = none ∧ named.1 = written.1.base ∨ InSpace named.1

section Expanded
variable {spaces : Spaces} {tagLeft : Nat} {written : List (QName × String)} {named : List (String × String)}

theorem expandNames_named {seen : List String} (read : expandNames spaces tagLeft written seen = .ok named) :
    List.Forall₂ NamedAs written named := by
  fun_induction expandNames spaces tagLeft written seen generalizing named with
  | case1 =>
    cases read
    exact .nil
  | case2 base value rest seen ih =>
    obtain ⟨more, found, rfl⟩ := eq_ok_of_map read
    exact .cons ⟨rfl, .inl ⟨rfl, rfl⟩⟩ (ih found)
  | case3 => cases read
  | case4 => cases read
  | case5 space base value rest seen uri bound name fresh =>
    rename_i ih
    obtain ⟨more, found, rfl⟩ := eq_ok_of_map read
    exact .cons ⟨rfl, .inr ⟨uri, base, rfl⟩⟩ (ih found)

theorem named_source (same : List.Forall₂ NamedAs written named) :
    ∀ b ∈ named, ∃ a ∈ written, NamedAs a b := by
  induction same with
  | nil => simp
  | cons here others ih =>
    intro b member
    rcases List.mem_cons.mp member with rfl | later
    · exact ⟨_, List.mem_cons_self, here⟩
    · obtain ⟨a, inside, found⟩ := ih b later
      exact ⟨a, List.mem_cons_of_mem _ inside, found⟩

theorem NamedAs.written_eq {a : QName × String} {b : String × String} (same : NamedAs a b) :
    b.1 = a.1.written ∨ InSpace b.1 := by
  obtain ⟨-, ⟨plain, name⟩ | spaced⟩ := same
  · exact .inl (by rw [name, QName.written, plain])
  · exact .inr spaced

theorem named_distinct (same : List.Forall₂ NamedAs written named)
    (distinct : written.Pairwise fun a b => a.1.written ≠ b.1.written) :
    named.Pairwise fun a b => a.1 = b.1 → InSpace a.1 := by
  induction same with
  | nil => exact .nil
  | @cons a b restA restB here others ih =>
    obtain ⟨first, later⟩ := List.pairwise_cons.mp distinct
    refine List.pairwise_cons.mpr ⟨fun other member equal => ?_, ih later⟩
    obtain ⟨source, inside, named⟩ := named_source others other member
    rcases here.written_eq with plain | spaced
    · rcases named.written_eq with plainOther | spacedOther
      · exact absurd (by rw [← plain, ← plainOther, equal]) (first source inside)
      · rwa [equal]
    · exact spaced

theorem elementName_formed {q : QName} {tag : String} (named : IsName q.base.toList)
    (found : elementName spaces q = some tag) : IsName tag.toList ∨ InSpace tag := by
  unfold elementName at found
  split at found
  · obtain ⟨uri, bound, rfl⟩ := Option.map_eq_some_iff.mp found
    exact .inr ⟨uri, q.base, rfl⟩
  · split at found
    · rename_i uri bound
      split at found
      · cases found
        exact .inl named
      · cases found
        exact .inr ⟨uri, q.base, rfl⟩
    · cases found
      exact .inl named

end Expanded

/-- A start tag is read with a tag and attributes that are well formed. -/
theorem openTag_formed {policy : Policy} {spaces inner : Spaces} {tagLeft : Nat} {q : QName} {raw : List RawAttribute}
    {tag : String} {attributes : List (String × String)}
    (read : openTag policy spaces tagLeft q raw = .ok (tag, attributes, inner)) (declared : policy.Formed)
    (named : IsName q.base.toList) (scanned : ∀ a ∈ raw, RawFormed a) : TagFormed tag attributes := by
  have owned : ∀ known ∈ (policy.declared.get? q.written).getD [], known.Formed := by
    cases owned : policy.declared.get? q.written with
    | none => simp
    | some known => exact declared q.written known owned
  unfold openTag at read
  dsimp only at read
  split at read
  · cases read
  · rename_i written added
    have empty : Opening.Formed ⟨[], [], spaces⟩ := ⟨by simp, by simp, by simp, .nil⟩
    have given := foldlM_formed RawFormed (fun _ _ _ => Opening.add_formed) added empty scanned
    split at read
    · cases read
    rename_i opening completed
    have formed := foldlM_formed DeclaredAttribute.Formed (fun _ _ _ => Opening.addMissing_formed) completed given owned
    split at read
    · cases read
    · rename_i result expanded
      have same := expandNames_named expanded
      split at read
      · cases read
      · rename_i name found
        cases read
        constructor
        · exact elementName_formed named found
        · intro a member
          obtain ⟨source, inside, equal⟩ := named_source same a member
          obtain ⟨legal, undeclared⟩ := formed.names source inside
          obtain ⟨-, ⟨plain, name⟩ | spaced⟩ := equal
          · rw [name]
            refine .inl ⟨legal plain, fun reserved => ?_⟩
            obtain ⟨⟨space, base⟩, value⟩ := source
            simp only at plain reserved
            subst plain reserved
            cases undeclared
          · exact .inr spaced
        · exact named_distinct same formed.distinct
        · intro a member
          obtain ⟨source, inside, equal⟩ := named_source same a member
          rw [equal.value]
          exact formed.values source inside

/-! ## Elements -/

/-- An open element whose parts are as they are read. -/
structure Frame.Formed (frame : Frame) : Prop where
  opening : TagFormed frame.tag frame.attributes
  leaves : ∀ node ∈ frame.children, node.Formed
  elements : ∀ e, .element e ∈ frame.children → Legible e
  apart : frame.children.IsChain Apart
  front : ∀ node, frame.children.head? = some node → node.isText = false
  run : Allowed frame.run

namespace Frame.Formed
variable {frame : Frame}

theorem flush_leaves (formed : frame.Formed) : ∀ node ∈ frame.flush, node.Formed := by
  unfold Frame.flush
  split
  · exact formed.leaves
  · rename_i something
    refine List.forall_mem_cons.mpr ⟨⟨?_, ?_⟩, formed.leaves⟩
    · intro blank
      have empty : frame.run.reverse = [] := by
        rw [← String.toList_ofList (l := frame.run.reverse), blank]
        rfl
      exact something (by simpa using empty)
    · rw [String.toList_ofList]
      exact fun c member => formed.run c (List.mem_reverse.mp member)

theorem flush_elements (formed : frame.Formed) : ∀ e, .element e ∈ frame.flush → Legible e := by
  unfold Frame.flush
  split
  · exact formed.elements
  · intro e member
    rcases List.mem_cons.mp member with other | inside
    · cases other
    · exact formed.elements e inside

theorem flush_apart (formed : frame.Formed) : frame.flush.IsChain Apart := by
  unfold Frame.flush
  split
  · exact formed.apart
  · exact formed.apart.cons fun node head => .inr (formed.front node head)

/-- A comment or an element can be added, which ends the run of character data. -/
theorem add (formed : frame.Formed) {node : Node} (leaf : node.Formed) (other : node.isText = false)
    (legible : ∀ e, node = .element e → Legible e) : (frame.add node).Formed where
  opening := formed.opening
  leaves := List.forall_mem_cons.mpr ⟨leaf, formed.flush_leaves⟩
  elements e member := by
    rcases List.mem_cons.mp member with same | inside
    · exact legible e same.symm
    · exact formed.flush_elements e inside
  apart := formed.flush_apart.cons fun _ _ => .inl other
  front := by
    rintro _ ⟨⟩
    exact other
  run := by simp [Frame.add, Allowed]

theorem element (formed : frame.Formed) : Legible frame.element := by
  refine .intro formed.opening (fun node member => formed.flush_leaves node (List.mem_reverse.mp member)) ?_ ?_
  · refine List.isChain_reverse.mpr ?_
    refine formed.flush_apart.imp fun a b apart => ?_
    exact apart.symm
  · intro child member
    exact formed.flush_elements child (List.mem_reverse.mp (Element.mem_elements.mp member))

end Frame.Formed

theorem content_legible {policy : Policy} {frame : Frame} {outer : List Frame} {cs rest : List Char} {e : Element}
    (read : content policy frame outer cs = .ok (e, rest)) (declared : policy.Formed) (inner : frame.Formed)
    (around : ∀ f ∈ outer, f.Formed) : Legible e := by
  fun_induction content policy frame outer cs with
  | case1 => cases read
  | case2 => cases read
  | case3 frame outer c tail run left token ih =>
    refine ih read ⟨inner.opening, inner.leaves, inner.elements, inner.apart, inner.front, ?_⟩ around
    intro d member
    rcases List.mem_append.mp member with new | old
    · exact piece_formed token d (List.mem_reverse.mp new)
    · exact inner.run d old
  | case4 frame outer c tail body left token ih =>
    obtain ⟨legal, feeds⟩ := piece_formed token
    refine ih read (inner.add ⟨?_, ?_⟩ rfl (by simp)) around
    · rwa [String.toList_ofList]
    · rwa [String.toList_ofList]
  | case5 frame outer c tail left token ih => exact ih read inner around
  | case6 => cases read
  | case7 => cases read
  | case8 frame outer c tail q raw left tag attributes spaces opened token ih =>
    obtain ⟨named, scanned⟩ := piece_formed token
    have formed := openTag_formed opened declared named scanned
    refine ih read (inner.add trivial rfl ?_) around
    rintro _ ⟨⟩
    exact .intro formed (by simp) .nil (by simp [Element.elements])
  | case9 frame outer c tail q raw closed left token tag attributes spaces opened more ih =>
    obtain ⟨named, scanned⟩ := piece_formed token
    have formed := openTag_formed opened declared named scanned
    refine ih read ⟨formed, by simp, by simp, .nil, by simp, by simp [Allowed]⟩ ?_
    exact List.forall_mem_cons.mpr ⟨inner, around⟩
  | case10 => cases read
  | case11 frame c tail tag left token same =>
    cases read
    exact inner.element
  | case12 frame c tail tag left token same parent outer ih =>
    obtain ⟨here, others⟩ := List.forall_mem_cons.mp around
    refine ih read (here.add trivial rfl ?_) others
    rintro _ ⟨⟩
    exact inner.element

end Colloquy.Markup
