import Mathlib.Data.List.TakeWhile
import Colloquy.Markup.Reader
import Colloquy.Proofs.Markup.Legible
import Colloquy.Proofs.Store.Fields

/-! What a document type declares. The names and values that it gives to attributes are such as could be written in a
start tag, so that what is read of a document is legible whether or not it has a document type. -/
namespace Colloquy.Markup

/-- A token as it is read: a name without a colon is a name, and a literal holds what may occur in markup. -/
def Outside.Formed : Outside → Prop
  | .name cs => ':' ∉ cs → IsName cs
  | .literal body => Allowed body
  | _ => True

section Tokens
variable {cs rest : List Char} {token : Outside}

theorem outsideLiteral_allowed {quote : Char} {body : List Char} (read : outsideLiteral quote cs = .ok (body, rest)) :
    Allowed body := by
  fun_induction outsideLiteral quote cs generalizing body with
  | case1 => cases read
  | case2 =>
    cases read
    simp [Allowed]
  | case3 =>
    cases read
    simp [Allowed]
  | case4 => cases read
  | case5 c tail _ allowed ih =>
    obtain ⟨⟨more, left⟩, found, same⟩ := eq_ok_of_map read
    cases same
    exact List.forall_mem_cons.mpr ⟨allowed, ih found⟩
  | case6 => cases read

/-- A whole name that has no colon is a name. -/
theorem isName_of_whole {word : List Char} (whole : isWholeName word = true)
    (inside : ∀ c ∈ word, (isNameChar c || c == ':') = true) (simple : ':' ∉ word) : IsName word := by
  cases word with
  | nil => cases whole
  | cons c tail =>
    obtain ⟨other, others⟩ := List.ne_and_not_mem_of_not_mem_cons simple
    simp only [isWholeName, List.head?_cons, Option.any_some, Bool.and_eq_true] at whole
    refine ⟨whole.1, fun d member => ?_⟩
    have legal := inside d (List.mem_cons_of_mem _ member)
    have apart : d ≠ ':' := fun same => others (same ▸ member)
    simpa [apart] using legal

theorem outsideName_formed (read : outsideName cs = .ok (token, rest)) : token.Formed := by
  have named : (if isWholeName (cs.takeWhile fun c => isNameChar c || c == ':') = true
      then Outside.name (cs.takeWhile fun c => isNameChar c || c == ':') else .word).Formed := by
    split
    · rename_i whole
      exact isName_of_whole whole (takeWhile_inside _ cs)
    · trivial
  unfold outsideName at read
  dsimp only at read
  split at read
  · split at read
    · cases read
    · cases read
      exact named
  · split at read
    · cases read
      exact named
    · split at read
      · cases read
        trivial
      · cases read

theorem outsideMarkup_formed (read : outsideMarkup cs = .ok (token, rest)) : token.Formed := by
  unfold outsideMarkup at read
  split at read
  · obtain ⟨found, -, same⟩ := eq_ok_of_map read
    cases same
    trivial
  · cases read
  · cases read
    trivial
  · unfold declarationKeyword at read
    dsimp only at read
    repeat' split at read
    all_goals cases read <;> trivial
  · obtain ⟨⟨found, left⟩, -, same⟩ := eq_ok_of_map read
    cases found <;> cases same
    all_goals trivial
  · split at read
    · cases read
      trivial
    · cases read
  · cases read

theorem outsideMark_formed {c : Char} (read : outsideMark c cs = .ok (token, rest)) : token.Formed := by
  unfold outsideMark outsideBracket outsideParen percentName numberName stopAt at read
  repeat' split at read
  all_goals cases read <;> trivial

theorem outside_formed {c : Char} (read : outside c cs = .ok (token, rest)) : token.Formed := by
  unfold outside at read
  split at read
  · cases read
    trivial
  split at read
  · exact outsideMarkup_formed read
  split at read
  · obtain ⟨⟨body, left⟩, found, same⟩ := eq_ok_of_map read
    cases same
    exact outsideLiteral_allowed found
  split at read
  · exact outsideName_formed read
  · exact outsideMark_formed read

end Tokens

/-! ## Declarations -/

theorem QName.ofWord_formed {word : List Char} (named : ':' ∉ word → IsName word) : (QName.ofWord word).Formed := by
  unfold QName.ofWord
  split
  · rename_i simple
    intro _
    rw [String.toList_ofList]
    refine named fun colon => ?_
    have all := List.dropWhile_eq_nil_iff.mp simple ':' colon
    simp at all
  · intro plain
    cases plain

/-- The attribute that a declaration is about. -/
def Declaring.subject? : Declaring → Option AttributeSubject
  | attributeType subject => some subject
  | notations subject => some subject
  | choice subject _ => some subject
  | choiceEnd subject _ => some subject
  | attributeDefault subject _ => some subject
  | attributeFixed subject _ => some subject
  | _ => none

/-- A declaration about an attribute whose name may be written. -/
def Declaring.Formed (progress : Declaring) : Prop := ∀ subject, progress.subject? = some subject → subject.name.Formed

/-- An effect of a token on a declaration that is in order. -/
def Advance.Formed : Advance → Prop
  | .to next => next.Formed
  | .publicId _ next => next.Formed
  | .attribute subject _ value => subject.name.Formed ∧ ∀ body, value = some body → Allowed body
  | .ended => True

theorem Declaring.advance_formed {progress : Declaring} {token : Outside} {effect : Advance}
    (read : progress.advance token = some effect) (formed : progress.Formed) (legal : token.Formed) :
    effect.Formed := by
  unfold advance itemOf connect typed at read
  repeat' split at read
  all_goals cases read
  -- Most effects are about no attribute or about the one of before; the others name it or give it its value.
  case h_17.refl owner word =>
    rintro _ ⟨⟩
    exact QName.ofWord_formed legal
  case h_27.isTrue.refl subject tokens word known =>
    exact ⟨formed subject rfl, by rintro _ ⟨⟩⟩
  case h_28.refl subject tokens body =>
    refine ⟨formed subject rfl, ?_⟩
    rintro _ ⟨⟩
    exact legal
  case h_29.refl subject tokens body =>
    refine ⟨formed subject rfl, ?_⟩
    rintro _ ⟨⟩
    exact legal
  all_goals first | exact fun _ same => formed _ same | trivial

/-! ## The prolog -/

/-- A prolog that has declared only what may be written. -/
structure Prolog.Formed (p : Prolog) : Prop where
  progress : ∀ progress, p.stage = .declaring progress → progress.Formed
  declared : p.policy.Formed

section Prologs
variable {p next : Prolog}

/-- Only what is declared counts, and the declaration that is being read. -/
theorem Prolog.Formed.onto (formed : p.Formed) {stage : Stage} {alone elsewhere ignoring : Bool}
    (other : ∀ progress, stage = .declaring progress → progress.Formed) :
    Prolog.Formed ⟨stage, alone, elsewhere, ignoring, p.declared⟩ := ⟨other, formed.declared⟩

theorem Prolog.declare_formed (formed : p.Formed) {new : DeclaredAttribute} (legal : new.Formed) (owner : String) :
    (p.declare owner new).Formed := by
  have owned : ∀ d ∈ (p.declared.get? owner).getD [], d.Formed := by
    cases found : p.declared.get? owner with
    | none => simp
    | some known => exact formed.declared owner known found
  unfold declare
  dsimp only
  split
  · exact formed
  · refine ⟨formed.progress, fun other known found => ?_⟩
    by_cases same : owner = other
    · subst same
      have stored : (p.declared.get? owner).getD [] ++ [new] = known := by simpa [policy] using found
      subst stored
      intro d member
      rcases List.mem_append.mp member with old | added
      · exact owned d old
      · obtain rfl := List.mem_singleton.mp added
        exact legal
    · refine formed.declared other known ?_
      rwa [policy, Fields.get?_put_other _ _ same] at found

theorem Prolog.attribute_formed {left after : Nat} {subject : AttributeSubject} {tokens : Bool}
    {value : Option (List Char)} (read : p.attribute left after subject tokens value = .ok next) (formed : p.Formed)
    (named : subject.name.Formed) (allowed : ∀ body, value = some body → Allowed body) : next.Formed := by
  have opened : Prolog.Formed { p with stage := .declaring (.attributeName subject.owner) } :=
    formed.onto (by rintro _ ⟨⟩ _ ⟨⟩)
  unfold Prolog.attribute at read
  dsimp only at read
  split at read
  · cases read
    exact opened
  · split at read
    · cases read
      exact Prolog.declare_formed opened ⟨named, by simp⟩ _
    · split at read
      · cases read
      · rename_i body _ cs expanded
        cases read
        refine Prolog.declare_formed opened ⟨named, ?_⟩ _
        rintro _ ⟨⟩
        rw [String.toList_ofList]
        exact tokens_allowed (expandValue_allowed expanded (allowed body rfl)) tokens

theorem Prolog.publicId_formed {after : Nat} {body : List Char} {stage : Stage}
    (read : p.publicId after body stage = .ok next) (formed : p.Formed)
    (other : ∀ progress, stage = .declaring progress → progress.Formed) : next.Formed := by
  unfold publicId at read
  split at read
  · cases read
    exact formed.onto other
  · cases read

theorem Declaring.start_formed {keyword : String} {progress : Declaring}
    (begins : Declaring.start keyword = some progress) : progress.Formed := by
  unfold start at begins
  split at begins <;> cases begins <;> rintro _ ⟨⟩

theorem Prolog.declaring_formed {left after : Nat} {progress : Declaring} {token : Outside}
    (read : p.declaring left after progress token = .ok next) (formed : p.Formed) (current : progress.Formed)
    (legal : token.Formed) : next.Formed := by
  unfold Prolog.declaring at read
  split at read
  · cases read
    refine formed.onto ?_
    rintro _ ⟨⟩
    exact current
  · split at read
    · rename_i following advanced
      cases read
      refine formed.onto ?_
      rintro _ ⟨⟩
      exact Declaring.advance_formed advanced current legal
    · rename_i body following advanced
      refine Prolog.publicId_formed read formed ?_
      rintro _ ⟨⟩
      exact Declaring.advance_formed advanced current legal
    · rename_i subject tokens value advanced
      obtain ⟨named, allowed⟩ := Declaring.advance_formed advanced current legal
      exact Prolog.attribute_formed read formed named allowed
    · cases read
      exact formed.onto (by rintro _ ⟨⟩)
    · cases read

/-- A token of the prolog leaves it in order. -/
theorem Prolog.step_formed {left after : Nat} {token : Outside} (read : p.step left after token = .ok next)
    (formed : p.Formed) (legal : token.Formed) : next.Formed := by
  unfold step at read
  dsimp only at read
  split at read
  case h_17 => exact Prolog.publicId_formed read formed (by rintro _ ⟨⟩)
  case h_26 =>
    cases read
    exact formed.onto formed.progress
  case h_27 keyword inside =>
    split at read
    · rename_i progress begins
      cases read
      refine formed.onto ?_
      rintro _ ⟨⟩
      exact Declaring.start_formed begins
    · cases read
  case h_29 progress stage => exact Prolog.declaring_formed read formed (formed.progress progress stage) legal
  -- No other token begins a declaration or goes on with one.
  all_goals
    repeat' split at read
    all_goals cases read
    all_goals exact formed.onto (by rintro _ ⟨⟩)

theorem Prolog.initial_formed : Prolog.initial.Formed := ⟨by rintro _ ⟨⟩, by rintro _ _ ⟨⟩⟩

/-- Whatever the prolog of a document, it has declared only what may be written. -/
theorem prolog_formed {budget : Nat} {cs rest : List Char} {policy : Policy}
    (read : prolog p budget cs = .ok (policy, rest)) (formed : p.Formed) : policy.Formed := by
  fun_induction prolog p budget cs with
  | case1 => cases read
  | case2 => cases read
  | case3 => cases read
  | case4 =>
    cases read
    exact formed.declared
  | case5 =>
    cases read
    exact formed.declared
  | case6 p budget c tail token left scanned halt failed =>
    rw [failed] at read
    cases read
  | case7 p budget c tail token left scanned next stepped _ _ ih =>
    rw [stepped] at read
    exact ih read (Prolog.step_formed stepped formed (outside_formed (Scan.orHalt_ok scanned)))

end Prologs

/-- Whatever is read is legible. -/
theorem parse_legible {source : String} {t : Element} (read : Element.parse source = .ok t) : Legible t := by
  have whole : readDocument source.toList = .ok t := by
    unfold Element.parse at read
    dsimp only at read
    split at read
    · rename_i element found
      cases read
      exact found
    · cases read
  obtain ⟨⟨policy, body⟩, begins, rest⟩ := eq_ok_of_bind whole
  obtain ⟨⟨element, after⟩, found, ending⟩ := eq_ok_of_bind rest
  obtain ⟨-, -, same⟩ := eq_ok_of_bind ending
  cases same
  have declared := prolog_formed begins Prolog.initial_formed
  unfold root at found
  split at found
  · cases found
  · rename_i q raw closed left scanned
    obtain ⟨named, each⟩ := openingTag_formed (Scan.orHalt_ok scanned)
    split at found
    · cases found
    · rename_i tag attributes spaces opened
      have formed := openTag_formed opened declared named each
      split at found
      · cases found
        exact .intro formed (by simp) .nil (by simp [Element.elements])
      · have inner : Frame.Formed ⟨q.written, tag, attributes, spaces, [], []⟩ :=
          ⟨formed, by simp, by simp, .nil, by simp, by simp [Allowed]⟩
        exact content_legible found declared inner (by simp)

end Colloquy.Markup
