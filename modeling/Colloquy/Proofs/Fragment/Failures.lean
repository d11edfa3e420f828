import Mathlib.Data.List.Infix
import Colloquy.Proofs.Fragment.Bare
import Colloquy.Proofs.Text.Place

/-! Where the fault of a text lies. Cutting fails at the first region that cannot be read: what comes before the braces
that open it is cut as it would be on its own, and the fault lies in the region, at those braces or after them. Without
such braces nothing is wrong with a text, and only an index with too many digits keeps it from being cut. -/
namespace Colloquy.Fragment
open Token

/-- The fault of a broken region lies within it, or at the braces that open it. -/
theorem Broken.position_bounds {opening : Nat} {cs : List Char} {failure : Expr.Failure}
    (broken : Broken (opening + 2) cs (.malformed failure)) :
    (opening : Int) ≤ failure.position ∧ failure.position < (opening + 2 + cs.length : Nat) := by
  unfold Broken at broken
  cases read : Region.read (opening + 2) cs with
  | error other =>
    rw [read] at broken
    cases broken
    rcases Token.scan_error_position read with unclosed | inside
    · omega
    · omega
  | ok region =>
    rw [read] at broken
    obtain ⟨text, after, rfl, laid, close⟩ := Token.layout_of_scan read
    obtain ⟨place, member, same⟩ := List.mem_map.mp (Expr.ofRegion_error_position (Expr.heldBy_malformed.mp broken))
    have bounds : opening + 2 ≤ place ∧ place ≤ opening + 2 + text.length := by
      rcases List.mem_append.mp member with atToken | atEnd
      · obtain ⟨token, inside, rfl⟩ := List.mem_map.mp atToken
        exact laid.position_bounds token inside
      · rw [List.mem_singleton.mp atEnd, close]
        omega
    rw [← same, List.length_append, List.length_cons]
    simp only [Int.ofNat_eq_natCast]
    omega

theorem flush_append (run : List Char) (found more : List Fragment) :
    flush run (found ++ more) = flush run found ++ more := by
  cases run <;> rfl

/-- Braces open a region that is broken, or else a reference. -/
theorem opening_cases (start : Nat) (rest : List Char) : (∃ reason, Broken start rest reason) ∨
    ∃ expr word left, '\x7b' :: '\x7b' :: rest = word ++ left ∧ Refers expr word left := by
  cases outcome : (Region.read start rest).bind Expr.heldBy with
  | error reason => exact .inl ⟨reason, outcome⟩
  | ok expr =>
    obtain ⟨region, read, holds⟩ := eq_ok_of_bind outcome
    obtain ⟨tree, text, after, rfl, writes, rfl, -⟩ := writes_of_region read holds
    exact .inr ⟨_, _, after, by simp, .region writes⟩

/-- The run in front of a region belongs to what was found before it. -/
theorem cut_opening (position : Nat) (run rest : List Char) : cut position run ('\x7b' :: '\x7b' :: rest) =
    (cut position [] ('\x7b' :: '\x7b' :: rest)).map (flush run [] ++ ·) := by
  rcases opening_cases (position + 2) rest with ⟨reason, broken⟩ | ⟨expr, word, left, same, refers⟩
  · rw [cut_broken _ _ broken, cut_broken _ _ broken]
    rfl
  · rw [same, cut_reference _ _ refers, cut_reference _ _ refers]
    cases cut (position + word.length) [] left with
    | error reason => rfl
    | ok more => exact congrArg Except.ok (flush_append run [] _)

/-- Whether a character is literal does not depend on what comes after an opening brace, nor on that brace. -/
theorem literal_before_brace {c : Char} {before after : List Char}
    (literal : opens c (before ++ '\x7b' :: after).head? = false) :
    opens c before.head? = false ∧ ∀ other, opens c (before ++ '\x7b' :: other).head? = false := by
  cases before with
  | nil => exact ⟨opens_none c, fun _ => literal⟩
  | cons d rest => exact ⟨literal, fun _ => literal⟩

/-- A text can be cut up to a region that is broken, and what is found up to there does not depend on what comes after
the opening braces: with anything else there, cutting goes on in the same way. -/
theorem cut_error (position : Nat) (run cs : List Char) : ∀ failure, cut position run cs = .error (.malformed failure) →
    ∃ before after found, cs = before ++ '\x7b' :: '\x7b' :: after ∧
      Broken (position + before.length + 2) after (.malformed failure) ∧ cut position run before = .ok found ∧
      ∀ tail, cut position run (before ++ '\x7b' :: '\x7b' :: tail) =
        (cut (position + before.length) [] ('\x7b' :: '\x7b' :: tail)).map (found ++ ·) := by
  induction position, run, cs using cut_induction with
  | done position run =>
    intro failure failed
    rw [cut_nil] at failed
    cases failed
  | literal position run c rest plain ih =>
    intro failure failed
    rw [cut_literal _ _ plain] at failed
    obtain ⟨before, after, found, rfl, broken, cutBefore, resumes⟩ := ih failure failed
    obtain ⟨short, other⟩ := literal_before_brace plain
    have length : position + 1 + before.length = position + (c :: before).length := by
      rw [List.length_cons]
      omega
    rw [length] at broken resumes
    refine ⟨c :: before, after, found, rfl, broken, ?_, fun tail => ?_⟩
    · rw [cut_literal _ _ short, cutBefore]
    · rw [List.cons_append, cut_literal _ _ (other _), resumes tail]
  | reference position run expr word left refers ih =>
    intro failure failed
    rw [cut_reference _ _ refers] at failed
    obtain ⟨before, after, found, rfl, broken, cutBefore, resumes⟩ := ih failure (eq_error_of_map failed)
    obtain ⟨short, other⟩ := refers.before_brace
    refine ⟨word ++ before, after, Fragment.flush run (.reference expr (String.ofList word) position :: found), ?_, ?_,
      ?_, ?_⟩
    · rw [List.append_assoc]
    · rwa [List.length_append, ← Nat.add_assoc]
    · rw [cut_reference _ _ short, cutBefore]
      rfl
    · intro tail
      rw [List.append_assoc, cut_reference _ _ (other _), resumes tail, List.length_append, ← Nat.add_assoc]
      cases cut (position + word.length + before.length) [] ('\x7b' :: '\x7b' :: tail) with
      | error failure => rfl
      | ok more => exact congrArg Except.ok (flush_append run (_ :: found) more)
  | broken position run rest reason broken =>
    intro failure failed
    rw [cut_broken _ _ broken] at failed
    cases failed
    exact ⟨[], rest, flush run [], rfl, broken, cut_nil position run, cut_opening position run⟩
  | oversized position run rest numeral read =>
    intro failure failed
    rw [cut_oversized _ _ read] at failed
    cases failed

/-- A text that cannot be cut has opening braces in it, or a bare path that goes on with too many digits. -/
theorem cut_refused (position : Nat) (run cs : List Char) : ∀ reason, cut position run cs = .error reason →
    ['\x7b', '\x7b'] <:+: cs ∨
      ∃ numeral rest, reason = .oversized numeral ∧ '$' :: rest <:+ cs ∧ Exceeds rest numeral := by
  have further (before : List Char) {after : List Char} {reason : Unread Expr.Failure}
      (cause : ['\x7b', '\x7b'] <:+: after ∨
        ∃ numeral rest, reason = .oversized numeral ∧ '$' :: rest <:+ after ∧ Exceeds rest numeral) :
      ['\x7b', '\x7b'] <:+: before ++ after ∨
        ∃ numeral rest, reason = .oversized numeral ∧ '$' :: rest <:+ before ++ after ∧ Exceeds rest numeral := by
    rcases cause with braces | ⟨numeral, rest, same, inside, exceeds⟩
    · exact .inl (braces.trans (List.suffix_append _ _).isInfix)
    · exact .inr ⟨numeral, rest, same, inside.trans (List.suffix_append _ _), exceeds⟩
  induction position, run, cs using cut_induction with
  | done position run =>
    intro reason refused
    rw [cut_nil] at refused
    cases refused
  | literal position run c rest plain ih =>
    intro reason refused
    rw [cut_literal _ _ plain] at refused
    exact further [c] (ih reason refused)
  | reference position run expr word left refers ih =>
    intro reason refused
    rw [cut_reference _ _ refers] at refused
    exact further word (ih reason (eq_error_of_map refused))
  | broken position run rest reason broken => exact fun _ _ => .inl (List.prefix_append _ rest).isInfix
  | oversized position run rest numeral read =>
    intro reason refused
    rw [cut_oversized _ _ read] at refused
    cases refused
    exact .inr ⟨numeral, rest, rfl, List.suffix_refl _, readBare_exceeds read⟩

/-- A failure points into the first region that is broken. What comes before the region is cut on its own into what had
been found, and with any other text after the opening braces cutting would go on from there. -/
structure Diagnoses (source : String) (failure : Failure) (opening : Nat) (found : List Fragment) : Prop where
  position_nonneg : 0 ≤ failure.position
  position_lt : failure.position < source.length
  opening_le : opening ≤ failure.position
  braces : (source.toList.drop opening).take 2 = ['\x7b', '\x7b']
  broken : Broken (opening + 2) (source.toList.drop (opening + 2)) (.malformed ⟨failure.fault, failure.position⟩)
  before : parse (String.ofList (source.toList.take opening)) = .ok found
  resumes : ∀ tail, cut 0 [] (source.toList.take opening ++ '\x7b' :: '\x7b' :: tail) =
    (cut opening [] ('\x7b' :: '\x7b' :: tail)).map (found ++ ·)
  place_eq : failure.place = Text.place source failure.position
  leadsTo : failure.place.LeadsTo source.toList failure.position.toNat

theorem diagnoses_of_parse {source : String} {failure : Failure}
    (failed : parse source = .error (.malformed failure)) : ∃ opening found, Diagnoses source failure opening found := by
  unfold parse at failed
  split at failed
  · cases failed
  · rename_i fault position cutFailed
    cases failed
    obtain ⟨before, after, found, split, broken, cutBefore, resumes⟩ := cut_error 0 [] source.toList _ cutFailed
    rw [Nat.zero_add] at broken
    have length : source.length = before.length + 2 + after.length := by
      rw [← String.length_toList, split, List.length_append, List.length_cons, List.length_cons]
      omega
    obtain ⟨least, most⟩ := broken.position_bounds
    simp only at least most
    have drop : source.toList.drop before.length = '\x7b' :: '\x7b' :: after := by rw [split, List.drop_left]
    have take : source.toList.take before.length = before := by rw [split, List.take_left]
    refine ⟨before.length, found, ?_, ?_, least, ?_, ?_, ?_, ?_, rfl, ?_⟩
    · simp only
      omega
    · simp only
      omega
    · rw [drop]
      rfl
    · rw [← List.drop_drop, drop]
      exact broken
    · rw [take, parse, String.toList_ofList, cutBefore]
    · intro tail
      rw [take, resumes tail, Nat.zero_add]
    · obtain ⟨offset, rfl⟩ := Int.eq_ofNat_of_zero_le (show 0 ≤ position by omega)
      exact Text.place_leadsTo (by omega)
  · cases failed

theorem parse_refused {source : String} {reason : Unread Failure} (refused : parse source = .error reason) :
    ['\x7b', '\x7b'] <:+: source.toList ∨
      ∃ numeral rest, reason = .oversized numeral ∧ '$' :: rest <:+ source.toList ∧ Exceeds rest numeral := by
  unfold parse at refused
  split at refused
  · cases refused
  · rename_i fault position failed
    cases refused
    rcases cut_refused 0 [] source.toList _ failed with braces | ⟨numeral, rest, ⟨⟩, -⟩
    exact .inl braces
  · rename_i numeral failed
    cases refused
    rcases cut_refused 0 [] source.toList _ failed with braces | ⟨other, rest, ⟨⟩, exceeding⟩
    · exact .inl braces
    · exact .inr ⟨numeral, rest, rfl, exceeding⟩

/-- Something is wrong with a text at its first broken region only, so never without opening braces; without these there
can only be an index with too many digits. The failure tells an offset in the region, and its place. Places are as many
as offsets and in the same order. -/
theorem parse_failures (source : String) :
    (∀ failure, parse source = .error (.malformed failure) → ∃ opening found, Diagnoses source failure opening found) ∧
    (∀ first second : Nat, first < second → (Text.place source first).Precedes (Text.place source second)) ∧
    Function.Injective (fun offset : Nat => Text.place source offset) ∧
    (¬ ['\x7b', '\x7b'] <:+: source.toList → (∃ fragments, parse source = .ok fragments) ∨
      ∃ numeral rest, parse source = .error (.oversized numeral) ∧ '$' :: rest <:+ source.toList ∧
        Exceeds rest numeral) := by
  refine ⟨fun failure => diagnoses_of_parse, fun first second => Text.place_precedes,
    fun first second => Text.place_injective, fun braceless => ?_⟩
  cases outcome : parse source with
  | ok fragments => exact .inl ⟨fragments, rfl⟩
  | error reason =>
    obtain ⟨numeral, rest, rfl, exceeding⟩ := (parse_refused outcome).resolve_left braceless
    exact .inr ⟨numeral, rest, rfl, exceeding⟩

/-- A bare path with an index of zeros, as few too many as can be. -/
def tooManyZeros : String := String.ofList ('$' :: 'a' :: '[' :: (Text.manyZeros ++ [']']))

theorem tooManyZeros_braceless : ¬ ['\x7b', '\x7b'] <:+: tooManyZeros.toList := by
  intro braces
  have brace : '\x7b' ∈ tooManyZeros.toList := braces.subset List.mem_cons_self
  rw [tooManyZeros, String.toList_ofList] at brace
  have digit : '\x7b' ∈ Text.manyZeros := by simpa using brace
  exact absurd (Text.eq_zero_of_mem_manyZeros digit) (by decide)

theorem parse_tooManyZeros : parse tooManyZeros = .error (.oversized ⟨Text.mostDigits + 1⟩) := by
  have index := readIndex_of_spelled (.natural Text.manyZeros_nonempty Text.manyZeros_inside) (apart_bracket (.int _) [])
  have large : ¬ Text.manyZeros.length ≤ Text.mostDigits := by
    rw [Text.length_manyZeros]
    omega
  rw [readAs_natural Text.manyZeros_inside, readDecimal, if_neg large, Text.length_manyZeros] at index
  have step : readStep ('[' :: (Text.manyZeros ++ [']'])) = some (.error ⟨Text.mostDigits + 1⟩, []) := by
    rw [readStep, index]
    rfl
  have name : readName ('a' :: '[' :: (Text.manyZeros ++ [']'])) = some ("a", '[' :: (Text.manyZeros ++ [']'])) := rfl
  have bare : readBare ('a' :: '[' :: (Text.manyZeros ++ [']'])) = some (.error ⟨Text.mostDigits + 1⟩) := by
    rw [readBare, name, Option.map_some]
    simp only [readSteps_error step]
    rfl
  rw [parse, tooManyZeros, String.toList_ofList, cut_oversized 0 [] bare]

/-- The second of two regions is broken, on the third line; and no region opens in a text without opening braces, but an
index may be too long. -/
theorem parse_failures_bar :
    (∃ opening found, Diagnoses "$a\n\x7b\x7b b \x7d\x7d\n\x7b\x7b c |\x7d\x7d"
      ⟨.expected .name none, 17, ⟨3, 7⟩⟩ opening found) ∧
    (Text.place "$a\n\n" 2).Precedes (Text.place "$a\n\n" 3) ∧
    Function.Injective (fun offset : Nat => Text.place "$a\n\n" offset) ∧
    (∃ fragments, parse "$a \x7d\x7d" = .ok fragments) ∧
    ∃ numeral rest, parse tooManyZeros = .error (.oversized numeral) ∧ '$' :: rest <:+ tooManyZeros.toList ∧
      Exceeds rest numeral := by
  have failed : parse "$a\n\x7b\x7b b \x7d\x7d\n\x7b\x7b c |\x7d\x7d" =
      .error (.malformed ⟨.expected .name none, 17, ⟨3, 7⟩⟩) := by decide +kernel
  have braceless : ¬ ['\x7b', '\x7b'] <:+: "$a \x7d\x7d".toList := by decide +kernel
  have read : parse "$a \x7d\x7d" = .ok [.reference (.ofPath ⟨"a", []⟩) "$a" 0, .text " \x7d\x7d"] := by decide +kernel
  refine ⟨(parse_failures _).1 _ failed, (parse_failures _).2.1 2 3 (by decide), (parse_failures _).2.2.1,
    ((parse_failures _).2.2.2 braceless).resolve_right ?_,
    ((parse_failures _).2.2.2 tooManyZeros_braceless).resolve_left ?_⟩
  · rintro ⟨numeral, rest, refused, -⟩
    rw [read] at refused
    cases refused
  · rw [parse_tooManyZeros]
    rintro ⟨fragments, ⟨⟩⟩

/-- An index with too many digits keeps a text from being cut that has no opening braces. -/
theorem parse_braceless_refused :
    ¬ ['\x7b', '\x7b'] <:+: tooManyZeros.toList ∧ ¬ ∃ fragments, parse tooManyZeros = .ok fragments := by
  refine ⟨tooManyZeros_braceless, ?_⟩
  rw [parse_tooManyZeros]
  rintro ⟨fragments, ⟨⟩⟩

end Colloquy.Fragment
