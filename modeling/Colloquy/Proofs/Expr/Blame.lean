import Colloquy.Proofs.Expr.Sentences
import Colloquy.Proofs.Expr.Layout

/-! What a fault blames. A rule that fails blames the token in front of it, or the end of the region: the fault tells
the lexeme and where it stands. Only a text without closing braces at its end can be an unclosed region. -/
namespace Colloquy
namespace Expr

/-- The lexeme that a fault is about, none for the end of the region; some faults are about no lexeme. -/
def Fault.found : Fault → Option (Option Lexeme)
  | expected _ found | unexpected found | expectedOperand found | invalidIndex found => some found
  | unterminatedText | unterminatedRegion | emptyRegion | unrecognized _ => none

/-- A failure is about one of several tokens or their end, and tells which and where. -/
def Blames (close : Nat) (tokens : List Token) (failure : Failure) : Prop :=
  ∃ left, left <:+ tokens ∧ failure.position = Parser.offset close left ∧ failure.fault.found = some (Parser.front left)

section Rules
variable {α : Type} {close : Nat} {tokens rest left : List Token} {failure : Failure} {word : List Lexeme}
open Colloquy.Expr.Parser

theorem Takes.suffix (takes : Takes tokens word left) : left <:+ tokens := by
  obtain ⟨read, rfl, -⟩ := takes
  exact ⟨read, rfl⟩

theorem blames_front {fault : Option Lexeme → Fault} (names : ∀ found, (fault found).found = some found)
    (refused : (refuse close tokens fault : Except Failure α) = .error failure) : Blames close tokens failure := by
  cases refused
  exact ⟨tokens, List.suffix_rfl, rfl, names _⟩

theorem Blames.after (blames : Blames close rest failure) (suffix : rest <:+ tokens) : Blames close tokens failure := by
  obtain ⟨left, inside, position, found⟩ := blames
  exact ⟨left, inside.trans suffix, position, found⟩

theorem steps_blames (refused : steps close tokens = .error failure) : Blames close tokens failure := by
  fun_induction steps close tokens with
  | case1 at_ name at' rest ih => exact (ih (eq_error_of_map refused)).after ⟨[_, _], rfl⟩
  | case2 at_ rest => exact (blames_front (fun _ => rfl) refused).after ⟨[_], rfl⟩
  | case3 at_ i at' at'' rest ih => exact (ih (eq_error_of_map refused)).after ⟨[_, _, _], rfl⟩
  | case4 at_ name at' at'' rest ih => exact (ih (eq_error_of_map refused)).after ⟨[_, _, _], rfl⟩
  | case5 at_ i at' rest => exact (blames_front (fun _ => rfl) refused).after ⟨[_, _], rfl⟩
  | case6 at_ name at' rest => exact (blames_front (fun _ => rfl) refused).after ⟨[_, _], rfl⟩
  | case7 at_ rest => exact (blames_front (fun _ => rfl) refused).after ⟨[_], rfl⟩
  | case8 => cases refused

theorem named_blames (refused : named close tokens = .error failure) : Blames close tokens failure := by
  unfold named at refused
  split at refused
  · exact (steps_blames (eq_error_of_map refused)).after ⟨[_], rfl⟩
  · exact blames_front (fun _ => rfl) refused

theorem path_blames (refused : path close tokens = .error failure) : Blames close tokens failure := by
  unfold Parser.path at refused
  split at refused
  · exact (named_blames refused).after ⟨[_], rfl⟩
  · exact named_blames refused

theorem operand_blames (refused : operand close tokens = .error failure) : Blames close tokens failure := by
  unfold operand at refused
  split at refused
  · cases refused
  · cases refused
  · exact path_blames (eq_error_of_map refused)
  · exact path_blames (eq_error_of_map refused)
  · exact blames_front (fun _ => rfl) refused

theorem argument_blames (refused : argument close tokens = .error failure) : Blames close tokens failure := by
  unfold argument at refused
  split at refused
  · exact (operand_blames (eq_error_of_map refused)).after ⟨[_, _], rfl⟩
  · exact operand_blames (eq_error_of_map refused)

theorem arguments_blames (refused : arguments close tokens = .error failure) : Blames close tokens failure := by
  fun_induction arguments close tokens with
  | case1 tokens starts failure' inner =>
    cases refused
    exact argument_blames inner
  | case2 tokens starts first after inner ih =>
    obtain ⟨tree, takes, -, -⟩ := commaArgument_sound inner
    exact (ih (eq_error_of_map refused)).after takes.suffix
  | case3 => cases refused

theorem primary_blames (refused : primary close tokens = .error failure) : Blames close tokens failure := by
  unfold primary at refused
  split at refused
  · cases refused
  · cases refused
  · exact path_blames (eq_error_of_map refused)
  · split at refused
    · rename_i inner
      cases refused
      exact path_blames inner
    · rename_i inner
      split at refused
      · obtain ⟨tree, takes, -, -⟩ := path_sound inner
        exact (arguments_blames (eq_error_of_map refused)).after takes.suffix
      · cases refused
  · exact blames_front (fun _ => rfl) refused

theorem filters_blames (refused : Parser.filters close tokens = .error failure) : Blames close tokens failure := by
  fun_induction Parser.filters close tokens with
  | case1 at_ name at' rest failure' inner =>
    cases refused
    exact (arguments_blames inner).after ⟨[_, _], rfl⟩
  | case2 at_ name at' rest args left inner ih =>
    obtain ⟨trees, takes, -, -, -⟩ := arguments_sound inner
    exact (ih (eq_error_of_map refused)).after (takes.suffix.trans ⟨[_, _], rfl⟩)
  | case3 at_ rest => exact (blames_front (fun _ => rfl) refused).after ⟨[_], rfl⟩
  | case4 => cases refused

/-- A region without tokens is empty, and the fault of any other region blames one of its tokens or its end. -/
theorem ofRegion_blames {region : Region} (refused : ofRegion region = .error failure) :
    (region.tokens = [] ∧ failure = ⟨.emptyRegion, region.close⟩) ∨ Blames region.close region.tokens failure := by
  unfold ofRegion at refused
  split at refused
  · rename_i empty
    cases refused
    exact .inl ⟨List.isEmpty_iff.mp empty, rfl⟩
  · right
    split at refused
    · rename_i inner
      cases refused
      exact primary_blames inner
    · rename_i base left first
      obtain ⟨tree, takes, -, -⟩ := primary_sound first
      split at refused
      · rename_i inner
        cases refused
        exact (filters_blames inner).after takes.suffix
      · cases refused
      · rename_i filters rest unfinished more
        obtain ⟨trees, further, -, -, -⟩ := filters_sound more
        exact (blames_front (fun _ => rfl) refused).after (further.suffix.trans takes.suffix)

end Rules

/-- The text of a fault tells whether it is an unclosed region. -/
theorem Fault.eq_of_message {fault : Fault} (same : fault.message = "Unterminated interpolation") :
    fault = .unterminatedRegion := by
  have start {first rest : String} (long : 3 ≤ first.toList.length)
      (same : first ++ rest = "Unterminated interpolation") : first.toList.take 3 = ['U', 'n', 't'] := by
    have letters := congrArg (fun s => s.toList.take 3) same
    rw [String.toList_append, List.take_append_of_le_length long] at letters
    exact letters
  cases fault with
  | unterminatedRegion => rfl
  | unterminatedText => exact absurd same (by decide)
  | emptyRegion => exact absurd same (by decide)
  | _ =>
    unfold message at same
    simp only [String.append_assoc] at same
    exact absurd (start (by decide) same) (by decide)

end Expr

/-! ## Closing braces -/

namespace Token
variable {opening : Int} {position : Nat} {lexeme : Lexeme} {word : List Char} {c : Char}

theorem readLexeme_error {rest : List Char} {fault : Expr.Fault}
    (refused : readLexeme c rest = .error (.malformed fault)) :
    fault = .unterminatedText ∨ fault = .unrecognized c := by
  have lexes := readLexeme_lexes c rest
  rw [refused] at lexes
  cases lexes with
  | unclosed quote open_ => exact .inl rfl
  | stray unquoted digitless unsigned nameless unknown => exact .inr rfl

/-- No lexeme ends with a closing brace. -/
theorem Spells.last (spelled : Spells lexeme word) : word.getLast? ≠ some '\x7d' := by
  intro last
  have member := List.mem_of_getLast? last
  cases spelled with
  | ident start inside => exact absurd (name_inside start inside _ member) (by decide)
  | natural nonempty inside => exact absurd (inside _ member) (by decide)
  | negative nonempty inside =>
    exact absurd (inside _ ((List.mem_cons.mp member).resolve_left (by decide))) (by decide)
  | text quote quotes =>
    rw [← List.cons_append, List.getLast?_concat] at last
    cases last
    exact absurd quote (by decide)
  | single known =>
    cases last
    cases known

/-- Closing braces at the end of a text come after each of its lexemes. -/
theorem Spells.closing {after : List Char} (spelled : Spells lexeme word) (ends : ['\x7d', '\x7d'] <:+ word ++ after) :
    ['\x7d', '\x7d'] <:+ after := by
  obtain ⟨before, same⟩ := ends
  rcases List.append_eq_append_iff.mp same with ⟨inner, rfl, braces⟩ | ⟨inner, -, rfl⟩
  · cases last : inner.getLast? with
    | none =>
      rw [List.getLast?_eq_none_iff.mp last] at braces
      exact ⟨[], braces⟩
    | some d =>
      have brace : d = '\x7d' := by
        have member : d ∈ ['\x7d', '\x7d'] := braces ▸ List.mem_append_left _ (List.mem_of_getLast? last)
        simpa using member
      refine absurd ?_ spelled.last
      rw [List.getLast?_append, last, brace]
      rfl
  · exact ⟨inner, rfl⟩

/-- A text with closing braces at its end is no unclosed region. -/
theorem scan_closed {cs : List Char} {failure : Expr.Failure} (ends : ['\x7d', '\x7d'] <:+ cs)
    (refused : scan opening position cs = .error (.malformed failure)) : failure.fault ≠ .unterminatedRegion := by
  fun_induction scan opening position cs with
  | case1 => exact absurd (List.suffix_nil.mp ends) (List.cons_ne_nil _ _)
  | case2 position c rest blank ih =>
    refine ih ((List.suffix_cons_iff.mp ends).resolve_left ?_) refused
    rintro ⟨⟩
    exact absurd blank (by decide)
  | case3 => cases refused
  | case4 position c rest solid open_ reason lexed =>
    cases reason <;> cases refused
    rcases readLexeme_error lexed with rfl | rfl <;> exact Expr.Fault.noConfusion
  | case5 position c rest solid open_ lexeme size lexed failure' inner ih =>
    cases refused
    obtain ⟨word, after, rfl, rfl, spelled, -⟩ := spelled_of_readLexeme lexed
    rw [List.drop_left] at inner ih
    exact ih (spelled.closing ends) inner
  | case6 => cases refused

end Token

/-- The inside of a region never lacks closing braces, since they are put after it. -/
theorem Expr.parse_closed {source : String} {failure : Failure}
    (refused : parse source = .error (.malformed failure)) : failure.fault ≠ .unterminatedRegion := by
  rcases eq_error_of_bind refused with unread | ⟨region, -, unheld⟩
  · exact Token.scan_closed (List.suffix_append _ _) unread
  · intro unclosed
    rcases ofRegion_blames (heldBy_malformed.mp unheld) with ⟨-, rfl⟩ | ⟨left, -, -, found⟩
    · cases unclosed
    · rw [unclosed] at found
      cases found

end Colloquy
