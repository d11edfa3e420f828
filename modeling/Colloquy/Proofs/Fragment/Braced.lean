import Colloquy.Proofs.Expr.Blame
import Colloquy.Proofs.Expr.Shift
import Colloquy.Proofs.Fragment.Failures
import Colloquy.Proofs.Fragment.Tiling

/-! An expression and the same expression in braces. Braces put around the inside of a region make a text that begins
with that region, two characters further on, whether the inside ends where it seems to or closes early. -/
namespace Colloquy.Fragment

variable {source : String} {expr : Expr} {failure : Expr.Failure}

/-- What is read without braces is referred to at the start of the text in braces, up to where its region closes. -/
theorem refers_braced (read : Expr.parse source = .ok expr) : ∃ region word left,
    Region.read 2 (source.toList ++ ['\x7d', '\x7d']) = .ok region ∧ Expr.ofRegion region = .ok expr ∧
      (braced source).toList = word ++ left ∧ Refers expr word left ∧ region.stop = word.length := by
  have shifted := Expr.parse_shift 2 source
  rw [read] at shifted
  obtain ⟨region, scanned, holds⟩ := eq_ok_of_bind shifted
  obtain ⟨tree, text, left, same, writes, rfl, close⟩ := writes_of_region scanned holds
  refine ⟨region, '\x7b' :: '\x7b' :: (text ++ ['\x7d', '\x7d']), left, scanned, Expr.heldBy_ok.mp holds, ?_,
    .region writes, ?_⟩
  · rw [toList_braced, same]
    simp
  · rw [Region.stop, close]
    simp +arith

/-- After a reference, cutting fails further on. -/
theorem cut_error_after {position : Nat} {word left : List Char} (refers : Refers expr word left)
    (failed : cut position [] (word ++ left) = .error (.malformed failure)) :
    position + word.length ≤ failure.position := by
  rw [cut_reference _ _ refers] at failed
  obtain ⟨before, after, found, rfl, broken, -, -⟩ := cut_error _ _ _ _ (eq_error_of_map failed)
  have bounds := broken.position_bounds
  omega

theorem broken_braced {reason : Unread Expr.Failure} (refused : Expr.parse source = .error reason) :
    Broken (0 + 2) (source.toList ++ ['\x7d', '\x7d']) (reason.map (Expr.Failure.shift 2)) := by
  rw [Broken, Expr.parse_shift, refused]
  rfl

theorem parse_braced_error (refused : Expr.parse source = .error (.malformed failure)) : parse (braced source) =
    .error (.malformed ⟨failure.fault, failure.position + 2, Text.place (braced source) (failure.position + 2)⟩) := by
  have broken := broken_braced refused
  rw [parse, toList_braced, cut_broken 0 [] broken]
  rfl

/-- What has too many digits in it has so in braces. -/
theorem parse_braced_oversized {numeral : Text.Oversize} (refused : Expr.parse source = .error (.oversized numeral)) :
    parse (braced source) = .error (.oversized numeral) := by
  rw [parse, toList_braced, cut_broken 0 [] (broken_braced refused)]
  rfl

/-- A text begins with a region that holds an expression: its first fragment is the reference to it, and if the text
cannot be cut, that is for something after the region, a fault or an integer with too many digits. -/
structure OpensWith (text : String) (expr : Expr) (region : Region) : Prop where
  read : Region.read 2 (text.toList.drop 2) = .ok region
  holds : Expr.ofRegion region = .ok expr
  first : ∀ fragments, parse text = .ok fragments →
    ∃ more, fragments = .reference expr (String.ofList (text.toList.take region.stop)) 0 :: more
  later : ∀ failure, parse text = .error (.malformed failure) → region.stop ≤ failure.position
  beyond : ∀ numeral, parse text = .error (.oversized numeral) →
    cut region.stop [] (text.toList.drop region.stop) = .error (.oversized numeral)

theorem opensWith_braced (read : Expr.parse source = .ok expr) : ∃ region, OpensWith (braced source) expr region := by
  obtain ⟨region, word, left, scanned, holds, whole, refers, stop⟩ := refers_braced read
  refine ⟨region, by rw [toList_braced]; exact scanned, holds, ?_, ?_, ?_⟩
  · intro fragments parsed
    rw [whole, stop, List.take_left]
    rw [parse, whole, cut_reference _ _ refers] at parsed
    split at parsed
    · rename_i known
      cases parsed
      obtain ⟨more, -, rfl⟩ := eq_ok_of_map known
      exact ⟨more, rfl⟩
    · cases parsed
    · cases parsed
  · intro failure failed
    rw [parse, whole] at failed
    split at failed
    · cases failed
    · rename_i fault position known
      cases failed
      have bound := cut_error_after refers known
      rwa [stop, ← Nat.zero_add word.length]
    · cases failed
  · intro numeral failed
    rw [whole, stop, List.drop_left]
    rw [parse, whole, cut_reference _ _ refers, Nat.zero_add] at failed
    split at failed
    · cases failed
    · cases failed
    · rename_i known
      cases failed
      exact eq_error_of_map known

/-- The two ways to read an expression agree. What is read without braces begins the text in braces; what cannot be read
fails in braces with the same fault two characters further on, which is never for want of closing braces; and what has
too many digits in it has as many in braces. -/
theorem parse_agrees (source : String) :
    (∀ expr, Expr.parse source = .ok expr → ∃ region, OpensWith (braced source) expr region) ∧
    (∀ failure, Expr.parse source = .error (.malformed failure) →
      parse (braced source) =
        .error (.malformed ⟨failure.fault, failure.position + 2, Text.place (braced source) (failure.position + 2)⟩) ∧
      failure.fault.message ≠ "Unterminated interpolation") ∧
    ∀ numeral, Expr.parse source = .error (.oversized numeral) →
      parse (braced source) = .error (.oversized numeral) := by
  refine ⟨fun _ => opensWith_braced, fun failure refused => ?_, fun _ => parse_braced_oversized⟩
  exact ⟨parse_braced_error refused, fun same => Expr.parse_closed refused (Expr.Fault.eq_of_message same)⟩

/-- An inside that closes early and then opens another region, one whose quoted text takes in the closing braces, and one
of too many zeros. -/
theorem parse_agrees_early : (∃ region, OpensWith (braced "a\x7d\x7d \x7b\x7b") (.ofPath ⟨"a", []⟩) region) ∧
    (parse (braced "f 'b") = .error (.malformed ⟨.unterminatedText, 4, Text.place (braced "f 'b") 4⟩) ∧
      Expr.Fault.unterminatedText.message ≠ "Unterminated interpolation") ∧
    parse (braced (String.ofList Text.manyZeros)) = .error (.oversized ⟨Text.mostDigits + 1⟩) := by
  have read : Expr.parse "a\x7d\x7d \x7b\x7b" = .ok (.ofPath ⟨"a", []⟩) := by decide +kernel
  have refused : Expr.parse "f 'b" = .error (.malformed ⟨.unterminatedText, 2⟩) := by decide +kernel
  have large : Expr.parse (String.ofList Text.manyZeros) = .error (.oversized ⟨Text.mostDigits + 1⟩) := by
    rw [Expr.parse, String.toList_ofList, Region.read_manyZeros []]
    rfl
  exact ⟨(parse_agrees _).1 _ read, (parse_agrees _).2.1 _ refused, (parse_agrees _).2.2 _ large⟩

end Colloquy.Fragment
