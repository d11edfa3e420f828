import Colloquy.Proofs.Expr.Blame
import Colloquy.Proofs.Expr.Words

/-! Which characters of a text its tokens cover. The tokens of a region stand one after the other, each for a word of the
text, with nothing but blanks around them, up to the first pair of closing braces outside quoted texts. A text that
cannot be read as a region is covered in the same way up to the character that no token starts with, or to the integer
that has too many digits, or to its end. -/
namespace Colloquy
namespace Token

/-- A token with the offset after its last character. -/
structure Span where
  token : Token
  stop : Nat

namespace Span

/-- The offset of the first character. -/
def start (span : Span) : Nat := span.token.position

/-- The character at an offset belongs to the token. -/
def Holds (span : Span) (i : Nat) : Prop := span.start ≤ i ∧ i < span.stop

/-- The characters of the token. -/
def word (span : Span) (source : List Char) : List Char := (source.drop span.start).take (span.stop - span.start)

end Span

/-- The part of a text between two offsets is covered by tokens that follow one another, each of them standing for its
word, and by blanks. No integer among them has too many digits, and two closing braces in a row are found in quoted texts
only. -/
structure Covered (source : List Char) (start finish : Nat) (spans : List Span) : Prop where
  inside : ∀ span ∈ spans, start ≤ span.start ∧ span.start < span.stop ∧ span.stop ≤ finish
  inOrder : spans.Pairwise fun first second => first.stop ≤ second.start
  stands : ∀ span ∈ spans, Stands (source.drop span.start) span.token.lexeme (span.word source)
  fits : ∀ span ∈ spans, Fits span.token.lexeme (span.word source)
  blank : ∀ i, start ≤ i → i < finish → (∀ span ∈ spans, ¬ span.Holds i) →
    ∃ c, source[i]? = some c ∧ Text.isBlank c = true
  braces : ∀ i, start ≤ i → i + 1 < finish → source[i]? = some '\x7d' → source[i + 1]? = some '\x7d' →
    ∃ span ∈ spans, (∃ s, span.token.lexeme = .text s) ∧ span.Holds i ∧ span.Holds (i + 1)

/-- Why reading stops at the front of a text: nothing is left, which is reported at the opening; or there is neither a
blank nor a pair of closing braces nor a lexeme, which is reported where it is; or there is an integer with too many
digits, of which only their number is reported. -/
inductive Halts (opening place : Int) : List Char → Unread Expr.Failure → Prop where
  | unclosed : Halts opening place [] (.malformed ⟨.unterminatedRegion, opening⟩)
  | unreadable {c : Char} {rest : List Char} {fault : Expr.Fault} (solid : Text.isBlank c = false)
      (open_ : ¬ ['\x7d', '\x7d'] <+: c :: rest) (unread : Unreadable (c :: rest) fault) :
      Halts opening place (c :: rest) (.malformed ⟨fault, place⟩)
  | oversized {text word : List Char} {n : Int} (stands : Stands text (.int n) word)
      (large : Text.mostDigits < (Lexeme.int n).digits word) :
      Halts opening place text (.oversized ⟨(Lexeme.int n).digits word⟩)

/-- What reading comes to behind the tokens that it has found: closing braces, or a place where it stops. -/
inductive Ends (opening : Int) (source : List Char) (place : Nat) (spans : List Span) :
    Except (Unread Expr.Failure) Region → Prop where
  | closed (braces : (source.drop place).take 2 = ['\x7d', '\x7d']) :
      Ends opening source place spans (.ok ⟨spans.map Span.token, place⟩)
  | halted {reason : Unread Expr.Failure} (halts : Halts opening place (source.drop place) reason) :
      Ends opening source place spans (.error reason)

variable {opening : Int} {position finish : Nat} {lexeme : Lexeme} {source word rest : List Char} {spans : List Span}
  {c : Char}

/-! ## One step further -/

/-- Only a quoted text holds a closing brace. -/
theorem Spells.quoted (spelled : Spells lexeme word) (brace : '\x7d' ∈ word) : ∃ s, lexeme = .text s := by
  cases spelled with
  | ident start inside => exact absurd (name_inside start inside _ brace) (by decide)
  | natural nonempty inside => exact absurd (inside _ brace) (by decide)
  | negative nonempty inside =>
    exact absurd (inside _ ((List.mem_cons.mp brace).resolve_left (by decide))) (by decide)
  | text quote quotes => exact ⟨_, rfl⟩
  | single known =>
    cases List.mem_singleton.mp brace
    cases known

/-- Only an integer has digits that count. -/
theorem Spells.integer (large : ¬ Fits lexeme word) : ∃ n, lexeme = .int n := by
  cases lexeme with
  | int n => exact ⟨n, rfl⟩
  | _ => exact absurd (Nat.zero_le _) large

theorem drop_behind (word : List Char) (here : source.drop position = word ++ rest) :
    source.drop (position + word.length) = rest := by
  rw [← List.drop_drop, here, List.drop_left]

theorem getElem?_front {i : Nat} (here : source.drop position = word ++ rest) (least : position ≤ i)
    (most : i < position + word.length) : source[i]? = word[i - position]? := by
  have place : position + (i - position) = i := by omega
  rw [← place, ← List.getElem?_drop, here, List.getElem?_append_left (by omega), place]

/-- Nothing is covered by no tokens. -/
theorem covered_nothing (source : List Char) (start : Nat) : Covered source start start [] where
  inside := by simp
  inOrder := .nil
  stands := by simp
  fits := by simp
  blank := fun i least most => absurd least (Nat.not_le_of_lt most)
  braces := fun i least most => absurd least (by omega)

/-- A blank in front of what is covered is covered with it. -/
theorem Covered.after_blank (here : source.drop position = c :: rest) (blank : Text.isBlank c = true)
    (more : Covered source (position + 1) finish spans) : Covered source position finish spans := by
  have first : source[position]? = some c := by
    rw [← Nat.add_zero position, ← List.getElem?_drop, here]
    rfl
  refine ⟨?_, more.inOrder, more.stands, more.fits, ?_, ?_⟩
  · intro span member
    have := more.inside span member
    omega
  · intro i least most outside
    rcases Nat.eq_or_lt_of_le least with rfl | beyond
    · exact ⟨c, first, blank⟩
    · exact more.blank i beyond most outside
  · intro i least most brace next
    rcases Nat.eq_or_lt_of_le least with rfl | beyond
    · rw [first] at brace
      cases brace
      exact absurd blank (by decide)
    · exact more.braces i beyond most brace next

/-- A word in front of what is covered is covered with it, by the token that it spells. -/
theorem Covered.after_word (here : source.drop position = word ++ rest) (spelled : Spells lexeme word)
    (fits : Fits lexeme word) (apart : Apart lexeme rest) (enough : position + word.length ≤ finish)
    (more : Covered source (position + word.length) finish spans) :
    Covered source position finish (⟨⟨lexeme, position⟩, position + word.length⟩ :: spans) := by
  have nonempty : 0 < word.length := List.length_pos_iff.mpr spelled.nonempty
  have taken : Span.word ⟨⟨lexeme, position⟩, position + word.length⟩ source = word := by
    have length : position + word.length - position = word.length := by omega
    simp only [Span.word, Span.start, length, here, List.take_left]
  refine ⟨List.forall_mem_cons.mpr ⟨?_, ?_⟩, List.pairwise_cons.mpr ⟨?_, more.inOrder⟩,
    List.forall_mem_cons.mpr ⟨?_, more.stands⟩, List.forall_mem_cons.mpr ⟨?_, more.fits⟩, ?_, ?_⟩
  · simp only [Span.start]
    omega
  · intro span member
    have := more.inside span member
    omega
  · intro span member
    exact (more.inside span member).1
  · rw [taken]
    simp only [Span.start, here]
    exact stands_of_spells spelled apart
  · rwa [taken]
  · intro i least most outside
    obtain ⟨notHere, elsewhere⟩ := List.forall_mem_cons.mp outside
    exact more.blank i (Nat.le_of_not_lt fun inWord => notHere ⟨least, inWord⟩) most elsewhere
  · intro i least most first second
    rcases Nat.lt_or_ge i (position + word.length) with inWord | afterWord
    · rw [getElem?_front here least inWord] at first
      -- The brace is not the last character of the word, so the next one belongs to the word as well.
      have notLast : i + 1 ≠ position + word.length := by
        intro ends
        refine spelled.last ?_
        rw [List.getLast?_eq_getElem?, ← first]
        congr 1
        omega
      refine ⟨_, List.mem_cons_self, spelled.quoted (List.mem_of_getElem? first), ⟨least, inWord⟩, ?_⟩
      simp only [Span.Holds, Span.start]
      omega
    · obtain ⟨span, member, quoted, holds⟩ := more.braces i afterWord most first second
      exact ⟨span, List.mem_cons_of_mem _ member, quoted, holds⟩

/-- Where no lexeme is read, reading stops. -/
theorem halts_of_readLexeme {place : Nat} {reason : Unread Expr.Fault} (solid : Text.isBlank c = false)
    (open_ : ¬ ['\x7d', '\x7d'] <+: c :: rest) (refused : readLexeme c rest = .error reason) :
    Halts opening place (c :: rest) (reason.map fun fault => ⟨fault, place⟩) := by
  have lexes := readLexeme_lexes c rest
  cases reason with
  | malformed fault => exact .unreadable solid open_ (unreadable_of_readLexeme refused)
  | oversized numeral =>
    rw [refused] at lexes
    cases lexes with
    | oversized split spelled large apart =>
      obtain ⟨n, rfl⟩ := Spells.integer large
      rw [split, ← List.cons_append]
      exact .oversized (stands_of_spells spelled apart) (Nat.lt_of_not_le large)

/-- Whichever way reading ends, what has been read is covered. -/
theorem scan_covers (opening : Int) (here : source.drop position = rest) : ∃ place spans, position ≤ place ∧
    Covered source position place spans ∧ Ends opening source place spans (scan opening position rest) := by
  fun_induction scan opening position rest with
  | case1 position => exact ⟨position, [], le_rfl, covered_nothing source position, .halted (here ▸ .unclosed)⟩
  | case2 position c rest blank ih =>
    obtain ⟨place, spans, least, covered, ends⟩ := ih (drop_behind [c] here)
    exact ⟨place, spans, by omega, covered.after_blank here blank, ends⟩
  | case3 position c rest solid closes =>
    simp only [Bool.and_eq_true, beq_iff_eq] at closes
    obtain ⟨rfl, head⟩ := closes
    obtain ⟨after, rfl⟩ := List.head?_eq_some_iff.mp head
    exact ⟨position, [], le_rfl, covered_nothing source position, .closed (by rw [here]; rfl)⟩
  | case4 position c rest solid open_ reason lexed =>
    refine ⟨position, [], le_rfl, covered_nothing source position, .halted ?_⟩
    rw [here]
    refine halts_of_readLexeme (by simpa using solid) ?_ lexed
    rintro ⟨after, same⟩
    cases same
    exact open_ rfl
  | case5 position c rest solid open_ lexeme size lexed reason inner ih =>
    obtain ⟨word, after, rfl, rfl, spelled, fits, apart⟩ := spelled_of_readLexeme lexed
    have length : position + 1 + word.length = position + (c :: word).length := by
      rw [List.length_cons]
      omega
    rw [List.drop_left, length] at ih inner
    obtain ⟨place, spans, least, covered, ends⟩ := ih (drop_behind _ here)
    rw [inner] at ends
    cases ends with
    | halted halts => exact ⟨place, _, by omega, covered.after_word here spelled fits apart least, .halted halts⟩
  | case6 position c rest solid open_ lexeme size lexed region inner ih =>
    obtain ⟨word, after, rfl, rfl, spelled, fits, apart⟩ := spelled_of_readLexeme lexed
    have length : position + 1 + word.length = position + (c :: word).length := by
      rw [List.length_cons]
      omega
    rw [List.drop_left, length] at ih inner
    obtain ⟨place, spans, least, covered, ends⟩ := ih (drop_behind _ here)
    rw [inner] at ends
    cases ends with
    | closed braces => exact ⟨place, _, by omega, covered.after_word here spelled fits apart least, .closed braces⟩

end Token

open Token

/-- A region that starts at an offset of a text is covered by its tokens up to the braces that close it. -/
structure Region.Reads (source : List Char) (start : Nat) (region : Region) (spans : List Span) : Prop where
  tokens : spans.map Span.token = region.tokens
  least : start ≤ region.close
  covered : Covered source start region.close spans
  braces : (source.drop region.close).take 2 = ['\x7d', '\x7d']
  stop : region.stop = region.close + 2

/-- A text cannot be read as a region from an offset on: tokens cover it up to a place where reading stops. -/
structure Region.Refuses (source : List Char) (start : Nat) (reason : Unread Expr.Failure) (place : Nat)
    (spans : List Span) : Prop where
  least : start ≤ place
  covered : Covered source start place spans
  halts : Halts (start - 2) place (source.drop place) reason

theorem Region.reads_of_read {source : List Char} {start : Nat} {region : Region}
    (read : Region.read start (source.drop start) = .ok region) : ∃ spans, region.Reads source start spans := by
  obtain ⟨place, spans, least, covered, ends⟩ := scan_covers ((start : Int) - 2) (Eq.refl (source.drop start))
  rw [← Region.read, read] at ends
  cases ends with
  | closed braces => exact ⟨spans, rfl, least, covered, braces, rfl⟩

theorem Region.refuses_of_read {source : List Char} {start : Nat} {reason : Unread Expr.Failure}
    (refused : Region.read start (source.drop start) = .error reason) :
    ∃ place spans, Region.Refuses source start reason place spans := by
  obtain ⟨place, spans, least, covered, ends⟩ := scan_covers ((start : Int) - 2) (Eq.refl (source.drop start))
  rw [← Region.read, refused] at ends
  cases ends with
  | halted halts => exact ⟨place, spans, least, covered, halts⟩

/-- What is read from an offset on, whether as a region or not, is covered by tokens and blanks: a region up to its
closing braces, anything else up to the place that is to blame. -/
theorem Region.read_covers (source : String) (start : Nat) :
    (∀ region, Region.read start (source.toList.drop start) = .ok region →
      ∃ spans, region.Reads source.toList start spans) ∧
    (∀ reason, Region.read start (source.toList.drop start) = .error reason →
      ∃ place spans, Region.Refuses source.toList start reason place spans) :=
  ⟨fun _ => reads_of_read, fun _ => refuses_of_read⟩

/-- Closing braces and an escaped mark inside of a quoted text do not end a region; a minus before a digit belongs to the
number, and one on its own starts no word; and zeros are digits like others. -/
theorem Region.read_covers_quoted :
    (∃ region, Region.read 2 ("\x7b\x7b a -5 'b\x7d\x7d\\'' \x7d\x7d".toList.drop 2) = .ok region ∧
      ∃ spans, region.Reads "\x7b\x7b a -5 'b\x7d\x7d\\'' \x7d\x7d".toList 2 spans) ∧
    (∃ failure, Region.read 2 ("\x7b\x7b a-b \x7d\x7d".toList.drop 2) = .error (.malformed failure) ∧
      ∃ place spans, Region.Refuses "\x7b\x7b a-b \x7d\x7d".toList 2 (.malformed failure) place spans) ∧
    ∃ numeral source, Region.read 0 ((String.toList source).drop 0) = .error (.oversized numeral) ∧
      ∃ place spans, Region.Refuses source.toList 0 (.oversized numeral) place spans := by
  have read : Region.read 2 ("\x7b\x7b a -5 'b\x7d\x7d\\'' \x7d\x7d".toList.drop 2) =
      .ok ⟨[⟨.ident "a", 3⟩, ⟨.int (-5), 5⟩, ⟨.text "b\x7d\x7d'", 8⟩], 16⟩ := by decide +kernel
  have refused : Region.read 2 ("\x7b\x7b a-b \x7d\x7d".toList.drop 2) =
      .error (.malformed ⟨.unrecognized '-', 4⟩) := by decide +kernel
  have large : Region.read 0 ((String.ofList (Text.manyZeros ++ ['\x7d', '\x7d'])).toList.drop 0) =
      .error (.oversized ⟨Text.mostDigits + 1⟩) := by
    rw [List.drop_zero, String.toList_ofList]
    exact Region.read_manyZeros []
  exact ⟨⟨_, read, (Region.read_covers _ 2).1 _ read⟩, ⟨_, refused, (Region.read_covers _ 2).2 _ refused⟩,
    _, _, large, (Region.read_covers _ 0).2 _ large⟩

/-- Where the number of digits is all that is reported, the text is no region and there is no place to report. -/
theorem Region.read_unplaced :
    ¬ ((∃ region, Region.read 0 (Text.manyZeros ++ ['\x7d', '\x7d']) = .ok region) ∨
      ∃ failure, Region.read 0 (Text.manyZeros ++ ['\x7d', '\x7d']) = .error (.malformed failure)) := by
  rw [Region.read_manyZeros []]
  rintro (⟨region, ⟨⟩⟩ | ⟨failure, ⟨⟩⟩)

end Colloquy
