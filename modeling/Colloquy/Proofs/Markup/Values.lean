import Colloquy.Markup.Printer
import Colloquy.Proofs.Markup.Names

/-! Attribute values. Whatever characters a value holds, what is written for it reads as that value again: those with a
meaning in markup are written as references, and so are the blanks that reading would make into spaces. -/
namespace Colloquy.Markup

/-- The character that a reference stands for. -/
def Reference.meaning : Reference → Option Char
  | code n => characterOf n
  | entity name => predefined name

/-- The references that are written, each without its ampersand and its semicolon. -/
def references : List (Char × List Char) := [
  ('&', ['a', 'm', 'p']), ('<', ['l', 't']), ('>', ['g', 't']), ('"', ['q', 'u', 'o', 't']),
  ('\n', ['#', '1', '0']), ('\r', ['#', '1', '3']), ('\t', ['#', '9'])]

/-- A character that stands for itself in a quoted value. -/
def StandsForItself (quote c : Char) : Prop :=
  isAllowed c = true ∧ c ≠ quote ∧ c ∉ ['<', '&', '\t', '\n', '\r']

/-- The characters of a value, and what may be written for them between quotes. -/
inductive Spelled (quote : Char) : List Char → List Char → Prop where
  | nil : Spelled quote [] []
  | plain {c : Char} {value spelled : List Char} (itself : StandsForItself quote c)
      (more : Spelled quote value spelled) : Spelled quote (c :: value) (c :: spelled)
  | reference {c : Char} {code value spelled : List Char} (known : (c, code) ∈ references)
      (more : Spelled quote value spelled) : Spelled quote (c :: value) ('&' :: (code ++ ';' :: spelled))

/-! ## Reading what is spelled -/

theorem reference_written {c : Char} {code : List Char} (known : (c, code) ∈ references) (rest : List Char) :
    ∃ found, reference (code ++ ';' :: rest) = .ok (found, rest) ∧ found.meaning = some c := by
  simp only [references, List.mem_cons, Prod.mk.injEq, List.not_mem_nil, or_false] at known
  rcases known with ⟨rfl, rfl⟩ | ⟨rfl, rfl⟩ | ⟨rfl, rfl⟩ | ⟨rfl, rfl⟩ | ⟨rfl, rfl⟩ | ⟨rfl, rfl⟩ | ⟨rfl, rfl⟩
  · exact ⟨.entity "amp", rfl, rfl⟩
  · exact ⟨.entity "lt", rfl, rfl⟩
  · exact ⟨.entity "gt", rfl, rfl⟩
  · exact ⟨.entity "quot", rfl, rfl⟩
  · exact ⟨.code 10, rfl, rfl⟩
  · exact ⟨.code 13, rfl, rfl⟩
  · exact ⟨.code 9, rfl, rfl⟩

/-- A character without a meaning between quotes of either kind. -/
def isOrdinary (d : Char) : Bool := isAllowed d && !(['"', '\'', '<', '&', '\t', '\n', '\r'].contains d)

theorem code_plain {quote c : Char} {code : List Char} (known : (c, code) ∈ references)
    (double : quote = '"' ∨ quote = '\'') : ∀ d ∈ code ++ [';'], StandsForItself quote d := by
  have checked : references.all (fun entry => (entry.2 ++ [';']).all isOrdinary) = true := by decide
  intro d member
  have ordinary := List.all_eq_true.mp (List.all_eq_true.mp checked (c, code) known) d member
  obtain ⟨allowed, apart⟩ : isAllowed d = true ∧ d ∉ ['"', '\'', '<', '&', '\t', '\n', '\r'] := by
    simpa [isOrdinary] using ordinary
  simp only [List.mem_cons, not_or] at apart
  refine ⟨allowed, ?_, ?_⟩
  · rcases double with rfl | rfl
    · exact apart.1
    · exact apart.2.1
  · simp only [List.mem_cons, not_or]
    exact apart.2.2

section Quoted
variable {quote : Char} {value spelled : List Char}

theorem quotedValue_plain {c : Char} (itself : StandsForItself quote c) (rest : List Char) :
    quotedValue quote (c :: rest) = (quotedValue quote rest).map fun (value, left) => (c :: value, left) := by
  obtain ⟨allowed, other, unmarked⟩ := itself
  simp only [List.mem_cons, not_or] at unmarked
  simp [quotedValue, allowed, other, unmarked.1, unmarked.2.1]

theorem quotedValue_run {run rest body left : List Char} (plain : ∀ c ∈ run, StandsForItself quote c)
    (read : quotedValue quote rest = .ok (body, left)) : quotedValue quote (run ++ rest) = .ok (run ++ body, left) := by
  induction run with
  | nil => exact read
  | cons c more ih =>
    rw [List.cons_append, quotedValue_plain (plain c List.mem_cons_self),
      ih fun d member => plain d (List.mem_cons_of_mem _ member)]
    rfl

/-- A value ends at its closing quote, nothing that is written in it being one. -/
theorem quotedValue_spelled (spells : Spelled quote value spelled) (double : quote = '"' ∨ quote = '\'')
    (rest : List Char) : quotedValue quote (spelled ++ quote :: rest) = .ok (spelled, rest) := by
  induction spells with
  | nil => simp [quotedValue]
  | plain itself more ih =>
    rw [List.cons_append, quotedValue_plain itself, ih]
    rfl
  | @reference c code value spelled known more ih =>
    have inside := quotedValue_run (code_plain known double) ih
    obtain ⟨found, referred, -⟩ := reference_written known (spelled ++ quote :: rest)
    have other : ('&' == quote) = false := by rcases double with rfl | rfl <;> decide
    have written : '&' :: (code ++ ';' :: spelled) ++ quote :: rest =
        '&' :: (code ++ ';' :: (spelled ++ quote :: rest)) := by simp
    have joined : code ++ ';' :: (spelled ++ quote :: rest) = (code ++ [';']) ++ (spelled ++ quote :: rest) := by simp
    have allowed : isAllowed '&' = true := by decide
    rw [written, quotedValue, referred, joined, inside]
    simp [other, allowed, Except.map]

theorem expandValue_reference {policy : Policy} {tagLeft after : Nat} {rest left : List Char} {found : Reference}
    {c : Char} (read : reference rest = .ok (found, left)) (means : found.meaning = some c) :
    expandValue policy tagLeft after ('&' :: rest) = (expandValue policy tagLeft after left).map (c :: ·) := by
  rw [expandValue]
  split
  · rename_i failed
    rw [read] at failed
    cases failed
  · rename_i n other again
    rw [read] at again
    cases again
    rw [show characterOf n = some c from means]
  · rename_i name other again
    rw [read] at again
    cases again
    rw [show predefined name = some c from means]

/-- What is written for a value means that value. -/
theorem expandValue_spelled (policy : Policy) (tagLeft after : Nat) (spells : Spelled quote value spelled) :
    expandValue policy tagLeft after spelled = .ok value := by
  induction spells with
  | nil => simp [expandValue]
  | @plain c value spelled itself more ih =>
    obtain ⟨-, -, unmarked⟩ := itself
    simp only [List.mem_cons, List.not_mem_nil, or_false, not_or] at unmarked
    obtain ⟨less, ampersand, tab, feed, carriage⟩ := unmarked
    have same : (if isGap c = true then ' ' else c) = c := by
      by_cases space : c = ' '
      · simp [space]
      · simp [isGap, space, tab, feed, carriage]
    rw [expandValue, ih, same]
    · rfl
    · exact ampersand
    · exact less
    · exact fun _ head _ => carriage head
  | reference known more ih =>
    obtain ⟨found, referred, means⟩ := reference_written known _
    rw [expandValue_reference referred means, ih]
    rfl

end Quoted

/-! ## What is written -/

theorem Spelled.append {quote : Char} {value spelled more written : List Char} (first : Spelled quote value spelled)
    (second : Spelled quote more written) : Spelled quote (value ++ more) (spelled ++ written) := by
  induction first with
  | nil => exact second
  | plain itself _ ih => exact .plain itself ih
  | reference known _ ih =>
    have step := Spelled.reference known ih
    simpa using step

theorem Spelled.flatMap {quote : Char} {write : Char → List Char} {value : List Char}
    (each : ∀ c ∈ value, Spelled quote [c] (write c)) : Spelled quote value (value.flatMap write) := by
  induction value with
  | nil => exact .nil
  | cons c rest ih =>
    have first := each c List.mem_cons_self
    have others := ih fun d member => each d (List.mem_cons_of_mem _ member)
    simpa using first.append others

theorem spelled_reference {quote c : Char} (code : List Char) (known : (c, code) ∈ references) :
    Spelled quote [c] ('&' :: (code ++ [';'])) := .reference known .nil

/-- A character of text is written as a reference, or as itself when it has no meaning in markup. -/
theorem escapeText_cases (c : Char) :
    (∃ code, (c, code) ∈ references ∧ escapeText c = '&' :: (code ++ [';'])) ∨
      c ∉ ['&', '<', '>'] ∧ escapeText c = [c] := by
  by_cases ampersand : c = '&'
  · subst ampersand
    exact .inl ⟨['a', 'm', 'p'], by decide, rfl⟩
  · by_cases less : c = '<'
    · subst less
      exact .inl ⟨['l', 't'], by decide, rfl⟩
    · by_cases greater : c = '>'
      · subst greater
        exact .inl ⟨['g', 't'], by decide, rfl⟩
      · exact .inr ⟨by simp [ampersand, less, greater], by simp [escapeText, ampersand, less, greater]⟩

theorem escapeValue_spelled {quote c : Char} (allowed : isAllowed c = true) (other : c ≠ quote) :
    Spelled quote [c] (escapeValue c) := by
  by_cases feed : c = '\n'
  · subst feed
    exact spelled_reference ['#', '1', '0'] (by decide)
  by_cases carriage : c = '\r'
  · subst carriage
    exact spelled_reference ['#', '1', '3'] (by decide)
  by_cases tab : c = '\t'
  · subst tab
    exact spelled_reference ['#', '9'] (by decide)
  have text : escapeValue c = escapeText c := by simp [escapeValue, feed, carriage, tab]
  rw [text]
  rcases escapeText_cases c with ⟨code, known, written⟩ | ⟨plain, written⟩
  · rw [written]
    exact spelled_reference code known
  · rw [written]
    simp only [List.mem_cons, List.not_mem_nil, or_false, not_or] at plain
    exact .plain ⟨allowed, other, by simp [plain, feed, carriage, tab]⟩ .nil

/-- A value that may occur in markup is written between quotes that do not occur in what is written for it. -/
theorem quoteValue_spelled {value : String} (allowed : ∀ c ∈ value.toList, isAllowed c = true) :
    ∃ quote spelled, (quote = '"' ∨ quote = '\'') ∧ Spelled quote value.toList spelled ∧
      (quoteValue value).toList = quote :: (spelled ++ [quote]) := by
  unfold quoteValue
  by_cases double : '"' ∈ value.toList
  · by_cases single : '\'' ∈ value.toList
    · refine ⟨'"', value.toList.flatMap fun c => if c == '"' then "&quot;".toList else escapeValue c, .inl rfl, ?_, ?_⟩
      · refine .flatMap fun c member => ?_
        by_cases quoted : c = '"'
        · subst quoted
          exact spelled_reference ['q', 'u', 'o', 't'] (by decide)
        · simp only [beq_iff_eq, quoted, ↓reduceIte]
          exact escapeValue_spelled (allowed c member) quoted
      · simp [double, single]
    · refine ⟨'\'', value.toList.flatMap escapeValue, .inr rfl, .flatMap fun c member => ?_, ?_⟩
      · exact escapeValue_spelled (allowed c member) fun same => single (same ▸ member)
      · simp [double, single]
  · refine ⟨'"', value.toList.flatMap escapeValue, .inl rfl, .flatMap fun c member => ?_, ?_⟩
    · exact escapeValue_spelled (allowed c member) fun same => double (same ▸ member)
    · simp [double]

end Colloquy.Markup
