import Colloquy.Proofs.Expr.Rules

/-! Which token lists are expressions. Exactly the sentences of the grammar are read, each as what its derivation stands
for; any other list is refused at the first token that no sentence has there. -/
namespace Colloquy

/-- The lexemes of a region with its end after them. -/
def Region.sentence (region : Region) : List (Option Lexeme) := (Expr.lexemes region.tokens).map some ++ [none]

/-- The offsets of the tokens of a region and of its end. -/
def Region.offsets (region : Region) : List Int := (region.tokens.map Token.position ++ [region.close]).map Int.ofNat

namespace Expr
open State

/-- Some sentence begins like this. -/
def Viable (front : List (Option Lexeme)) : Prop := ∃ tree : Tree, front <+: tree.sentence

section Held
variable {region : Region} {expr : Expr} {failure : Failure}

theorem heldBy_ok : heldBy region = .ok expr ↔ ofRegion region = .ok expr := mapError_eq_ok

theorem heldBy_malformed : heldBy region = .error (.malformed failure) ↔ ofRegion region = .error failure := by
  refine mapError_eq_error.trans ⟨?_, fun refused => ⟨failure, refused, rfl⟩⟩
  rintro ⟨cause, refused, ⟨⟩⟩
  exact refused

end Held

theorem ofRegion_sound {region : Region} {expr : Expr} (read : ofRegion region = .ok expr) :
    ∃ tree : Tree, tree.word = lexemes region.tokens ∧ tree.expr = expr := by
  unfold ofRegion at read
  split at read
  · cases read
  · split at read
    · cases read
    · rename_i base left first
      split at read
      · cases read
      · rename_i filters rest
        cases read
        obtain ⟨primary, takes, rfl, -⟩ := primary_sound first
        obtain ⟨trees, further, rfl, -, -⟩ := filters_sound rest
        obtain ⟨tokens, same, word⟩ := takes.append further
        refine ⟨⟨primary, trees⟩, ?_, rfl⟩
        rw [same, List.append_nil, word]
        rfl
      · cases read

theorem ofRegion_stops {region : Region} {failure : Failure} (refused : ofRegion region = .error failure) :
    Stops region.close start region.tokens failure := by
  unfold ofRegion at refused
  split at refused
  · rename_i empty
    rw [List.isEmpty_iff.mp empty]
    cases refused
    exact ⟨[], [], start, takes_nil [], rfl, rfl, rfl⟩
  · split at refused
    · rename_i inner
      cases refused
      exact primary_stops inner
    · rename_i base left first
      obtain ⟨tree, takes, -, ends⟩ := primary_sound first
      refine .after takes (reads_primary tree) ?_
      split at refused
      · rename_i inner
        cases refused
        exact filters_stops ends inner
      · cases refused
      · rename_i filters rest unfinished more
        obtain ⟨trees, further, -, barless, known⟩ := filters_sound more
        refine .after further (reads_filters (primary_complete tree) trees).1 (stops_here ?_ refused)
        rw [known _ fun none => ?_]
        · cases rest with
          | nil => exact (unfinished rfl).elim
          | cons token others => exact closing_stuck barless
        · subst none
          rwa [← further.eq_of_nil]

/-- Where a reading stops, counted in lexemes. -/
theorem Stops.place {state : State} {region : Region} {failure : Failure}
    (stops : Stops region.close state region.tokens failure) :
    ∃ n, region.offsets[n]? = some failure.position ∧ (state.run (region.sentence.take n)).isSome ∧
      state.run (region.sentence.take (n + 1)) = none := by
  obtain ⟨tokens, close⟩ := region
  obtain ⟨word, left, middle, ⟨read, rfl, rfl⟩, position, follows, stuck⟩ := stops
  have sentence : Region.sentence ⟨read ++ left, close⟩ =
      (lexemes read).map some ++ ((lexemes left).map some ++ [none]) := by
    simp [Region.sentence]
  have length : ((lexemes read).map some).length = read.length := by simp
  refine ⟨read.length, ?_, ?_, ?_⟩
  · rw [position]
    cases left <;> simp [Region.offsets, Parser.offset]
  · rw [sentence, ← length, List.take_left, ← reads, follows]
    rfl
  · have next : ((lexemes left).map some ++ [none]).take 1 = [Parser.front left] := by cases left <;> rfl
    rw [sentence, ← length, List.take_length_add_append, next, run_append, ← reads, follows, Option.bind_some, run_cons,
      stuck]
    rfl

/-- The fault of a list of tokens lies at one of them, or at their end. -/
theorem ofRegion_error_position {region : Region} {failure : Failure}
    (refused : ofRegion region = .error failure) : failure.position ∈ region.offsets := by
  obtain ⟨n, here, -⟩ := (ofRegion_stops refused).place
  exact List.mem_of_getElem? here

theorem ofRegion_refuses {region : Region} {failure : Failure} (refused : ofRegion region = .error failure) :
    start.run region.sentence ≠ some done := by
  intro accepted
  obtain ⟨n, -, -, stuck⟩ := (ofRegion_stops refused).place
  rw [← List.take_append_drop (n + 1) region.sentence, run_append, stuck] at accepted
  cases accepted

/-- A region that holds the word of a tree is read as what the tree stands for. -/
theorem ofRegion_tree {region : Region} {tree : Tree} (same : tree.word = lexemes region.tokens) :
    ofRegion region = .ok tree.expr := by
  cases outcome : ofRegion region with
  | ok expr =>
    obtain ⟨other, known, rfl⟩ := ofRegion_sound outcome
    rw [Tree.word_injective (known.trans same.symm)]
  | error failure =>
    refine absurd (run_sentence tree) ?_
    rw [Tree.sentence, same]
    exact ofRegion_refuses outcome

/-- What the automaton accepts is a sentence. -/
theorem sentence_of_run {word : List (Option Lexeme)} (accepted : start.run word = some done) :
    ∃ tree : Tree, tree.sentence = word := by
  obtain ⟨inner, rfl⟩ := shape_of_run (by simp) accepted
  -- The lexemes are read as a region; it does not matter where they stand.
  let region : Region := ⟨inner.map fun lexeme => ⟨lexeme, 0⟩, 0⟩
  have same : lexemes region.tokens = inner := by simp [region, Function.comp_def]
  cases outcome : ofRegion region with
  | ok expr =>
    obtain ⟨tree, known, -⟩ := ofRegion_sound outcome
    exact ⟨tree, by rw [Tree.sentence, known, same]⟩
  | error failure =>
    refine absurd accepted ?_
    rw [← same]
    exact ofRegion_refuses outcome

/-- The automaton gets exactly as far as there is a sentence that begins so. -/
theorem viable_iff {front : List (Option Lexeme)} : Viable front ↔ (start.run front).isSome := by
  constructor
  · rintro ⟨tree, rest, same⟩
    have accepted := run_sentence tree
    rw [← same, run_append] at accepted
    obtain ⟨middle, follows, -⟩ := Option.bind_eq_some_iff.mp accepted
    rw [follows]
    rfl
  · intro follows
    obtain ⟨state, follows⟩ := Option.isSome_iff_exists.mp follows
    have accepted : start.run (front ++ state.completion) = some done := by
      rw [run_append, follows, Option.bind_some, run_completion]
    obtain ⟨tree, same⟩ := sentence_of_run accepted
    exact ⟨tree, state.completion, same.symm⟩

theorem Viable.shorter {front rest : List (Option Lexeme)} (viable : Viable (front ++ rest)) : Viable front := by
  obtain ⟨tree, more, same⟩ := viable
  exact ⟨tree, rest ++ more, by rw [← same, List.append_assoc]⟩

/-- Of all token lists exactly the sentences are read, each as what its one derivation stands for. Any other list is
refused at the first token with which it is no longer the beginning of a sentence: as many tokens as come before that
one, and no more, begin one. -/
theorem ofRegion_decides (region : Region) :
    (∃ tree : Tree, tree.sentence = region.sentence ∧
      (∀ other : Tree, other.sentence = region.sentence → other = tree) ∧ ofRegion region = .ok tree.expr) ∨
    ((∀ tree : Tree, tree.sentence ≠ region.sentence) ∧
      ∃ (failure : Failure) (n : Nat), ofRegion region = .error failure ∧ region.offsets[n]? = some failure.position ∧
        ∀ k, Viable (region.sentence.take k) ↔ k ≤ n) := by
  cases outcome : ofRegion region with
  | ok expr =>
    left
    obtain ⟨tree, word, rfl⟩ := ofRegion_sound outcome
    have same : tree.sentence = region.sentence := by rw [Tree.sentence, word, Region.sentence]
    exact ⟨tree, same, fun other known => Tree.sentence_injective (known.trans same.symm), rfl⟩
  | error failure =>
    right
    obtain ⟨n, position, follows, stuck⟩ := (ofRegion_stops outcome).place
    have beyond (k : Nat) (further : n < k) : ¬ Viable (region.sentence.take k) := by
      intro viable
      rw [← Nat.add_sub_of_le further, List.take_add] at viable
      have known := viable_iff.mp viable.shorter
      rw [Nat.succ_eq_add_one, stuck] at known
      cases known
    constructor
    · intro tree same
      apply ofRegion_refuses outcome
      rw [← same]
      exact run_sentence tree
    · refine ⟨failure, n, rfl, position, fun k => ⟨fun viable => ?_, fun within => ?_⟩⟩
      · exact Nat.le_of_not_lt fun further => beyond k further viable
      · have viable := viable_iff.mpr follows
        rw [← Nat.add_sub_of_le within, List.take_add] at viable
        exact viable.shorter

end Expr
end Colloquy
