import Colloquy.Proofs.Expr.Rules

/-! Where a region stands in a text does not matter. Further on in a longer text the same characters are the same
tokens, as far on, and these are read as the same expression; a fault is the same fault, as far on. -/
namespace Colloquy

/-- The same token further on in a longer text. -/
def Token.shift (distance : Nat) (token : Token) : Token := { token with position := token.position + distance }

/-- The same region further on in a longer text. -/
def Region.shift (distance : Nat) (region : Region) : Region :=
  ⟨region.tokens.map (Token.shift distance), region.close + distance⟩

/-! ## Scanning -/

namespace Token

theorem scan_shift (distance : Nat) (opening : Int) (position : Nat) (cs : List Char) :
    scan (opening + distance) (position + distance) cs =
      ((scan opening position cs).mapError (Unread.map (Expr.Failure.shift distance))).map (Region.shift distance) := by
  fun_induction scan opening position cs with
  | case1 => simp [scan]; rfl
  | case2 position c rest blank ih =>
    rw [scan, if_pos blank, ← ih, Nat.add_right_comm]
  | case3 position c rest solid closes =>
    rw [scan, if_neg solid, if_pos closes]
    rfl
  | case4 position c rest solid closes reason lexed =>
    rw [scan, if_neg solid, if_neg closes, lexed]
    cases reason <;> rfl
  | case5 position c rest solid open_ lexeme size lexed reason inner ih =>
    rw [inner] at ih
    have same : position + distance + 1 + size = position + 1 + size + distance := by omega
    rw [scan, if_neg solid, if_neg open_, lexed]
    simp only [same, ih]
    rfl
  | case6 position c rest solid open_ lexeme size lexed region inner ih =>
    rw [inner] at ih
    have same : position + distance + 1 + size = position + 1 + size + distance := by omega
    rw [scan, if_neg solid, if_neg open_, lexed]
    simp only [same, ih]
    rfl

end Token

theorem Region.read_shift (distance start : Nat) (cs : List Char) : Region.read (start + distance) cs =
    ((Region.read start cs).mapError (Unread.map (Expr.Failure.shift distance))).map (Region.shift distance) := by
  have opening : ((start + distance : Nat) : Int) - 2 = (start : Int) - 2 + distance := by omega
  rw [Region.read, Region.read, opening, Token.scan_shift]

/-! ## Rules -/

namespace Expr.Parser

/-- The same reading further on in a longer text. -/
def Reading.shift {α : Type} (distance : Nat) : Reading α → Reading α
  | .ok (found, left) => .ok (found, left.map (Token.shift distance))
  | .error failure => .error (failure.shift distance)

section Shifted
variable {α β : Type} {close distance : Nat} {tokens : List Token}

@[simp]
theorem front_shift : front (tokens.map (Token.shift distance)) = front tokens := by
  cases tokens <;> rfl

theorem refuse_shift (fault : Option Lexeme → Fault) :
    (refuse (close + distance) (tokens.map (Token.shift distance)) fault : Reading α) =
      Reading.shift distance (refuse close tokens fault) := by
  cases tokens <;> rfl

/-- What is made of the reading alone is the same further on. -/
theorem Reading.shift_map {f : α × List Token → β × List Token} {g : α → β}
    (keeps : ∀ found left, f (found, left) = (g found, left)) (reading : Reading α) :
    (Reading.shift distance reading).map f = Reading.shift distance (reading.map f) := by
  cases reading with
  | error failure => rfl
  | ok found => simp only [Reading.shift, Except.map, keeps]

theorem of_shift_cons {lexeme : Lexeme} {position : Nat} {rest : List Token}
    (same : tokens.map (Token.shift distance) = ⟨lexeme, position⟩ :: rest) :
    ∃ here more, tokens = ⟨lexeme, here⟩ :: more ∧ more.map (Token.shift distance) = rest := by
  obtain ⟨⟨found, here⟩, more, rfl, head, rfl⟩ := List.map_eq_cons_iff.mp same
  cases head
  exact ⟨here, more, rfl, rfl⟩

/-- A lexeme that is not in front is not in front further on. -/
theorem headless_shift {lexeme : Lexeme} (other : ∀ position rest, tokens = ⟨lexeme, position⟩ :: rest → False) :
    ∀ position rest, tokens.map (Token.shift distance) = ⟨lexeme, position⟩ :: rest → False := by
  intro position rest same
  obtain ⟨here, more, known, -⟩ := of_shift_cons same
  exact other here more known

end Shifted

variable (close distance : Nat) (tokens : List Token)

theorem steps_shift : steps (close + distance) (tokens.map (Token.shift distance)) =
    Reading.shift distance (steps close tokens) := by
  fun_induction steps close tokens with
  | case1 at_ name at' rest ih =>
    exact (congrArg (Except.map _) ih).trans (Reading.shift_map (fun _ _ => rfl) _)
  | case2 at_ rest nameless =>
    rw [← refuse_shift, List.map_cons, Token.shift, steps]
    exact fun name => headless_shift (nameless name)
  | case3 at_ i at' at'' rest ih =>
    exact (congrArg (Except.map _) ih).trans (Reading.shift_map (fun _ _ => rfl) _)
  | case4 at_ name at' at'' rest ih =>
    exact (congrArg (Except.map _) ih).trans (Reading.shift_map (fun _ _ => rfl) _)
  | case5 at_ i at' rest unclosed =>
    rw [← refuse_shift, List.map_cons, List.map_cons, Token.shift, Token.shift, steps]
    exact headless_shift unclosed
  | case6 at_ name at' rest unclosed =>
    rw [← refuse_shift, List.map_cons, List.map_cons, Token.shift, Token.shift, steps]
    exact headless_shift unclosed
  | case7 at_ rest _ _ intless nameless =>
    rw [← refuse_shift, List.map_cons, Token.shift, steps]
    · exact fun i at_ _ _ => headless_shift (intless i) at_ _
    · exact fun name at_ _ _ => headless_shift (nameless name) at_ _
    · exact fun i => headless_shift (intless i)
    · exact fun name => headless_shift (nameless name)
  | case8 rest _ pointless _ _ _ _ bracketless =>
    rw [steps]
    · rfl
    · exact fun at_ _ _ _ => headless_shift pointless at_ _
    · exact headless_shift pointless
    · exact fun at_ _ _ _ _ => headless_shift bracketless at_ _
    · exact fun at_ _ _ _ _ => headless_shift bracketless at_ _
    · exact fun at_ _ _ _ => headless_shift bracketless at_ _
    · exact fun at_ _ _ _ => headless_shift bracketless at_ _
    · exact headless_shift bracketless

theorem named_shift : named (close + distance) (tokens.map (Token.shift distance)) =
    Reading.shift distance (named close tokens) := by
  fun_cases named close tokens with
  | case1 name at_ rest =>
    exact (congrArg (Except.map _) (steps_shift _ _ _)).trans (Reading.shift_map (fun _ _ => rfl) _)
  | case2 _ nameless =>
    rw [← refuse_shift, named]
    exact fun name => headless_shift (nameless name)

theorem path_shift : path (close + distance) (tokens.map (Token.shift distance)) =
    Reading.shift distance (path close tokens) := by
  fun_cases path close tokens with
  | case1 at_ rest => exact named_shift _ _ rest
  | case2 _ signless =>
    rw [← named_shift, path]
    exact headless_shift signless

theorem operand_shift : operand (close + distance) (tokens.map (Token.shift distance)) =
    Reading.shift distance (operand close tokens) := by
  fun_cases operand close tokens with
  | case1 n at_ rest => rfl
  | case2 s at_ rest => rfl
  | case3 name at_ rest =>
    rw [← Reading.shift_map fun _ _ => rfl, ← path_shift]
    rfl
  | case4 at_ rest =>
    rw [← Reading.shift_map fun _ _ => rfl, ← path_shift]
    rfl
  | case5 _ intless textless nameless signless =>
    rw [← refuse_shift, operand]
    · exact fun i => headless_shift (intless i)
    · exact fun s => headless_shift (textless s)
    · exact fun name => headless_shift (nameless name)
    · exact headless_shift signless

/-! ## Arguments and filters -/

theorem skipComma_shift :
    skipComma (tokens.map (Token.shift distance)) = (skipComma tokens).map (Token.shift distance) := by
  fun_cases skipComma tokens with
  | case1 at_ rest => rfl
  | case2 _ commaless =>
    rw [skipComma]
    exact headless_shift commaless

theorem argument_shift : argument (close + distance) (tokens.map (Token.shift distance)) =
    Reading.shift distance (argument close tokens) := by
  fun_cases argument close tokens with
  | case1 name at_ at' rest =>
    exact (congrArg (Except.map _) (operand_shift _ _ _)).trans (Reading.shift_map (fun _ _ => rfl) _)
  | case2 _ keyless =>
    rw [← Reading.shift_map fun _ _ => rfl, ← operand_shift, argument]
    intro name at_ at' rest same
    obtain ⟨_, more, rfl, tail⟩ := of_shift_cons same
    obtain ⟨_, left, rfl, -⟩ := of_shift_cons tail
    exact keyless _ _ _ _ rfl

theorem arguments_shift : arguments (close + distance) (tokens.map (Token.shift distance)) =
    Reading.shift distance (arguments close tokens) := by
  fun_induction arguments close tokens with
  | case1 tokens starts failure read =>
    rw [arguments, front_shift, if_pos starts, argument_shift, read]
    rfl
  | case2 tokens starts argument left read ih =>
    rw [arguments, front_shift, if_pos starts, argument_shift, read, ← Reading.shift_map fun _ _ => rfl, ← ih,
      ← skipComma_shift]
    rfl
  | case3 tokens startless =>
    rw [arguments, front_shift, if_neg startless]
    rfl

theorem primary_shift : primary (close + distance) (tokens.map (Token.shift distance)) =
    Reading.shift distance (primary close tokens) := by
  have first (name : String) (at_ : Nat) (rest : List Token) :
      path (close + distance) (⟨.ident name, at_ + distance⟩ :: rest.map (Token.shift distance)) =
        Reading.shift distance (path close (⟨.ident name, at_⟩ :: rest)) :=
    path_shift close distance (⟨.ident name, at_⟩ :: rest)
  fun_cases primary close tokens with
  | case1 n at_ rest => rfl
  | case2 s at_ rest => rfl
  | case3 at_ rest =>
    rw [← Reading.shift_map fun _ _ => rfl, ← path_shift]
    rfl
  | case4 name at_ rest failure read =>
    rw [List.map_cons, Token.shift, primary, first, read]
    rfl
  | case5 name at_ rest path left read applied =>
    rw [List.map_cons, Token.shift, primary, first, read, ← Reading.shift_map fun _ _ => rfl, ← arguments_shift]
    simp only [Reading.shift, front_shift, applied, ↓reduceIte]
  | case6 name at_ rest path left read alone =>
    rw [List.map_cons, Token.shift, primary, first, read]
    simp only [Reading.shift, front_shift, alone, Bool.false_eq_true, ↓reduceIte]
  | case7 _ intless textless signless nameless =>
    rw [← refuse_shift, primary]
    · exact fun i => headless_shift (intless i)
    · exact fun s => headless_shift (textless s)
    · exact headless_shift signless
    · exact fun name => headless_shift (nameless name)

theorem filters_shift : filters (close + distance) (tokens.map (Token.shift distance)) =
    Reading.shift distance (filters close tokens) := by
  fun_induction filters close tokens with
  | case1 at_ name at' rest failure read =>
    rw [List.map_cons, List.map_cons, Token.shift, Token.shift, filters, arguments_shift, read]
    rfl
  | case2 at_ name at' rest args left read ih =>
    rw [List.map_cons, List.map_cons, Token.shift, Token.shift, filters, arguments_shift, read,
      ← Reading.shift_map fun _ _ => rfl, ← ih]
    rfl
  | case3 at_ rest nameless =>
    rw [← refuse_shift, List.map_cons, Token.shift, filters]
    exact fun name => headless_shift (nameless name)
  | case4 rest _ barless =>
    rw [filters]
    · rfl
    · exact fun at_ _ _ _ => headless_shift barless at_ _
    · exact headless_shift barless

end Expr.Parser

namespace Expr

theorem ofRegion_shift (distance : Nat) (region : Region) :
    ofRegion (region.shift distance) = (ofRegion region).mapError (Failure.shift distance) := by
  unfold ofRegion Region.shift
  by_cases empty : region.tokens.isEmpty
  · simp [empty]
    rfl
  · rw [List.isEmpty_map, if_neg empty, if_neg empty, Parser.primary_shift]
    cases Parser.primary region.close region.tokens with
    | error failure => rfl
    | ok base =>
      obtain ⟨base, left⟩ := base
      simp only [Parser.Reading.shift, Parser.filters_shift]
      cases Parser.filters region.close left with
      | error failure => rfl
      | ok filters =>
        obtain ⟨filters, left⟩ := filters
        cases left with
        | nil => rfl
        | cons token rest => rfl

end Expr

/-- What is read of a region, and what it holds, does not depend on the offset where it starts. -/
theorem Region.holds_shift (distance start : Nat) (cs : List Char) :
    (Region.read (start + distance) cs).bind Expr.heldBy =
      ((Region.read start cs).bind Expr.heldBy).mapError (Unread.map (Expr.Failure.shift distance)) := by
  rw [read_shift]
  cases Region.read start cs with
  | error reason => rfl
  | ok region =>
    change Expr.heldBy (region.shift distance) = (Expr.heldBy region).mapError _
    rw [Expr.heldBy, Expr.heldBy, Expr.ofRegion_shift]
    cases Expr.ofRegion region <;> rfl

/-- The inside of a region is read the same where it stands in a text. -/
theorem Expr.parse_shift (distance : Nat) (source : String) :
    (Region.read distance (source.toList ++ ['\x7d', '\x7d'])).bind heldBy =
      (parse source).mapError (Unread.map (Failure.shift distance)) := by
  rw [parse, ← Region.holds_shift, Nat.zero_add]

end Colloquy
