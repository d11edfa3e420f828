import Colloquy.Proofs.Expr.Automaton

/-! What the rules of the grammar read from tokens. Each rule has two lemmas. When it succeeds it has read the word of a
tree, and what it left cannot go on with that word. When it fails the automaton gets as far as the token at fault and no
further. -/
namespace Colloquy.Expr
open State Colloquy.Expr.Parser

/-- The lexemes of tokens. -/
abbrev lexemes (tokens : List Token) : List Lexeme := tokens.map Token.lexeme

/-- Tokens begin with a word, and the rest is left. -/
def Takes (tokens : List Token) (word : List Lexeme) (left : List Token) : Prop :=
  ∃ read, tokens = read ++ left ∧ lexemes read = word

theorem Takes.eq_of_nil {tokens left : List Token} (takes : Takes tokens [] left) : tokens = left := by
  obtain ⟨read, rfl, none⟩ := takes
  rw [List.map_eq_nil_iff.mp none, List.nil_append]

theorem takes_nil (tokens : List Token) : Takes tokens [] tokens := ⟨[], rfl, rfl⟩

theorem Takes.cons {rest left : List Token} {word : List Lexeme} (token : Token) (takes : Takes rest word left) :
    Takes (token :: rest) (token.lexeme :: word) left := by
  obtain ⟨read, rfl, rfl⟩ := takes
  exact ⟨token :: read, rfl, rfl⟩

theorem Takes.head {tokens left : List Token} {token : Token} {lexeme : Lexeme} {word : List Lexeme}
    (takes : Takes (token :: tokens) (lexeme :: word) left) : token.lexeme = lexeme := by
  obtain ⟨read, same, known⟩ := takes
  obtain ⟨first, rest, rfl, rfl, -⟩ := List.map_eq_cons_iff.mp known
  cases same
  rfl

theorem Takes.append {tokens middle left : List Token} {first second : List Lexeme} (takes : Takes tokens first middle)
    (more : Takes middle second left) : Takes tokens (first ++ second) left := by
  obtain ⟨read, rfl, rfl⟩ := takes
  obtain ⟨further, rfl, rfl⟩ := more
  exact ⟨read ++ further, by simp, by simp [lexemes]⟩

/-- From a place on, the automaton follows the tokens up to the one at fault, where it gets stuck. -/
def Stops (close : Nat) (state : State) (tokens : List Token) (failure : Failure) : Prop :=
  ∃ word left middle, Takes tokens word left ∧ failure.position = offset close left ∧
    state.reads word = some middle ∧ middle.next (front left) = none

section Stopping
variable {close : Nat} {state middle : State} {tokens rest left : List Token} {failure : Failure} {α : Type}

theorem stops_here {fault : Option Lexeme → Fault} (stuck : state.next (front tokens) = none)
    (refused : (refuse close tokens fault : Except Failure α) = .error failure) : Stops close state tokens failure := by
  cases refused
  exact ⟨[], tokens, state, takes_nil tokens, rfl, rfl, stuck⟩

theorem Stops.cons {token : Token} (moves : state.next (some token.lexeme) = some middle)
    (stops : Stops close middle rest failure) : Stops close state (token :: rest) failure := by
  obtain ⟨word, left, last, takes, place, read, stuck⟩ := stops
  refine ⟨token.lexeme :: word, left, last, takes.cons token, place, ?_, stuck⟩
  rw [reads_cons, moves, Option.bind_some, read]

theorem Stops.after {word : List Lexeme} (takes : Takes tokens word rest) (read : state.reads word = some middle)
    (stops : Stops close middle rest failure) : Stops close state tokens failure := by
  obtain ⟨more, left, last, further, place, follows, stuck⟩ := stops
  refine ⟨word ++ more, left, last, takes.append further, place, ?_, stuck⟩
  rw [reads_append, read, Option.bind_some, follows]

end Stopping

variable {close : Nat} {state bare : State} {isArgument : Bool} {tokens left : List Token} {failure : Failure}

theorem front_eq_some {lexeme : Lexeme} :
    front tokens = some lexeme ↔ ∃ position rest, tokens = ⟨lexeme, position⟩ :: rest := by
  constructor
  · intro head
    cases tokens with
    | nil => cases head
    | cons token rest =>
      obtain ⟨lexeme, position⟩ := token
      cases head
      exact ⟨position, rest, rfl⟩
  · rintro ⟨position, rest, rfl⟩
    rfl

theorem front_ne {lexeme : Lexeme} (other : ∀ position rest, tokens = ⟨lexeme, position⟩ :: rest → False) :
    front tokens ≠ some lexeme := by
  intro head
  obtain ⟨position, rest, same⟩ := front_eq_some.mp head
  exact other position rest same

/-- What the rules tell by cases on the tokens: no argument starts with any other lexeme. -/
theorem startless (nameless : ∀ name position rest, tokens = ⟨.ident name, position⟩ :: rest → False)
    (intless : ∀ n position rest, tokens = ⟨.int n, position⟩ :: rest → False)
    (textless : ∀ s position rest, tokens = ⟨.text s, position⟩ :: rest → False)
    (signless : ∀ position rest, tokens = ⟨.dollar, position⟩ :: rest → False) :
    startsArgument (front tokens) = false := by
  unfold startsArgument
  split
  · rename_i name head
    exact absurd head (front_ne (nameless name))
  · rename_i n head
    exact absurd head (front_ne (intless n))
  · rename_i s head
    exact absurd head (front_ne (textless s))
  · rename_i head
    exact absurd head (front_ne signless)
  · rfl

/-! ## Paths -/

theorem steps_sound {found : List Segment} (read : steps close tokens = .ok (found, left)) :
    ∃ trees : List StepTree, Takes tokens (trees.flatMap StepTree.word) left ∧
      trees.map StepTree.segment = found ∧ opensStep (front left) = false := by
  fun_induction steps close tokens generalizing found left with
  | case1 at_ name at' rest ih =>
    obtain ⟨⟨more, after⟩, inner, same⟩ := eq_ok_of_map read
    cases same
    obtain ⟨trees, takes, rfl, ends⟩ := ih inner
    exact ⟨.point name :: trees, (takes.cons _).cons _, rfl, ends⟩
  | case2 => cases read
  | case3 at_ i at' at'' rest ih =>
    obtain ⟨⟨more, after⟩, inner, same⟩ := eq_ok_of_map read
    cases same
    obtain ⟨trees, takes, rfl, ends⟩ := ih inner
    exact ⟨.item i :: trees, ((takes.cons _).cons _).cons _, rfl, ends⟩
  | case4 at_ name at' at'' rest ih =>
    obtain ⟨⟨more, after⟩, inner, same⟩ := eq_ok_of_map read
    cases same
    obtain ⟨trees, takes, rfl, ends⟩ := ih inner
    exact ⟨.member name :: trees, ((takes.cons _).cons _).cons _, rfl, ends⟩
  | case5 => cases read
  | case6 => cases read
  | case7 => cases read
  | case8 rest _ pointless _ _ _ _ bracketless =>
    cases read
    refine ⟨[], takes_nil rest, rfl, ?_⟩
    unfold opensStep
    split
    · rename_i head
      exact absurd head (front_ne pointless)
    · rename_i head
      exact absurd head (front_ne bracketless)
    · rfl

theorem steps_stops (inside : state.InPath isArgument) (refused : steps close tokens = .error failure) :
    Stops close state tokens failure := by
  fun_induction steps close tokens generalizing state with
  | case1 at_ name at' rest ih =>
    exact .cons inside.point (.cons rfl (ih (path_inPath isArgument) (eq_error_of_map refused)))
  | case2 at_ rest nameless =>
    refine .cons inside.point (stops_here (name_stuck rfl ?_) refused)
    exact fun name => front_ne (nameless name)
  | case3 at_ i at' at'' rest ih =>
    exact .cons inside.bracket (.cons rfl (.cons rfl (ih (path_inPath isArgument) (eq_error_of_map refused))))
  | case4 at_ name at' at'' rest ih =>
    exact .cons inside.bracket (.cons rfl (.cons rfl (ih (path_inPath isArgument) (eq_error_of_map refused))))
  | case5 at_ i at' rest unclosed =>
    exact .cons inside.bracket (.cons rfl (stops_here (index_stuck (front_ne unclosed)) refused))
  | case6 at_ name at' rest unclosed =>
    exact .cons inside.bracket (.cons rfl (stops_here (index_stuck (front_ne unclosed)) refused))
  | case7 at_ rest _ _ indexless nameless =>
    refine .cons inside.bracket (stops_here (bracket_stuck ?_ ?_) refused)
    · exact fun name => front_ne (nameless name)
    · exact fun i => front_ne (indexless i)
  | case8 => cases refused

theorem named_sound {found : Path} (read : named close tokens = .ok (found, left)) :
    ∃ (root : String) (steps : List StepTree), Takes tokens (.ident root :: steps.flatMap StepTree.word) left ∧
      found = ⟨root, steps.map StepTree.segment⟩ ∧ opensStep (front left) = false := by
  unfold named at read
  split at read
  · rename_i name at_ rest
    obtain ⟨⟨more, after⟩, inner, same⟩ := eq_ok_of_map read
    cases same
    obtain ⟨steps, takes, rfl, ends⟩ := steps_sound inner
    exact ⟨name, steps, takes.cons _, rfl, ends⟩
  · cases read

theorem path_sound {found : Path} (read : path close tokens = .ok (found, left)) :
    ∃ tree : PathTree, Takes tokens tree.word left ∧ tree.path = found ∧ opensStep (front left) = false := by
  unfold Parser.path at read
  split at read
  · obtain ⟨root, steps, takes, rfl, ends⟩ := named_sound read
    exact ⟨⟨true, root, steps⟩, takes.cons _, rfl, ends⟩
  · obtain ⟨root, steps, takes, rfl, ends⟩ := named_sound read
    exact ⟨⟨false, root, steps⟩, takes, rfl, ends⟩

theorem path_stops (ident : ∀ name, state.next (some (.ident name)) = some bare) (inside : bare.InPath isArgument)
    (sign : state.next (some .dollar) = some (.dollar isArgument))
    (starts : front tokens = some .dollar ∨ ∃ name, front tokens = some (.ident name))
    (refused : path close tokens = .error failure) : Stops close state tokens failure := by
  unfold Parser.path at refused
  split at refused
  · refine .cons sign ?_
    unfold named at refused
    split at refused
    · exact .cons rfl (steps_stops (path_inPath isArgument) (eq_error_of_map refused))
    · rename_i nameless
      exact stops_here (name_stuck rfl fun name => front_ne (nameless name)) refused
  · rename_i rest unsigned
    rcases starts with signed | ⟨name, head⟩
    · exact absurd signed (front_ne unsigned)
    · obtain ⟨position, after, rfl⟩ := front_eq_some.mp head
      exact .cons (ident name) (steps_stops inside (eq_error_of_map refused))

/-! ## Arguments -/

theorem takes_name {tree : PathTree} (isName : tree.isName = true) (takes : Takes tokens tree.word left) :
    ∃ position, tokens = ⟨.ident tree.root, position⟩ :: left := by
  obtain ⟨dollar, root, steps⟩ := tree
  obtain ⟨read, rfl, word⟩ := takes
  simp only [PathTree.isName, Bool.and_eq_true, Bool.not_eq_true', List.isEmpty_iff] at isName
  obtain ⟨rfl, rfl⟩ := isName
  obtain ⟨⟨lexeme, position⟩, rest, rfl, rfl, none⟩ := List.map_eq_cons_iff.mp word
  rw [List.map_eq_nil_iff.mp none]
  exact ⟨position, rfl⟩

theorem operand_sound {found : Operand} (read : operand close tokens = .ok (found, left)) :
    ∃ value : OperandTree, Takes tokens value.word left ∧ value.operand = found ∧
      ((∃ p, value = .path p) → opensStep (front left) = false) := by
  unfold operand at read
  split at read
  · cases read
    exact ⟨.int _, .cons _ (takes_nil _), rfl, by simp⟩
  · cases read
    exact ⟨.text _, .cons _ (takes_nil _), rfl, by simp⟩
  · obtain ⟨⟨p, after⟩, inner, same⟩ := eq_ok_of_map read
    cases same
    obtain ⟨tree, takes, rfl, ends⟩ := path_sound inner
    exact ⟨.path tree, takes, rfl, fun _ => ends⟩
  · obtain ⟨⟨p, after⟩, inner, same⟩ := eq_ok_of_map read
    cases same
    obtain ⟨tree, takes, rfl, ends⟩ := path_sound inner
    exact ⟨.path tree, takes, rfl, fun _ => ends⟩
  · cases read

theorem operand_stops (takes : state.TakesValue bare)
    (starts : startsArgument (front tokens) = false → state.next (front tokens) = none)
    (refused : operand close tokens = .error failure) : Stops close state tokens failure := by
  unfold operand at refused
  split at refused
  · cases refused
  · cases refused
  · exact path_stops takes.ident takes.inPath takes.dollar (.inr ⟨_, rfl⟩) (eq_error_of_map refused)
  · exact path_stops takes.ident takes.inPath takes.dollar (.inl rfl) (eq_error_of_map refused)
  · rename_i rest intless textless nameless signless
    exact stops_here (starts (startless nameless intless textless signless)) refused

theorem argument_sound {found : Argument} (read : argument close tokens = .ok (found, left)) :
    ∃ tree : ArgumentTree, tree.comma = false ∧ Takes tokens tree.word left ∧ tree.argument = found ∧
      tree.valueState.next (front left) = afterArgument (front left) := by
  unfold argument at read
  split at read
  · rename_i name at_ at' rest
    obtain ⟨⟨operand, after⟩, inner, same⟩ := eq_ok_of_map read
    cases same
    obtain ⟨value, takes, rfl, ends⟩ := operand_sound inner
    refine ⟨⟨some name, value, false⟩, rfl, ?_, rfl, ?_⟩
    · simpa [ArgumentTree.word, keywordWord] using (takes.cons ⟨.equals, at'⟩).cons ⟨.ident name, at_⟩
    · cases value with
      | path p =>
        simp only [ArgumentTree.valueState, OperandTree.state, Option.isNone_some, Bool.false_eq_true, ↓reduceIte,
          ite_self]
        exact path_next (ends ⟨p, rfl⟩)
      | _ => rfl
  · rename_i rest unnamed
    obtain ⟨⟨operand, after⟩, inner, same⟩ := eq_ok_of_map read
    cases same
    obtain ⟨value, takes, rfl, ends⟩ := operand_sound inner
    refine ⟨⟨none, value, false⟩, rfl, by simpa [ArgumentTree.word, keywordWord] using takes, rfl, ?_⟩
    cases value with
    | path p =>
      have stepless := ends ⟨p, rfl⟩
      rw [ArgumentTree.valueState, OperandTree.state]
      split
      · rename_i isName
        -- A name before an equals sign would have been read as a keyword.
        refine argumentName_past _ stepless fun equals => ?_
        obtain ⟨position, more, rfl⟩ := front_eq_some.mp equals
        obtain ⟨at_, rfl⟩ := takes_name isName takes
        exact unnamed _ at_ position more rfl
      · exact path_next stepless
    | _ => rfl

theorem argument_stops (between : state.InArguments) (starts : startsArgument (front tokens) = true)
    (refused : argument close tokens = .error failure) : Stops close state tokens failure := by
  unfold argument at refused
  split at refused
  · rename_i name at_ at' rest
    refine .cons (between _ rfl) (.cons rfl ?_)
    exact operand_stops keyword_takesValue (operand_stuck rfl) (eq_error_of_map refused)
  · refine operand_stops between.takesValue (fun none => ?_) (eq_error_of_map refused)
    rw [starts] at none
    cases none



/-- An argument with the comma after it, if there is one. -/
theorem commaArgument_sound {found : Argument} (read : argument close tokens = .ok (found, left)) :
    ∃ tree : ArgumentTree, Takes tokens tree.word (skipComma left) ∧ tree.argument = found ∧
      (startsArgument (front (skipComma left)) = false →
        tree.state.next (front (skipComma left)) = closing (front (skipComma left))) := by
  obtain ⟨⟨keyword, value, comma⟩, rfl, takes, rfl, past⟩ := argument_sound read
  unfold skipComma
  split
  · rename_i at_ rest
    refine ⟨⟨keyword, value, true⟩, ?_, rfl, opening_eq_closing⟩
    have further := takes.append ((takes_nil rest).cons ⟨.comma, at_⟩)
    simpa [ArgumentTree.word] using further
  · rename_i uncommaed
    refine ⟨⟨keyword, value, false⟩, takes, rfl, fun startless => ?_⟩
    rw [← opening_eq_closing startless, ← afterArgument_eq_opening (front_ne uncommaed)]
    exact past

theorem arguments_sound {found : Arguments} (read : arguments close tokens = .ok (found, left)) :
    ∃ trees : List ArgumentTree, Takes tokens (trees.flatMap ArgumentTree.word) left ∧ argumentsOf trees = found ∧
      startsArgument (front left) = false ∧
      ∀ state : State, (trees = [] → state.next (front left) = closing (front left)) →
        (argumentsState state trees).next (front left) = closing (front left) := by
  fun_induction arguments close tokens generalizing found left with
  | case1 => cases read
  | case2 tokens starts first after inner ih =>
    obtain ⟨⟨more, rest⟩, later, same⟩ := eq_ok_of_map read
    cases same
    obtain ⟨tree, takes, rfl, past⟩ := commaArgument_sound inner
    obtain ⟨trees, further, rfl, startless, ends⟩ := ih later
    refine ⟨tree :: trees, takes.append further, rfl, startless, fun state _ => ends tree.state ?_⟩
    rintro rfl
    rw [← further.eq_of_nil] at startless ⊢
    exact past startless
  | case3 tokens startless =>
    cases read
    refine ⟨[], takes_nil _, rfl, by simpa using startless, fun state known => known rfl⟩

theorem arguments_stops (between : state.InArguments) (refused : arguments close tokens = .error failure) :
    Stops close state tokens failure := by
  fun_induction arguments close tokens generalizing state with
  | case1 tokens starts failure' inner =>
    cases refused
    exact argument_stops between starts inner
  | case2 tokens starts first after inner ih =>
    obtain ⟨tree, takes, -, -⟩ := commaArgument_sound inner
    exact .after takes (reads_argument between tree) (ih (argument_between tree).1 (eq_error_of_map refused))
  | case3 => cases refused

/-! ## Pipelines -/

theorem primary_sound {found : Primary} (read : primary close tokens = .ok (found, left)) :
    ∃ tree : PrimaryTree, Takes tokens tree.word left ∧ tree.primary = found ∧
      tree.state.next (front left) = closing (front left) := by
  unfold primary at read
  split at read
  · cases read
    exact ⟨.operand (.int _), .cons _ (takes_nil _), rfl, rfl⟩
  · cases read
    exact ⟨.operand (.text _), .cons _ (takes_nil _), rfl, rfl⟩
  · obtain ⟨⟨p, after⟩, inner, same⟩ := eq_ok_of_map read
    cases same
    obtain ⟨root, steps, takes, rfl, stepless⟩ := named_sound inner
    exact ⟨.operand (.path ⟨true, root, steps⟩), takes.cons _, rfl, afterPath_eq stepless⟩
  · rename_i name at_ rest
    split at read
    · cases read
    · rename_i p after inner
      have bare : named close (⟨.ident name, at_⟩ :: rest) = .ok (p, after) := inner
      obtain ⟨root, steps, takes, rfl, stepless⟩ := named_sound bare
      split at read
      · rename_i called
        obtain ⟨⟨args, last⟩, more, same⟩ := eq_ok_of_map read
        cases same
        simp only [Bool.and_eq_true, List.isEmpty_iff, List.map_eq_nil_iff] at called
        obtain ⟨rfl, starts⟩ := called
        obtain ⟨trees, further, rfl, startless, ends⟩ := arguments_sound more
        cases trees with
        | nil =>
          rw [further.eq_of_nil, startless] at starts
          cases starts
        | cons first others =>
          have known := takes.head
          cases known
          refine ⟨.call name first others, takes.append further, rfl, ends .name ?_⟩
          rintro ⟨⟩
      · rename_i uncalled
        cases read
        refine ⟨.operand (.path ⟨false, root, steps⟩), takes, rfl, ?_⟩
        cases steps with
        | nil =>
          have startless : startsArgument (front left) = false := by simpa using uncalled
          rw [← opening_eq_closing startless]
          exact afterPath_eq stepless
        | cons step others => exact afterPath_eq stepless
  · cases read

theorem primary_stops (refused : primary close tokens = .error failure) : Stops close start tokens failure := by
  unfold primary at refused
  split at refused
  · cases refused
  · cases refused
  · exact path_stops (fun _ => rfl) name_inPath rfl (.inl rfl) (eq_error_of_map refused)
  · rename_i name at_ rest
    split at refused
    · rename_i inner
      cases refused
      exact path_stops (fun _ => rfl) name_inPath rfl (.inr ⟨_, rfl⟩) inner
    · rename_i p after inner
      have bare : named close (⟨.ident name, at_⟩ :: rest) = .ok (p, after) := inner
      obtain ⟨root, steps, takes, rfl, -⟩ := named_sound bare
      split at refused
      · rename_i called
        simp only [Bool.and_eq_true, List.isEmpty_iff, List.map_eq_nil_iff] at called
        obtain ⟨rfl, -⟩ := called
        exact .after takes rfl (arguments_stops name_inArguments (eq_error_of_map refused))
      · cases refused
  · rename_i rest intless textless signless nameless
    exact stops_here (operand_stuck rfl (startless nameless intless textless signless)) refused

theorem filters_sound {found : List FilterCall} (read : Parser.filters close tokens = .ok (found, left)) :
    ∃ trees : List FilterTree, Takes tokens (trees.flatMap FilterTree.word) left ∧ trees.map FilterTree.call = found ∧
      front left ≠ some .pipe ∧
      ∀ state : State, (trees = [] → state.next (front left) = closing (front left)) →
        (filtersState state trees).next (front left) = closing (front left) := by
  fun_induction Parser.filters close tokens generalizing found left with
  | case1 => cases read
  | case2 at_ name at' rest args after inner ih =>
    obtain ⟨⟨more, last⟩, later, same⟩ := eq_ok_of_map read
    cases same
    obtain ⟨trees, takes, rfl, startless, ends⟩ := arguments_sound inner
    obtain ⟨others, further, rfl, barless, known⟩ := ih later
    refine ⟨⟨name, trees⟩ :: others, ((takes.cons _).cons _).append further, rfl, barless, fun state _ => known _ ?_⟩
    rintro rfl
    rw [← further.eq_of_nil]
    exact ends .arguments fun _ => opening_eq_closing startless
  | case3 => cases read
  | case4 tokens _ barless =>
    cases read
    exact ⟨[], takes_nil _, rfl, front_ne barless, fun state known => known rfl⟩

theorem filters_stops (complete : state.next (front tokens) = closing (front tokens))
    (refused : Parser.filters close tokens = .error failure) : Stops close state tokens failure := by
  fun_induction Parser.filters close tokens generalizing state with
  | case1 at_ name at' rest failure' inner =>
    cases refused
    exact .cons complete (.cons rfl (arguments_stops arguments_inArguments inner))
  | case2 at_ name at' rest args after inner ih =>
    obtain ⟨trees, takes, -, startless, ends⟩ := arguments_sound inner
    have moves : arguments.reads (trees.flatMap ArgumentTree.word) = some (argumentsState .arguments trees) :=
      reads_arguments arguments_inArguments trees
    refine .cons complete (.cons rfl (.after takes moves (ih ?_ (eq_error_of_map refused))))
    exact ends .arguments fun _ => opening_eq_closing startless
  | case3 at_ rest nameless =>
    exact .cons complete (stops_here (name_stuck rfl fun name => front_ne (nameless name)) refused)
  | case4 => cases refused

end Colloquy.Expr
