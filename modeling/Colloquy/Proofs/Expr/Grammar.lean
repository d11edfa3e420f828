import Colloquy.Expr.Parser

/-! The grammar of expressions. A tree is a derivation: it has a word, which is the lexemes it derives, and it stands
for an expression. Several trees stand for one expression, since dollar signs, commas, brackets and the order of
positional and keyword arguments are a matter of taste; but no two trees have the same word. -/
namespace Colloquy.Expr

/-- A step of a path: a name after a point, or a name or an index in brackets. -/
inductive StepTree where
  | point (name : String)
  | member (name : String)
  | item (i : Int)
  deriving DecidableEq, Repr

/-- A path, with or without a dollar sign. -/
structure PathTree where
  dollar : Bool
  root : String
  steps : List StepTree
  deriving DecidableEq, Repr

/-- A constant or a path. -/
inductive OperandTree where
  | int (n : Int)
  | text (s : String)
  | path (p : PathTree)
  deriving DecidableEq, Repr

/-- An argument, with or without a keyword, and with or without a comma after it. -/
structure ArgumentTree where
  keyword : Option String
  value : OperandTree
  comma : Bool
  deriving DecidableEq, Repr

/-- The start of a pipeline: an operand, or a name with at least one argument. -/
inductive PrimaryTree where
  | operand (value : OperandTree)
  | call (name : String) (first : ArgumentTree) (more : List ArgumentTree)
  deriving DecidableEq, Repr

/-- A filter after its bar. -/
structure FilterTree where
  name : String
  args : List ArgumentTree
  deriving DecidableEq, Repr

/-- A whole derivation. -/
structure Tree where
  base : PrimaryTree
  filters : List FilterTree
  deriving DecidableEq, Repr

/-! ## Words -/

/-- The lexemes of a step. -/
def StepTree.word : StepTree → List Lexeme
  | point name => [.dot, .ident name]
  | member name => [.leftBracket, .ident name, .rightBracket]
  | item i => [.leftBracket, .int i, .rightBracket]

/-- The lexemes of a path. -/
def PathTree.word (tree : PathTree) : List Lexeme :=
  (if tree.dollar then [.dollar] else []) ++ .ident tree.root :: tree.steps.flatMap StepTree.word

/-- The lexemes of an operand. -/
def OperandTree.word : OperandTree → List Lexeme
  | int n => [.int n]
  | text s => [.text s]
  | path p => p.word

/-- The lexemes that name the argument after them. -/
def keywordWord : Option String → List Lexeme
  | none => []
  | some name => [.ident name, .equals]

/-- The lexemes of an argument. -/
def ArgumentTree.word (tree : ArgumentTree) : List Lexeme :=
  keywordWord tree.keyword ++ (tree.value.word ++ if tree.comma then [.comma] else [])

/-- The lexemes of the start of a pipeline. -/
def PrimaryTree.word : PrimaryTree → List Lexeme
  | operand value => value.word
  | call name first more => .ident name :: (first :: more).flatMap ArgumentTree.word

/-- The lexemes of a filter. -/
def FilterTree.word (tree : FilterTree) : List Lexeme :=
  .pipe :: .ident tree.name :: tree.args.flatMap ArgumentTree.word

/-- The lexemes of a whole derivation. -/
def Tree.word (tree : Tree) : List Lexeme := tree.base.word ++ tree.filters.flatMap FilterTree.word

/-- The lexemes of a whole derivation with the end of the region after them. -/
def Tree.sentence (tree : Tree) : List (Option Lexeme) := tree.word.map some ++ [none]

/-! ## What trees stand for -/

/-- The segment that a step stands for. -/
def StepTree.segment : StepTree → Segment
  | point name | member name => .field name
  | item i => .index i

/-- The path that a tree stands for. -/
def PathTree.path (tree : PathTree) : Path := ⟨tree.root, tree.steps.map StepTree.segment⟩

/-- The operand that a tree stands for. -/
def OperandTree.operand : OperandTree → Operand
  | int n => .int n
  | text s => .text s
  | path p => .path p.path

/-- The argument that a tree stands for. -/
def ArgumentTree.argument (tree : ArgumentTree) : Argument :=
  match tree.keyword with
  | none => .positional tree.value.operand
  | some name => .keyword name tree.value.operand

/-- The arguments that trees stand for, each kind in the order of the trees. -/
def argumentsOf (trees : List ArgumentTree) : Arguments :=
  trees.foldr (fun tree more => more.cons tree.argument) .none

theorem argumentsOf_cons (tree : ArgumentTree) (rest : List ArgumentTree) :
    argumentsOf (tree :: rest) = (argumentsOf rest).cons tree.argument := rfl

/-- The start of a pipeline that a tree stands for. -/
def PrimaryTree.primary : PrimaryTree → Primary
  | operand value => .operand value.operand
  | call name first more => .call name (argumentsOf (first :: more))

/-- The filter that a tree stands for. -/
def FilterTree.call (tree : FilterTree) : FilterCall := ⟨tree.name, argumentsOf tree.args⟩

/-- The expression that a tree stands for. -/
def Tree.expr (tree : Tree) : Expr := ⟨tree.base.primary, tree.filters.map FilterTree.call⟩

/-! ## Derivations are unique

Words are compared together with what comes after them. What comes after a word must not be something that the word
could have gone on with; each lemma says what that is for its kind of tree. -/

/-- Whether a step of a path begins here. -/
def opensStep : Option Lexeme → Bool
  | some .dot | some .leftBracket => true
  | _ => false

/-- Whether arguments end here: with the next filter or with the region. -/
def endsArguments : Option Lexeme → Bool
  | some .pipe | none => true
  | _ => false

/-- Whether this can follow an argument that has no comma. -/
def followsArgument (found : Option Lexeme) : Bool := Parser.startsArgument found || endsArguments found

/-- Words that follow one another can be told apart if each of them can be told apart from what comes after it. -/
theorem flatMap_unique {α : Type} {word : α → List Lexeme} (Follows Ends : List Lexeme → Prop)
    (single : ∀ a b u v, Follows u → Follows v → word a ++ u = word b ++ v → a = b ∧ u = v)
    (ends : ∀ u, Ends u → Follows u) (goesOn : ∀ a u, Follows (word a ++ u)) (apart : ∀ a u, ¬ Ends (word a ++ u))
    {first second : List α} {u v : List Lexeme} (endU : Ends u) (endV : Ends v)
    (same : first.flatMap word ++ u = second.flatMap word ++ v) : first = second ∧ u = v := by
  have follows (trees : List α) {w : List Lexeme} (endW : Ends w) : Follows (trees.flatMap word ++ w) := by
    cases trees with
    | nil => exact ends w endW
    | cons a rest =>
      rw [List.flatMap_cons, List.append_assoc]
      exact goesOn a _
  induction first generalizing second with
  | nil =>
    cases second with
    | nil => exact ⟨rfl, same⟩
    | cons b rest =>
      rw [List.flatMap_cons, List.append_assoc, List.flatMap_nil, List.nil_append] at same
      exact absurd (same ▸ endU) (apart b _)
  | cons a others ih =>
    cases second with
    | nil =>
      rw [List.flatMap_cons, List.append_assoc, List.flatMap_nil, List.nil_append] at same
      exact absurd (same ▸ endV) (apart a _)
    | cons b rest =>
      rw [List.flatMap_cons, List.append_assoc, List.flatMap_cons, List.append_assoc] at same
      obtain ⟨rfl, tails⟩ := single a b _ _ (follows others endU) (follows rest endV) same
      obtain ⟨rfl, after⟩ := ih tails
      exact ⟨rfl, after⟩

section Unique
variable {u v : List Lexeme}

theorem step_unique (first second : StepTree) (same : first.word ++ u = second.word ++ v) :
    first = second ∧ u = v := by
  cases first <;> cases second <;> simp_all [StepTree.word]

theorem steps_unique {first second : List StepTree} (endU : opensStep u.head? = false)
    (endV : opensStep v.head? = false) (same : first.flatMap StepTree.word ++ u = second.flatMap StepTree.word ++ v) :
    first = second ∧ u = v := by
  refine flatMap_unique (fun _ => True) (fun w => opensStep w.head? = false) (fun a b u v _ _ => step_unique a b)
    (fun _ _ => trivial) (fun _ _ => trivial) ?_ endU endV same
  intro a w ended
  cases a <;> cases ended

theorem path_unique {first second : PathTree} (endU : opensStep u.head? = false) (endV : opensStep v.head? = false)
    (same : first.word ++ u = second.word ++ v) : first = second ∧ u = v := by
  obtain ⟨dollar, root, steps⟩ := first
  obtain ⟨dollar', root', steps'⟩ := second
  have rest : steps.flatMap StepTree.word ++ u = steps'.flatMap StepTree.word ++ v → steps = steps' ∧ u = v :=
    steps_unique endU endV
  cases dollar <;> cases dollar' <;> simp_all [PathTree.word]

theorem operand_unique {first second : OperandTree} (endU : opensStep u.head? = false)
    (endV : opensStep v.head? = false) (same : first.word ++ u = second.word ++ v) : first = second ∧ u = v := by
  -- A path starts with a dollar sign or a name, so it is no constant.
  cases first with
  | path p =>
    cases second with
    | path q =>
      obtain ⟨rfl, after⟩ := path_unique endU endV same
      exact ⟨rfl, after⟩
    | _ => cases dollar : p.dollar <;> simp [OperandTree.word, PathTree.word, dollar] at same
  | _ =>
    cases second with
    | path q => cases dollar : q.dollar <;> simp [OperandTree.word, PathTree.word, dollar] at same
    | _ => simp_all [OperandTree.word]

/-- An operand that starts with a name is a path without a dollar sign. -/
theorem operand_of_name {value : OperandTree} {name : String} (same : value.word ++ u = .ident name :: v) :
    ∃ steps, value = .path ⟨false, name, steps⟩ ∧ v = steps.flatMap StepTree.word ++ u := by
  cases value with
  | path p =>
    obtain ⟨dollar, root, steps⟩ := p
    cases dollar <;> simp_all [OperandTree.word, PathTree.word]
  | _ => simp [OperandTree.word] at same

theorem steps_head (steps : List StepTree) :
    steps = [] ∨ opensStep (steps.flatMap StepTree.word ++ u).head? = true := by
  cases steps with
  | nil => exact .inl rfl
  | cons step rest => cases step <;> exact .inr rfl

theorem operand_head (value : OperandTree) : Parser.startsArgument (value.word ++ u).head? = true := by
  cases value with
  | path p => cases dollar : p.dollar <;> simp [OperandTree.word, PathTree.word, dollar, Parser.startsArgument]
  | _ => rfl

theorem argument_head (tree : ArgumentTree) : Parser.startsArgument (tree.word ++ u).head? = true := by
  obtain ⟨keyword, value, comma⟩ := tree
  cases keyword with
  | none =>
    rw [ArgumentTree.word, keywordWord, List.nil_append, List.append_assoc]
    exact operand_head value
  | some name => rfl

/-- What starts an argument neither goes on with a path nor ends the arguments. -/
theorem starts_apart {found : Option Lexeme} (starts : Parser.startsArgument found = true) :
    endsArguments found = false ∧ opensStep found = false := by
  unfold Parser.startsArgument at starts
  split at starts <;> first | exact ⟨rfl, rfl⟩ | cases starts

theorem followsArgument_step {found : Option Lexeme} (follows : followsArgument found = true) :
    opensStep found = false := by
  unfold opensStep
  split <;> first | rfl | cases follows

/-- The lexemes after the value of an argument: its comma, if it has one, and what follows. -/
def afterValue (comma : Bool) (rest : List Lexeme) : List Lexeme := (if comma then [.comma] else []) ++ rest

theorem afterValue_step (comma : Bool) (follows : followsArgument u.head? = true) :
    opensStep (afterValue comma u).head? = false := by
  cases comma with
  | true => rfl
  | false => exact followsArgument_step follows

theorem afterValue_unique {comma comma' : Bool} (followsU : followsArgument u.head? = true)
    (followsV : followsArgument v.head? = true) (same : afterValue comma u = afterValue comma' v) :
    comma = comma' ∧ u = v := by
  cases comma <;> cases comma' <;> simp_all [afterValue]
  · cases followsU
  · subst same
    cases followsV

/-- No operand can be read as a keyword with its equals sign. -/
theorem operand_notKeyword {value : OperandTree} {comma : Bool} {name : String}
    (follows : followsArgument u.head? = true)
    (same : value.word ++ afterValue comma u = .ident name :: .equals :: v) : False := by
  obtain ⟨steps, -, same⟩ := operand_of_name same
  rcases steps_head steps with rfl | opens
  · cases comma with
    | true => cases same
    | false =>
      rw [afterValue, if_neg Bool.false_ne_true, List.flatMap_nil, List.nil_append, List.nil_append] at same
      rw [← same] at follows
      cases follows
  · rw [← same] at opens
    cases opens

theorem ArgumentTree.word_append (tree : ArgumentTree) (rest : List Lexeme) :
    tree.word ++ rest = keywordWord tree.keyword ++ (tree.value.word ++ afterValue tree.comma rest) := by
  simp [word, afterValue]

/-- An argument is told apart from what comes after it, which may be another argument but no comma. -/
theorem argument_unique {first second : ArgumentTree} (followsU : followsArgument u.head? = true)
    (followsV : followsArgument v.head? = true) (same : first.word ++ u = second.word ++ v) :
    first = second ∧ u = v := by
  obtain ⟨keyword, value, comma⟩ := first
  obtain ⟨keyword', value', comma'⟩ := second
  rw [ArgumentTree.word_append, ArgumentTree.word_append] at same
  have values (same : value.word ++ afterValue comma u = value'.word ++ afterValue comma' v) :
      value = value' ∧ comma = comma' ∧ u = v := by
    obtain ⟨rfl, after⟩ := operand_unique (afterValue_step comma followsU) (afterValue_step comma' followsV) same
    exact ⟨rfl, afterValue_unique followsU followsV after⟩
  cases keyword with
  | none =>
    cases keyword' with
    | none =>
      obtain ⟨rfl, rfl, rfl⟩ := values same
      exact ⟨rfl, rfl⟩
    | some name => exact (operand_notKeyword followsU same).elim
  | some name =>
    cases keyword' with
    | none => exact (operand_notKeyword followsV same.symm).elim
    | some name' =>
      simp only [keywordWord, List.cons_append, List.nil_append, List.cons.injEq, Lexeme.ident.injEq, true_and] at same
      obtain ⟨rfl, same⟩ := same
      obtain ⟨rfl, rfl, rfl⟩ := values same
      exact ⟨rfl, rfl⟩

theorem arguments_unique {first second : List ArgumentTree} (endU : endsArguments u.head? = true)
    (endV : endsArguments v.head? = true)
    (same : first.flatMap ArgumentTree.word ++ u = second.flatMap ArgumentTree.word ++ v) : first = second ∧ u = v := by
  refine flatMap_unique (fun w => followsArgument w.head? = true) (fun w => endsArguments w.head? = true)
    (fun a b u v => argument_unique) ?_ ?_ ?_ endU endV same
  · intro w ended
    rw [followsArgument, ended, Bool.or_true]
  · intro a w
    rw [followsArgument, argument_head, Bool.true_or]
  · intro a w ended
    rw [(starts_apart (argument_head a)).1] at ended
    cases ended

theorem endsArguments_step {found : Option Lexeme} (ended : endsArguments found = true) : opensStep found = false := by
  apply followsArgument_step
  rw [followsArgument, ended, Bool.or_true]

/-- A call is no path: an argument comes after its name. -/
theorem operand_notCall {value : OperandTree} {name : String} {first : ArgumentTree} {more : List ArgumentTree}
    (ended : endsArguments u.head? = true)
    (same : value.word ++ u = .ident name :: ((first :: more).flatMap ArgumentTree.word ++ v)) : False := by
  obtain ⟨steps, -, same⟩ := operand_of_name same
  have starts := argument_head (u := more.flatMap ArgumentTree.word ++ v) first
  rw [List.flatMap_cons, List.append_assoc] at same
  rw [same] at starts
  obtain ⟨open_, stepless⟩ := starts_apart starts
  rcases steps_head (u := u) steps with rfl | opens
  · rw [List.flatMap_nil, List.nil_append, ended] at open_
    cases open_
  · rw [opens] at stepless
    cases stepless

theorem primary_unique {first second : PrimaryTree} (endU : endsArguments u.head? = true)
    (endV : endsArguments v.head? = true) (same : first.word ++ u = second.word ++ v) : first = second ∧ u = v := by
  cases first with
  | operand value =>
    cases second with
    | operand value' =>
      obtain ⟨rfl, after⟩ := operand_unique (endsArguments_step endU) (endsArguments_step endV) same
      exact ⟨rfl, after⟩
    | call name first more => exact (operand_notCall endU same).elim
  | call name first more =>
    cases second with
    | operand value => exact (operand_notCall endV same.symm).elim
    | call name' first' more' =>
      simp only [PrimaryTree.word, List.cons_append, List.cons.injEq, Lexeme.ident.injEq] at same
      obtain ⟨rfl, same⟩ := same
      obtain ⟨args, after⟩ := arguments_unique endU endV same
      cases args
      exact ⟨rfl, after⟩

theorem filter_unique {first second : FilterTree} (endU : endsArguments u.head? = true)
    (endV : endsArguments v.head? = true) (same : first.word ++ u = second.word ++ v) : first = second ∧ u = v := by
  obtain ⟨name, args⟩ := first
  obtain ⟨name', args'⟩ := second
  simp only [FilterTree.word, List.cons_append, List.cons.injEq, Lexeme.ident.injEq, true_and] at same
  obtain ⟨rfl, same⟩ := same
  obtain ⟨rfl, after⟩ := arguments_unique endU endV same
  exact ⟨rfl, after⟩

theorem filters_head (filters : List FilterTree) :
    endsArguments (filters.flatMap FilterTree.word).head? = true := by
  cases filters <;> rfl

end Unique

/-- A word has one derivation. -/
theorem Tree.word_injective {first second : Tree} (same : first.word = second.word) : first = second := by
  obtain ⟨base, filters⟩ := first
  obtain ⟨base', filters'⟩ := second
  obtain ⟨rfl, rest⟩ := primary_unique (filters_head filters) (filters_head filters') same
  have all : filters = filters' ∧ ([] : List Lexeme) = [] := by
    refine flatMap_unique (fun w => endsArguments w.head? = true) (fun w => w = []) (fun a b u v => filter_unique)
      ?_ ?_ ?_ rfl rfl (by simpa using rest)
    · rintro w rfl
      rfl
    · intro a w
      rfl
    · intro a w ended
      cases ended
  rw [all.1]

/-- The end of a region belongs to no word, so a sentence has one derivation too. -/
theorem Tree.sentence_injective {first second : Tree} (same : first.sentence = second.sentence) : first = second := by
  refine word_injective ?_
  exact (List.map_inj_right fun _ _ => Option.some.inj).mp (List.append_cancel_right same)

end Colloquy.Expr
