import Colloquy.Proofs.Expr.Grammar

/-! An automaton that follows expressions. Nothing nests in an expression, so finitely many states say all that matters
about the lexemes before some place. The automaton gets through every sentence of the grammar, and from each of its
states there is a way to the end of one. -/
namespace Colloquy.Expr

/-- A place in an expression. Those inside a path also say whether the path is an argument. -/
inductive State where
  | start
  | constant
  | name
  | path (isArgument : Bool)
  | dot (isArgument : Bool)
  | bracket (isArgument : Bool)
  | index (isArgument : Bool)
  | dollar (isArgument : Bool)
  | argumentName
  | keyword
  | argumentConstant
  | arguments
  | pipe
  | done
  deriving DecidableEq, Repr

/-- Where one gets to once no argument can come any more. -/
def closing : Option Lexeme → Option State
  | some .pipe => some .pipe
  | none => some .done
  | _ => none

/-- Where one gets to between arguments. -/
def opening : Option Lexeme → Option State
  | some (.ident _) => some .argumentName
  | some (.int _) | some (.text _) => some .argumentConstant
  | some .dollar => some (.dollar true)
  | found => closing found

/-- Where one gets to after an argument without a comma. -/
def afterArgument : Option Lexeme → Option State
  | some .comma => some .arguments
  | found => opening found

/-- Where one gets to after a path, which may go on. -/
def afterPath (isArgument : Bool) (otherwise : Option Lexeme → Option State) : Option Lexeme → Option State
  | some .dot => some (.dot isArgument)
  | some .leftBracket => some (.bracket isArgument)
  | found => otherwise found

theorem afterPath_eq {isArgument : Bool} {otherwise : Option Lexeme → Option State} {found : Option Lexeme}
    (stepless : opensStep found = false) : afterPath isArgument otherwise found = otherwise found := by
  unfold afterPath
  split
  · cases stepless
  · cases stepless
  · rfl

theorem opening_eq_closing {found : Option Lexeme} (startless : Parser.startsArgument found = false) :
    opening found = closing found := by
  unfold opening
  split <;> first | rfl | cases startless

/-- No lexeme but a bar can come once no argument can. -/
theorem closing_stuck {lexeme : Lexeme} (barless : some lexeme ≠ some .pipe) : closing (some lexeme) = none := by
  unfold closing
  split
  · exact absurd ‹_› barless
  · exact absurd ‹_› (Option.some_ne_none lexeme)
  · rfl

theorem afterArgument_eq_opening {found : Option Lexeme} (other : found ≠ some .comma) :
    afterArgument found = opening found := by
  unfold afterArgument
  split
  · exact absurd rfl other
  · rfl

namespace State

/-- Where one gets to with one more lexeme, or with the end of the region; nowhere if it cannot stand there. -/
def next : State → Option Lexeme → Option State
  | start, some (.ident _) => some name
  | start, some (.int _) | start, some (.text _) => some constant
  | start, some .dollar => some (dollar false)
  | constant, found => closing found
  | name, found => afterPath false opening found
  | path false, found => afterPath false closing found
  | path true, found => afterPath true afterArgument found
  | dot isArgument, some (.ident _) => some (path isArgument)
  | bracket isArgument, some (.ident _) | bracket isArgument, some (.int _) => some (index isArgument)
  | index isArgument, some .rightBracket => some (path isArgument)
  | dollar isArgument, some (.ident _) => some (path isArgument)
  | argumentName, some .equals => some keyword
  | argumentName, found => afterPath true afterArgument found
  | keyword, some (.ident _) => some (path true)
  | keyword, some (.int _) | keyword, some (.text _) => some argumentConstant
  | keyword, some .dollar => some (dollar true)
  | argumentConstant, found => afterArgument found
  | arguments, found => opening found
  | pipe, some (.ident _) => some arguments
  | _, _ => none

/-- Where one gets to with several lexemes. -/
def run (state : State) (found : List (Option Lexeme)) : Option State := found.foldlM next state

/-- Where one gets to with a word. -/
def reads (state : State) (word : List Lexeme) : Option State := state.run (word.map some)

theorem run_append (state : State) (u v : List (Option Lexeme)) :
    state.run (u ++ v) = (state.run u).bind fun middle => middle.run v :=
  List.foldlM_append ..

theorem run_cons (state : State) (found : Option Lexeme) (rest : List (Option Lexeme)) :
    state.run (found :: rest) = (state.next found).bind fun middle => middle.run rest :=
  List.foldlM_cons ..

theorem reads_append (state : State) (u v : List Lexeme) :
    state.reads (u ++ v) = (state.reads u).bind fun middle => middle.reads v := by
  unfold reads
  rw [List.map_append, run_append]

theorem reads_cons (state : State) (lexeme : Lexeme) (rest : List Lexeme) :
    state.reads (lexeme :: rest) = (state.next (some lexeme)).bind fun middle => middle.reads rest :=
  run_cons ..

@[simp]
theorem reads_nil (state : State) : state.reads [] = some state := rfl

/-- What is left to write before an expression is complete. -/
def completion : State → List (Option Lexeme)
  | start | keyword => [some (.int 0), none]
  | constant | name | path _ | argumentName | argumentConstant | arguments => [none]
  | dot _ | dollar _ | pipe => [some (.ident "x"), none]
  | bracket _ => [some (.int 0), some .rightBracket, none]
  | index _ => [some .rightBracket, none]
  | done => []

/-- Every place is on the way to the end of an expression. -/
theorem run_completion (state : State) : state.run state.completion = some done := by
  cases state with
  | path isArgument => cases isArgument <;> rfl
  | dot isArgument => cases isArgument <;> rfl
  | bracket isArgument => cases isArgument <;> rfl
  | index isArgument => cases isArgument <;> rfl
  | dollar isArgument => cases isArgument <;> rfl
  | _ => rfl

theorem next_ne_done {lexeme : Lexeme} {state : State} : state.next (some lexeme) ≠ some done := by
  cases state with
  | path isArgument => cases isArgument <;> cases lexeme <;> simp [next, afterPath, afterArgument, opening, closing]
  | _ => cases lexeme <;> simp [next, afterPath, afterArgument, opening, closing]

theorem next_none {state middle : State} (finishes : state.next none = some middle) : middle = done := by
  cases state with
  | path isArgument => cases isArgument <;> exact (Option.some.inj finishes).symm
  | _ => first | exact (Option.some.inj finishes).symm | cases finishes

/-- The end of the region comes last, and only there. -/
theorem shape_of_run {state : State} {word : List (Option Lexeme)} (unfinished : state ≠ done)
    (accepted : state.run word = some done) : ∃ inner : List Lexeme, word = inner.map some ++ [none] := by
  induction word generalizing state with
  | nil => exact absurd (Option.some.inj accepted) unfinished
  | cons found rest ih =>
    rw [run_cons] at accepted
    obtain ⟨middle, moves, finishes⟩ := Option.bind_eq_some_iff.mp accepted
    cases found with
    | none =>
      cases next_none moves
      cases rest with
      | nil => exact ⟨[], rfl⟩
      | cons found rest => cases finishes
    | some lexeme =>
      have further : middle ≠ done := by
        rintro rfl
        exact next_ne_done moves
      obtain ⟨inner, rfl⟩ := ih further finishes
      exact ⟨lexeme :: inner, rfl⟩

/-! ## Where there is no way -/

section Stuck
variable {state : State} {found : Option Lexeme} {isArgument : Bool}

/-- Only a name can come here. -/
def wantsName : State → Bool
  | dot _ | dollar _ | pipe => true
  | _ => false

/-- Only an operand can come here. -/
def wantsOperand : State → Bool
  | start | keyword => true
  | _ => false

theorem name_stuck (wants : state.wantsName = true) (nameless : ∀ name, found ≠ some (.ident name)) :
    state.next found = none := by
  cases state with
  | dot _ | dollar _ | pipe =>
    unfold next
    split <;> simp_all
  | _ => cases wants

theorem operand_stuck (wants : state.wantsOperand = true) (startless : Parser.startsArgument found = false) :
    state.next found = none := by
  cases state with
  | start | keyword =>
    unfold next
    split <;> simp_all [Parser.startsArgument]
  | _ => cases wants

theorem bracket_stuck (nameless : ∀ name, found ≠ some (.ident name)) (indexless : ∀ i, found ≠ some (.int i)) :
    (bracket isArgument).next found = none := by
  unfold next
  split <;> simp_all

theorem index_stuck (other : found ≠ some .rightBracket) : (index isArgument).next found = none := by
  unfold next
  split <;> simp_all

end Stuck

/-! ## Kinds of places -/

/-- A path may go on here. -/
structure InPath (state : State) (isArgument : Bool) : Prop where
  point : state.next (some .dot) = some (dot isArgument)
  bracket : state.next (some .leftBracket) = some (bracket isArgument)

/-- The value of an argument is due here; `bare` is where a name leads. -/
structure TakesValue (state bare : State) : Prop where
  ident (name : String) : state.next (some (.ident name)) = some bare
  int (n : Int) : state.next (some (.int n)) = some argumentConstant
  text (s : String) : state.next (some (.text s)) = some argumentConstant
  dollar : state.next (some .dollar) = some (dollar true)
  inPath : bare.InPath true

/-- An argument may start here. -/
def InArguments (state : State) : Prop := ∀ found, Parser.startsArgument found = true → state.next found = opening found

/-- A filter or the end of the region may come here. -/
def Complete (state : State) : Prop := ∀ found, endsArguments found = true → state.next found = closing found

theorem name_inPath : name.InPath false := ⟨rfl, rfl⟩

theorem path_inPath (isArgument : Bool) : (path isArgument).InPath isArgument := by
  cases isArgument <;> exact ⟨rfl, rfl⟩

theorem argumentName_inPath : argumentName.InPath true := ⟨rfl, rfl⟩

theorem keyword_takesValue : keyword.TakesValue (path true) :=
  ⟨fun _ => rfl, fun _ => rfl, fun _ => rfl, rfl, path_inPath true⟩

theorem InArguments.takesValue {state : State} (between : state.InArguments) : state.TakesValue argumentName :=
  ⟨fun _ => between _ rfl, fun _ => between _ rfl, fun _ => between _ rfl, between _ rfl, argumentName_inPath⟩

theorem arguments_inArguments : arguments.InArguments := fun _ _ => rfl

theorem complete_of {state : State} (bar : state.next (some .pipe) = some pipe) (close : state.next none = some done) :
    state.Complete := by
  intro found ended
  unfold endsArguments at ended
  split at ended
  · exact bar
  · exact close
  · cases ended

theorem arguments_complete : arguments.Complete := complete_of rfl rfl

theorem name_inArguments : name.InArguments := by
  intro found starts
  obtain ⟨-, stepless⟩ := starts_apart starts
  exact afterPath_eq stepless

theorem name_complete : name.Complete := complete_of rfl rfl

theorem path_complete : (path false).Complete := complete_of rfl rfl

/-- An argument without a comma has been read. What comes next may go on with it, or else it comes after it. -/
def PastArgument (state : State) : Prop :=
  ∀ found, opensStep found = false → found ≠ some .equals → state.next found = afterArgument found

theorem PastArgument.inArguments {state : State} (past : state.PastArgument) : state.InArguments := by
  intro found starts
  have unequal : found ≠ some .equals := by
    rintro rfl
    cases starts
  rw [past found (starts_apart starts).2 unequal]
  unfold afterArgument
  split
  · cases starts
  · rfl

theorem PastArgument.complete {state : State} (past : state.PastArgument) : state.Complete :=
  complete_of (past _ rfl (by simp)) (past _ rfl (by simp))

theorem argumentConstant_past : argumentConstant.PastArgument := fun _ _ _ => rfl

theorem path_next {found : Option Lexeme} (stepless : opensStep found = false) :
    (path true).next found = afterArgument found :=
  afterPath_eq stepless

theorem path_past : (path true).PastArgument := fun _ stepless _ => path_next stepless

theorem argumentName_past : argumentName.PastArgument := by
  intro found stepless unequal
  rw [← path_past found stepless unequal]
  unfold next
  split <;> simp_all

end State

/-! ## The way through a sentence -/

open State

/-- Whether the path is no more than a name. -/
def PathTree.isName (tree : PathTree) : Bool := !tree.dollar && tree.steps.isEmpty

/-- Where the value of an argument leads. -/
def OperandTree.state (bare : State) : OperandTree → State
  | int _ | text _ => argumentConstant
  | path p => if p.isName then bare else .path true

/-- Where an argument leads. -/
def ArgumentTree.state (tree : ArgumentTree) : State :=
  if tree.comma then arguments
  else tree.value.state (if tree.keyword.isNone then argumentName else path true)

/-- Where arguments lead that start at some place. -/
def argumentsState (state : State) (trees : List ArgumentTree) : State := trees.foldl (fun _ tree => tree.state) state

/-- Where the start of a pipeline leads. -/
def PrimaryTree.state : PrimaryTree → State
  | operand (.int _) | operand (.text _) => constant
  | operand (.path p) => if p.isName then name else .path false
  | call _ first more => argumentsState first.state more

/-- Where a filter leads. -/
def FilterTree.state (tree : FilterTree) : State := argumentsState arguments tree.args

/-- Where filters lead that start at some place. -/
def filtersState (state : State) (trees : List FilterTree) : State := trees.foldl (fun _ tree => tree.state) state

section Reads
variable {state bare : State} {isArgument : Bool}

theorem reads_step (inside : state.InPath isArgument) (step : StepTree) :
    state.reads step.word = some (path isArgument) := by
  cases step with
  | point name =>
    rw [StepTree.word, reads_cons, inside.point]
    rfl
  | member name =>
    rw [StepTree.word, reads_cons, inside.bracket]
    rfl
  | item i =>
    rw [StepTree.word, reads_cons, inside.bracket]
    rfl

theorem reads_steps (inside : state.InPath isArgument) (steps : List StepTree) :
    state.reads (steps.flatMap StepTree.word) = some (if steps.isEmpty then state else path isArgument) := by
  induction steps generalizing state with
  | nil => rfl
  | cons step rest ih =>
    rw [List.flatMap_cons, reads_append, reads_step inside, Option.bind_some, ih (path_inPath isArgument)]
    simp

theorem reads_path (ident : ∀ name, state.next (some (.ident name)) = some bare) (inside : bare.InPath isArgument)
    (sign : state.next (some .dollar) = some (dollar isArgument)) (tree : PathTree) :
    state.reads tree.word = some (if tree.isName then bare else path isArgument) := by
  obtain ⟨dollar, root, steps⟩ := tree
  cases dollar with
  | false =>
    rw [PathTree.word, if_neg Bool.false_ne_true, List.nil_append, reads_cons, ident, Option.bind_some,
      reads_steps inside]
    rfl
  | true =>
    have named : (State.dollar isArgument).next (some (.ident root)) = some (path isArgument) := rfl
    rw [PathTree.word, if_pos rfl, List.cons_append, List.nil_append, reads_cons, sign, Option.bind_some, reads_cons,
      named, Option.bind_some, reads_steps (path_inPath isArgument), ite_self]
    rfl

theorem reads_operand (takes : state.TakesValue bare) (value : OperandTree) :
    state.reads value.word = some (value.state bare) := by
  cases value with
  | int n => rw [OperandTree.word, reads_cons, takes.int, Option.bind_some, reads_nil, OperandTree.state]
  | text s => rw [OperandTree.word, reads_cons, takes.text, Option.bind_some, reads_nil, OperandTree.state]
  | path p => exact reads_path takes.ident takes.inPath takes.dollar p

theorem operand_past (value : OperandTree) (past : bare.PastArgument) : (value.state bare).PastArgument := by
  cases value with
  | int n => exact argumentConstant_past
  | text s => exact argumentConstant_past
  | path p =>
    rw [OperandTree.state]
    split
    · exact past
    · exact path_past

/-- Where the value of an argument leads, before its comma. -/
def ArgumentTree.valueState (tree : ArgumentTree) : State :=
  tree.value.state (if tree.keyword.isNone then argumentName else .path true)

theorem value_past (tree : ArgumentTree) : tree.valueState.PastArgument := by
  refine operand_past tree.value ?_
  split
  · exact argumentName_past
  · exact path_past

/-- After an argument there may be another one, or the arguments may end. -/
theorem argument_between (tree : ArgumentTree) : tree.state.InArguments ∧ tree.state.Complete := by
  rw [ArgumentTree.state]
  split
  · exact ⟨arguments_inArguments, arguments_complete⟩
  · exact ⟨(value_past tree).inArguments, (value_past tree).complete⟩

theorem reads_argument (between : state.InArguments) (tree : ArgumentTree) :
    state.reads tree.word = some tree.state := by
  have value : state.reads (keywordWord tree.keyword ++ tree.value.word) = some tree.valueState := by
    rw [reads_append, ArgumentTree.valueState]
    cases tree.keyword with
    | none => exact reads_operand between.takesValue tree.value
    | some name =>
      rw [keywordWord, reads_cons, between _ rfl]
      exact reads_operand keyword_takesValue tree.value
  rw [ArgumentTree.word, ← List.append_assoc, reads_append, value, Option.bind_some, ArgumentTree.state]
  cases tree.comma with
  | true =>
    rw [if_pos rfl, if_pos rfl, reads_cons, value_past tree _ rfl (by simp)]
    rfl
  | false => rfl

theorem reads_arguments (between : state.InArguments) (trees : List ArgumentTree) :
    state.reads (trees.flatMap ArgumentTree.word) = some (argumentsState state trees) := by
  induction trees generalizing state with
  | nil => rfl
  | cons tree rest ih =>
    rw [List.flatMap_cons, reads_append, reads_argument between, Option.bind_some, ih (argument_between tree).1]
    rfl

theorem arguments_between (between : state.InArguments) (complete : state.Complete) (trees : List ArgumentTree) :
    (argumentsState state trees).InArguments ∧ (argumentsState state trees).Complete := by
  induction trees generalizing state with
  | nil => exact ⟨between, complete⟩
  | cons tree rest ih => exact ih (argument_between tree).1 (argument_between tree).2

theorem primary_complete (tree : PrimaryTree) : tree.state.Complete := by
  cases tree with
  | call called first more => exact (arguments_between (argument_between first).1 (argument_between first).2 more).2
  | operand value =>
    cases value with
    | int n => exact fun _ _ => rfl
    | text s => exact fun _ _ => rfl
    | path p =>
      rw [PrimaryTree.state]
      split
      · exact name_complete
      · exact path_complete

theorem reads_primary (tree : PrimaryTree) : start.reads tree.word = some tree.state := by
  cases tree with
  | call called first more =>
    have named : start.next (some (.ident called)) = some name := rfl
    rw [PrimaryTree.word, reads_cons, named, Option.bind_some, reads_arguments name_inArguments]
    rfl
  | operand value =>
    cases value with
    | int n => rfl
    | text s => rfl
    | path p => exact reads_path (fun _ => rfl) name_inPath rfl p

theorem filter_complete (tree : FilterTree) : tree.state.Complete :=
  (arguments_between arguments_inArguments arguments_complete tree.args).2

theorem reads_filter (complete : state.Complete) (tree : FilterTree) : state.reads tree.word = some tree.state := by
  have named : State.pipe.next (some (.ident tree.name)) = some arguments := rfl
  rw [FilterTree.word, reads_cons, complete _ rfl, closing, Option.bind_some, reads_cons, named, Option.bind_some,
    reads_arguments arguments_inArguments]
  rfl

theorem reads_filters (complete : state.Complete) (trees : List FilterTree) :
    state.reads (trees.flatMap FilterTree.word) = some (filtersState state trees) ∧
      (filtersState state trees).Complete := by
  induction trees generalizing state with
  | nil => exact ⟨rfl, complete⟩
  | cons tree rest ih =>
    rw [List.flatMap_cons, reads_append, reads_filter complete, Option.bind_some]
    exact ih (filter_complete tree)

/-- The automaton gets through every sentence. -/
theorem run_sentence (tree : Tree) : start.run tree.sentence = some done := by
  obtain ⟨read, complete⟩ := reads_filters (primary_complete tree.base) tree.filters
  have word : start.reads tree.word = some (filtersState tree.base.state tree.filters) := by
    rw [Tree.word, reads_append, reads_primary, Option.bind_some, read]
  rw [Tree.sentence, run_append, ← reads, word, Option.bind_some, run_cons, complete _ rfl]
  rfl

end Reads

end Colloquy.Expr
