import Colloquy.Expr.Basic
import Colloquy.Expr.Token
import Colloquy.Reading

/-! Reading an expression from the tokens of a region. Each rule takes the tokens that remain and returns what it
read with those it left; a fault is reported at the first token that cannot stand where it does. -/
namespace Colloquy.Expr.Parser

/-- What a rule read and the tokens it left, or where it failed. -/
abbrev Reading (α : Type) := Except Failure (α × List Token)

/-- The lexeme in front, none at the end of the region. -/
def front (tokens : List Token) : Option Lexeme := tokens.head?.map Token.lexeme

/-- The offset in front, that of the closing braces at the end. -/
def offset (close : Nat) (tokens : List Token) : Int := (tokens.head?.map Token.position).getD close

/-- A failure at the token in front. -/
def refuse {α : Type} (close : Nat) (tokens : List Token) (fault : Option Lexeme → Fault) : Except Failure α :=
  .error ⟨fault (front tokens), offset close tokens⟩

/-- The steps of a path. -/
def steps (close : Nat) : List Token → Reading (List Segment)
  | ⟨.dot, _⟩ :: ⟨.ident name, _⟩ :: rest =>
    (steps close rest).map fun (more, left) => (.field name :: more, left)
  | ⟨.dot, _⟩ :: rest => refuse close rest (.expected .name)
  | ⟨.leftBracket, _⟩ :: ⟨.int i, _⟩ :: ⟨.rightBracket, _⟩ :: rest =>
    (steps close rest).map fun (more, left) => (.index i :: more, left)
  | ⟨.leftBracket, _⟩ :: ⟨.ident name, _⟩ :: ⟨.rightBracket, _⟩ :: rest =>
    (steps close rest).map fun (more, left) => (.field name :: more, left)
  | ⟨.leftBracket, _⟩ :: ⟨.int _, _⟩ :: rest => refuse close rest (.expected .rightBracket)
  | ⟨.leftBracket, _⟩ :: ⟨.ident _, _⟩ :: rest => refuse close rest (.expected .rightBracket)
  | ⟨.leftBracket, _⟩ :: rest => refuse close rest .invalidIndex
  | rest => .ok ([], rest)

/-- A name and the steps after it. -/
def named (close : Nat) : List Token → Reading Path
  | ⟨.ident name, _⟩ :: rest => (steps close rest).map fun (more, left) => (⟨name, more⟩, left)
  | rest => refuse close rest (.expected .name)

/-- A path, with or without the dollar sign. -/
def path (close : Nat) : List Token → Reading Path
  | ⟨.dollar, _⟩ :: rest => named close rest
  | rest => named close rest

/-- A constant or a path. -/
def operand (close : Nat) : List Token → Reading Operand
  | ⟨.int n, _⟩ :: rest => .ok (.int n, rest)
  | ⟨.text s, _⟩ :: rest => .ok (.text s, rest)
  | ⟨.ident name, at_⟩ :: rest =>
    (path close (⟨.ident name, at_⟩ :: rest)).map fun (p, left) => (.path p, left)
  | ⟨.dollar, at_⟩ :: rest => (path close (⟨.dollar, at_⟩ :: rest)).map fun (p, left) => (.path p, left)
  | rest => refuse close rest .expectedOperand

/-- Whether an argument can start here. -/
def startsArgument : Option Lexeme → Bool
  | some (.ident _) | some (.int _) | some (.text _) | some .dollar => true
  | _ => false

/-- The tokens after an optional comma. -/
def skipComma : List Token → List Token
  | ⟨.comma, _⟩ :: rest => rest
  | rest => rest

theorem steps_shorter {close : Nat} {tokens left : List Token} {found : List Segment}
    (read : steps close tokens = .ok (found, left)) : left.length ≤ tokens.length := by
  fun_induction steps close tokens generalizing found left <;>
    simp_all [refuse, Except.map] <;> grind

theorem named_shorter {close : Nat} {tokens left : List Token} {found : Path}
    (read : named close tokens = .ok (found, left)) : left.length < tokens.length := by
  unfold named at read
  split at read
  · obtain ⟨⟨more, rest⟩, inner, result⟩ := eq_ok_of_map read
    have := steps_shorter inner
    simp only [Prod.mk.injEq] at result
    simp [← result.2]
    omega
  · simp [refuse] at read

theorem path_shorter {close : Nat} {tokens left : List Token} {found : Path}
    (read : path close tokens = .ok (found, left)) : left.length < tokens.length := by
  unfold path at read
  split at read
  · have := named_shorter read
    simp
    omega
  · exact named_shorter read

theorem operand_shorter {close : Nat} {tokens left : List Token} {found : Operand}
    (read : operand close tokens = .ok (found, left)) : left.length < tokens.length := by
  unfold operand at read
  split at read
  · simp at read; simp [← read.2]
  · simp at read; simp [← read.2]
  · obtain ⟨⟨p, rest⟩, inner, result⟩ := eq_ok_of_map read
    have := path_shorter inner
    simp_all
  · obtain ⟨⟨p, rest⟩, inner, result⟩ := eq_ok_of_map read
    have := path_shorter inner
    simp_all
  · simp [refuse] at read

theorem skipComma_shorter (tokens : List Token) : (skipComma tokens).length ≤ tokens.length := by
  unfold skipComma
  split <;> simp

/-- An argument: by keyword when a name and an equals sign come first. -/
def argument (close : Nat) : List Token → Reading Argument
  | ⟨.ident name, _⟩ :: ⟨.equals, _⟩ :: rest =>
    (operand close rest).map fun (value, left) => (.keyword name value, left)
  | rest => (operand close rest).map fun (value, left) => (.positional value, left)

theorem argument_shorter {close : Nat} {tokens left : List Token} {found : Argument}
    (read : argument close tokens = .ok (found, left)) : left.length < tokens.length := by
  unfold argument at read
  split at read
  · obtain ⟨⟨p, rest⟩, inner, result⟩ := eq_ok_of_map read
    have := operand_shorter inner
    simp_all
    omega
  · obtain ⟨⟨p, rest⟩, inner, result⟩ := eq_ok_of_map read
    have := operand_shorter inner
    simp_all

/-- Arguments, each with an optional comma after it, as long as one can start. -/
def arguments (close : Nat) (tokens : List Token) : Reading Arguments :=
  if startsArgument (front tokens) then
    match _read : argument close tokens with
    | .error failure => .error failure
    | .ok (first, left) =>
      (arguments close (skipComma left)).map fun (more, left) => (more.cons first, left)
  else .ok (.none, tokens)
termination_by tokens.length
decreasing_by
  have := argument_shorter _read
  have := skipComma_shorter left
  omega

theorem arguments_shorter {close : Nat} {tokens left : List Token} {found : Arguments}
    (read : arguments close tokens = .ok (found, left)) : left.length ≤ tokens.length := by
  fun_induction arguments close tokens generalizing found left with
  | case1 => simp_all
  | case2 tokens _ first after inner ih =>
    have shorter := argument_shorter inner
    have := skipComma_shorter after
    obtain ⟨⟨more, rest⟩, later, result⟩ := eq_ok_of_map read
    have := ih later
    simp only [Prod.mk.injEq] at result
    simp [← result.2]
    omega
  | case3 => simp_all

/-- A constant, a path, or a name with arguments, which is a call. -/
def primary (close : Nat) : List Token → Reading Primary
  | ⟨.int n, _⟩ :: rest => .ok (.operand (.int n), rest)
  | ⟨.text s, _⟩ :: rest => .ok (.operand (.text s), rest)
  | ⟨.dollar, at_⟩ :: rest =>
    (path close (⟨.dollar, at_⟩ :: rest)).map fun (p, left) => (.operand (.path p), left)
  | ⟨.ident name, at_⟩ :: rest =>
    match path close (⟨.ident name, at_⟩ :: rest) with
    | .error failure => .error failure
    | .ok (p, left) =>
      if p.steps.isEmpty && startsArgument (front left) then
        (arguments close left).map fun (args, left) => (.call name args, left)
      else .ok (.operand (.path p), left)
  | rest => refuse close rest .unexpected

/-- Filters, each after a bar. -/
def filters (close : Nat) (tokens : List Token) : Reading (List FilterCall) :=
  match tokens with
  | ⟨.pipe, _⟩ :: ⟨.ident name, _⟩ :: rest =>
    match _read : arguments close rest with
    | .error failure => .error failure
    | .ok (args, left) => (filters close left).map fun (more, left) => (⟨name, args⟩ :: more, left)
  | ⟨.pipe, _⟩ :: rest => refuse close rest (.expected .name)
  | rest => .ok ([], rest)
termination_by tokens.length
decreasing_by
  have := arguments_shorter _read
  simp
  omega

end Colloquy.Expr.Parser

namespace Colloquy.Expr

/-- The expression that a region holds: all of its tokens, and at least one. -/
def ofRegion (region : Region) : Except Failure Expr :=
  if region.tokens.isEmpty then .error ⟨.emptyRegion, region.close⟩
  else
    match Parser.primary region.close region.tokens with
    | .error failure => .error failure
    | .ok (base, left) =>
      match Parser.filters region.close left with
      | .error failure => .error failure
      | .ok (filters, []) => .ok ⟨base, filters⟩
      | .ok (_, left) => Parser.refuse region.close left (.expected .close)

/-- The expression that a region holds, or why there is none. -/
def heldBy (region : Region) : Except (Unread Failure) Expr := (ofRegion region).mapError .malformed

/-- Reads the inside of a region written without its braces. -/
def parse (source : String) : Except (Unread Failure) Expr :=
  (Region.read 0 (source.toList ++ ['\x7d', '\x7d'])).bind heldBy

end Colloquy.Expr
