import Mathlib.Data.List.Chain
import Mathlib.Data.List.Forall2
import Colloquy.Expr.Eval
import Colloquy.Proofs.Fragment.Reference

/-! The fragments of a text tile it. Each character of the text belongs to one fragment; literal runs are as long as
they can be, and each fragment is what its own characters alone would be cut into. So a rendered text is the text itself
with each reference replaced once, or left as it was written. -/
namespace Colloquy.Fragment

/-! ## Literal runs -/

/-- All characters of a run are literal, given what comes after it. -/
def Literal : List Char → List Char → Prop
  | [], _ => True
  | c :: more, rest => opens c (more ++ rest).head? = false ∧ Literal more rest

section Runs
variable {c : Char} {run rest : List Char}

theorem Literal.snoc (literal : Literal run (c :: rest)) (last : opens c rest.head? = false) :
    Literal (run ++ [c]) rest := by
  induction run with
  | nil => exact ⟨last, trivial⟩
  | cons d run ih =>
    obtain ⟨first, more⟩ := literal
    refine ⟨?_, ih more⟩
    change opens d (run ++ [c] ++ rest).head? = false
    rwa [List.append_assoc]

/-- A literal run is literal on its own. -/
theorem Literal.alone (literal : Literal run rest) : Literal run [] := by
  induction run with
  | nil => trivial
  | cons d run ih =>
    obtain ⟨first, more⟩ := literal
    refine ⟨?_, ih more⟩
    cases run with
    | nil => exact opens_none d
    | cons e run => exact first

theorem cut_run (literal : Literal run rest) (position : Nat) (before : List Char) :
    cut position before (run ++ rest) = cut (position + run.length) (run.reverse ++ before) rest := by
  induction run generalizing position before with
  | nil => rfl
  | cons c run ih =>
    obtain ⟨first, more⟩ := literal
    rw [List.cons_append, cut_literal position before first, ih more, List.reverse_cons, List.append_assoc,
      List.length_cons, Nat.add_right_comm, Nat.add_assoc]
    rfl

end Runs

/-! ## Tilings -/

/-- A literal run, not a reference. -/
def isText : Fragment → Bool
  | text _ => true
  | reference .. => false

/-- The fragments of a text that starts at some offset, one after the other. -/
inductive Tiles : Nat → List Char → List Fragment → Prop where
  | done {position : Nat} : Tiles position [] []
  | text {position : Nat} {run rest : List Char} {fragments : List Fragment} (nonempty : run ≠ [])
      (literal : Literal run rest) (apart : ∀ fragment, fragments.head? = some fragment → fragment.isText = false)
      (more : Tiles (position + run.length) rest fragments) :
      Tiles position (run ++ rest) (.text (String.ofList run) :: fragments)
  | reference {position : Nat} {expr : Expr} {word rest : List Char} {fragments : List Fragment}
      (refers : Refers expr word rest) (more : Tiles (position + word.length) rest fragments) :
      Tiles position (word ++ rest) (.reference expr (String.ofList word) position :: fragments)

/-- A run is put in front of a tiling that starts with no other run. -/
theorem Tiles.flush {position start : Nat} {run rest : List Char} {fragments : List Fragment}
    (tiles : Tiles position rest fragments) (here : position = start + run.length) (literal : Literal run.reverse rest)
    (apart : ∀ fragment, fragments.head? = some fragment → fragment.isText = false) :
    Tiles start (run.reverse ++ rest) (Fragment.flush run fragments) := by
  subst here
  cases run with
  | nil => exact tiles
  | cons c run =>
    rw [← List.length_reverse] at tiles
    exact .text (by simp) literal apart tiles

/-- Cutting a text tiles it. -/
theorem cut_tiles (position : Nat) (run cs : List Char) :
    ∀ start fragments, position = start + run.length → Literal run.reverse cs → cut position run cs = .ok fragments →
      Tiles start (run.reverse ++ cs) fragments := by
  induction position, run, cs using cut_induction with
  | done position run =>
    intro start fragments here literal parsed
    rw [cut_nil] at parsed
    cases parsed
    exact Tiles.done.flush here literal (by simp)
  | literal position run c rest plain ih =>
    intro start fragments here literal parsed
    rw [cut_literal _ _ plain] at parsed
    have tiles := ih start fragments (by simp [here, Nat.add_assoc]) (by simpa using literal.snoc plain) parsed
    simpa using tiles
  | reference position run expr word left refers ih =>
    intro start fragments here literal parsed
    rw [cut_reference _ _ refers] at parsed
    obtain ⟨more, cutMore, same⟩ := eq_ok_of_map parsed
    subst same
    have tiles : Tiles (position + word.length) left more := by
      simpa using ih (position + word.length) more (by simp) trivial cutMore
    refine (Tiles.reference refers tiles).flush here literal ?_
    rintro fragment ⟨⟩
    rfl
  | broken position run rest reason broken =>
    intro start fragments here literal parsed
    rw [cut_broken _ _ broken] at parsed
    cases parsed
  | oversized position run rest numeral read =>
    intro start fragments here literal parsed
    rw [cut_oversized _ _ read] at parsed
    cases parsed

theorem tiles_of_parse {source : String} {fragments : List Fragment} (parsed : parse source = .ok fragments) :
    Tiles 0 source.toList fragments := by
  unfold parse at parsed
  split at parsed
  · rename_i found known
    cases parsed
    simpa using cut_tiles 0 [] source.toList 0 fragments rfl trivial known
  · cases parsed
  · cases parsed

/-! ## What a tiling says -/

/-- The same fragment at the start of a text. -/
def atStart : Fragment → Fragment
  | text s => text s
  | reference expr source _ => reference expr source 0

section Facts
variable {position : Nat} {cs : List Char} {fragments : List Fragment}

theorem Tiles.join (tiles : Tiles position cs fragments) :
    String.join (fragments.map Fragment.source) = String.ofList cs := by
  induction tiles with
  | done => rfl
  | text nonempty literal apart more ih => rw [List.map_cons, String.join_cons, ih, String.ofList_append]; rfl
  | reference refers more ih => rw [List.map_cons, String.join_cons, ih, String.ofList_append]; rfl

/-- What comes after some fragments of a tiling tiles the rest of the text. -/
theorem Tiles.after {before after : List Fragment} (tiles : Tiles position cs (before ++ after)) :
    ∃ rest, Tiles (position + (String.join (before.map Fragment.source)).length) rest after := by
  induction before generalizing position cs with
  | nil => exact ⟨cs, tiles⟩
  | cons first before ih =>
    rw [List.map_cons, String.join_cons, String.length_append, ← Nat.add_assoc]
    cases tiles with
    | text nonempty literal apart more =>
      rw [Fragment.source, String.length_ofList]
      exact ih more
    | reference refers more =>
      rw [Fragment.source, String.length_ofList]
      exact ih more

theorem Tiles.nonempty (tiles : Tiles position cs fragments) : .text "" ∉ fragments := by
  induction tiles with
  | done => simp
  | @text _ run _ _ nonempty literal apart more ih =>
    intro member
    rcases List.mem_cons.mp member with empty | later
    · have none := congrArg String.toList (Fragment.text.inj empty).symm
      rw [String.toList_ofList] at none
      exact nonempty none
    · exact ih later
  | reference refers more ih =>
    intro member
    rcases List.mem_cons.mp member with same | later
    · cases same
    · exact ih later

theorem Tiles.apart (tiles : Tiles position cs fragments) :
    fragments.IsChain fun first second => first.isText = false ∨ second.isText = false := by
  induction tiles with
  | done => exact .nil
  | text nonempty literal apart more ih => exact List.isChain_cons.mpr ⟨fun second head => .inr (apart second head), ih⟩
  | reference refers more ih => exact List.isChain_cons.mpr ⟨fun _ _ => .inl rfl, ih⟩

theorem parse_literal {run : List Char} (nonempty : run ≠ []) (literal : Literal run []) :
    parse (String.ofList run) = .ok [.text (String.ofList run)] := by
  have whole := cut_run literal 0 []
  rw [List.append_nil, List.append_nil, cut_nil] at whole
  rw [parse, String.toList_ofList, whole]
  simp [flush, nonempty]

theorem parse_reference {expr : Expr} {word : List Char} (refers : Refers expr word []) :
    parse (String.ofList word) = .ok [.reference expr (String.ofList word) 0] := by
  have whole := cut_reference 0 [] refers
  rw [List.append_nil, cut_nil] at whole
  rw [parse, String.toList_ofList, whole]
  rfl

/-- A text in double braces. -/
def braced (inside : String) : String := "\x7b\x7b" ++ inside ++ "\x7d\x7d"

theorem toList_braced (inside : String) :
    (braced inside).toList = '\x7b' :: '\x7b' :: (inside.toList ++ ['\x7d', '\x7d']) := by
  simp [braced]

/-- What writes an expression is a reference to it in braces. -/
theorem parse_braced {tree : Expr.Tree} {text : List Char} (writes : tree.Writes text) :
    parse (braced (String.ofList text)) = .ok [.reference tree.expr (braced (String.ofList text)) 0] := by
  have same : braced (String.ofList text) = String.ofList ('\x7b' :: '\x7b' :: (text ++ ['\x7d', '\x7d'])) := by
    rw [← String.toList_inj, toList_braced, String.toList_ofList, String.toList_ofList]
  rw [same]
  exact parse_reference (.region writes)

theorem Tiles.alone (tiles : Tiles position cs fragments) :
    ∀ fragment ∈ fragments, parse fragment.source = .ok [fragment.atStart] := by
  induction tiles with
  | done => simp
  | text nonempty literal apart more ih =>
    intro fragment member
    rcases List.mem_cons.mp member with rfl | later
    · exact parse_literal nonempty literal.alone
    · exact ih fragment later
  | reference refers more ih =>
    intro fragment member
    rcases List.mem_cons.mp member with rfl | later
    · exact parse_reference refers.alone
    · exact ih fragment later

end Facts

/-! ## Rendering -/

/-- What becomes of a fragment: a literal run and a reference without a value stay as they are written, and any other
reference becomes the text of its value, whatever is in that text. -/
inductive Becomes (bindings : Bindings) : Fragment → String → Prop where
  | text {s : String} : Becomes bindings (.text s) s
  | unbound {expr : Expr} {written : String} {position : Nat} (unbound : expr.eval bindings = .ok none) :
      Becomes bindings (.reference expr written position) written
  | bound {expr : Expr} {written : String} {position : Nat} {value : Value}
      (bound : expr.eval bindings = .ok (some value)) :
      Becomes bindings (.reference expr written position) value.messageText

theorem render_iff {bindings : Bindings} {fragment : Fragment} {out : String} :
    fragment.render bindings = .ok out ↔ Becomes bindings fragment out := by
  constructor
  · intro rendered
    unfold render at rendered
    split at rendered
    · cases rendered
      exact .text
    · split at rendered
      · rename_i bound
        cases rendered
        exact .bound bound
      · rename_i unbound
        cases rendered
        exact .unbound unbound
      · cases rendered
  · intro becomes
    cases becomes with
    | text => rfl
    | unbound unbound => simp [render, unbound]
    | bound bound => simp [render, bound]

/-- A text is rendered piece by piece. -/
theorem renderAll_iff {bindings : Bindings} {fragments : List Fragment} {out : String} :
    renderAll bindings fragments = .ok out ↔
      ∃ pieces, List.Forall₂ (Becomes bindings) fragments pieces ∧ out = String.join pieces := by
  induction fragments generalizing out with
  | nil =>
    constructor
    · intro rendered
      cases rendered
      exact ⟨[], .nil, rfl⟩
    · rintro ⟨pieces, becomes, rfl⟩
      cases becomes
      rfl
  | cons fragment rest ih =>
    constructor
    · intro rendered
      unfold renderAll at rendered
      split at rendered
      · cases rendered
      · rename_i piece first
        obtain ⟨others, later, rfl⟩ := eq_ok_of_map rendered
        obtain ⟨pieces, becomes, rfl⟩ := ih.mp later
        exact ⟨piece :: pieces, .cons (render_iff.mp first) becomes, String.join_cons.symm⟩
    · rintro ⟨pieces, becomes, rfl⟩
      cases becomes with
      | cons first others =>
        rw [renderAll, render_iff.mpr first, ih.mpr ⟨_, others, rfl⟩, String.join_cons]
        rfl

/-- The fragments of a text, and what they say about it. -/
structure Tiling (source : String) (fragments : List Fragment) : Prop where
  join : String.join (fragments.map Fragment.source) = source
  position : ∀ before expr written place after, fragments = before ++ .reference expr written place :: after →
    place = (String.join (before.map Fragment.source)).length
  nonempty : .text "" ∉ fragments
  apart : fragments.IsChain fun first second => first.isText = false ∨ second.isText = false
  alone : ∀ fragment ∈ fragments, parse fragment.source = .ok [fragment.atStart]

/-- A text is cut into fragments that tile it, and rendering it replaces each of them by itself. -/
theorem parse_tiling {source : String} {fragments : List Fragment} (parsed : parse source = .ok fragments) :
    Tiling source fragments ∧ ∀ bindings out, renderAll bindings fragments = .ok out ↔
      ∃ pieces, List.Forall₂ (Becomes bindings) fragments pieces ∧ out = String.join pieces := by
  have tiles := tiles_of_parse parsed
  constructor
  · refine ⟨?_, ?_, tiles.nonempty, tiles.apart, tiles.alone⟩
    · rw [tiles.join, String.ofList_toList]
    · rintro before expr written place after rfl
      obtain ⟨rest, tilesRest⟩ := tiles.after
      rw [Nat.zero_add] at tilesRest
      cases tilesRest
      rfl
  · exact fun bindings out => renderAll_iff

/-- A name that is not bound stays as it is written, and so does a reference in the value of another one. -/
theorem parse_tiling_unbound : ∃ fragments,
    parse "Dear \x7b\x7b who \x7d\x7d, $n." = .ok fragments ∧
    Tiling "Dear \x7b\x7b who \x7d\x7d, $n." fragments ∧
    renderAll (fun name => if name = "n" then some (.text "\x7b\x7bwho\x7d\x7d") else none) fragments =
      .ok "Dear \x7b\x7b who \x7d\x7d, \x7b\x7bwho\x7d\x7d." := by
  have parsed : parse "Dear \x7b\x7b who \x7d\x7d, $n." = .ok [.text "Dear ",
      .reference (.ofPath ⟨"who", []⟩) "\x7b\x7b who \x7d\x7d" 5, .text ", ", .reference (.ofPath ⟨"n", []⟩) "$n" 16,
      .text "."] := by decide +kernel
  obtain ⟨tiling, rendered⟩ := parse_tiling parsed
  have bound : (Expr.ofPath ⟨"n", []⟩).eval (fun name =>
      if name = "n" then some (.text "\x7b\x7bwho\x7d\x7d") else none) =
        .ok (some (.text "\x7b\x7bwho\x7d\x7d")) := rfl
  refine ⟨_, parsed, tiling, (rendered _ _).mpr
    ⟨["Dear ", "\x7b\x7b who \x7d\x7d", ", ", "\x7b\x7bwho\x7d\x7d", "."], ?_, by decide +kernel⟩⟩
  exact .cons .text (.cons (.unbound rfl) (.cons .text (.cons (.bound bound) (.cons .text .nil))))

end Colloquy.Fragment
