import Mathlib.Algebra.Order.BigOperators.Group.List
import Mathlib.Algebra.Order.Group.Nat
import Colloquy.Proofs.Json.Size
import Colloquy.Proofs.Text.Blank
import Colloquy.Proofs.Text.Wrap
import Colloquy.Reading

/-! What an outline shows of some data: all characters of the data written on one line, in that order, and otherwise
blanks. So neither the wrapping of texts nor the indentation of lines hides anything from whoever reads it. -/
namespace Colloquy.Json

/-- The list or object that a text holds, when it is the text of one. -/
def held? (s : String) : Option Json :=
  match read? s with
  | some (.list items) => some (.list items)
  | some (.object fields) => some (.object fields)
  | _ => none

theorem held?_size {s : String} {data : Json} (held : held? s = some data) : data.size < s.length := by
  unfold held? at held
  split at held
  · cases held
    exact read?_size ‹_›
  · cases held
    exact read?_size ‹_›
  · cases held

/-- A text in double quotes, its characters as they are. -/
def inQuotes (s : String) : List Char := '"' :: s.toList ++ ['"']

mutual

/-- A value on one line. In place of a text that holds data stand the data. -/
def plain (value : Json) : List Char :=
  match value with
  | .null => "null".toList
  | .bool true => "true".toList
  | .bool false => "false".toList
  | .int n => (toString n).toList
  | .float x => (Decimal.floatText x).toList
  | .text s =>
    match _held : held? s with
    | some data => plain data
    | none => inQuotes s
  | .list items => '[' :: plainItems items ++ [']']
  | .object fields => '\x7b' :: plainFields fields ++ ['\x7d']
termination_by (value.size, sizeOf value)
decreasing_by
  · exact Prod.Lex.left _ _ (held?_size _held)
  · exact Prod.Lex.right' _ (Nat.le_of_eq (size_list items).symm) (by simp)
  · exact Prod.Lex.right' _ (Nat.le_of_eq (size_object fields).symm) (by simp)

/-- The items of a list, with commas between them. -/
def plainItems (items : List Json) : List Char :=
  match items with
  | [] => []
  | [item] => plain item
  | item :: next :: rest => plain item ++ [',', ' '] ++ plainItems (next :: rest)
termination_by ((items.map size).sum, sizeOf items)
decreasing_by
  all_goals exact Prod.Lex.right' _ (by simp) (by simp +arith)

/-- The members of an object, with commas between them. -/
def plainFields (fields : List (String × Json)) : List Char :=
  match fields with
  | [] => []
  | [(name, value)] => inQuotes name ++ [':', ' '] ++ plainMember value
  | (name, value) :: next :: rest =>
    inQuotes name ++ [':', ' '] ++ plainMember value ++ [',', ' '] ++ plainFields (next :: rest)
termination_by ((fields.map fun entry => size entry.2).sum, sizeOf fields)
decreasing_by
  all_goals exact Prod.Lex.right' _ (by simp) (by simp +arith)

/-- The value of a member. A text there stands for itself. -/
def plainMember (value : Json) : List Char :=
  match value with
  | .text s => inQuotes s
  | value => plain value
termination_by (value.size, 1 + sizeOf value)
decreasing_by exact Prod.Lex.right' _ (Nat.le_refl _) (by omega)

end

end Colloquy.Json

namespace Colloquy.Outline
open Text Json

theorem embedded?_eq (s : String) : embedded? s = (held? s).map ofJson := by
  unfold embedded? held?
  cases read? s with
  | none => rfl
  | some value => cases value <;> rfl

theorem visible_margin (frame : Frame) (level : Int) : visible (frame.margin level).toList = [] := by
  rw [Frame.margin, String.toList_ofList, visible_replicate]

/-! ## Texts under a name -/

theorem visible_paragraphs {frame : Frame} {room : Nat} {paragraphs parts : List (List Char)}
    (filled : paragraphs.mapM (fun paragraph => Wrap.fill (frame.width - room) room paragraph) = .ok parts) :
    visible parts.flatten = visible paragraphs.flatten := by
  induction paragraphs generalizing parts with
  | nil =>
    cases filled
    rfl
  | cons paragraph rest ih =>
    rw [List.mapM_cons] at filled
    obtain ⟨first, here, others⟩ := eq_ok_of_bind filled
    obtain ⟨more, later, made⟩ := eq_ok_of_bind others
    cases made
    rw [List.flatten_cons, List.flatten_cons, visible_append, visible_append, Wrap.visible_fill here, ih later]

theorem visible_trimBy (cs : List Char) : visible (trimBy isBlank cs) = visible cs := by
  obtain ⟨before, after, split, front, back⟩ := trimBy_split isBlank cs
  conv_rhs => rw [split]
  rw [visible_append, visible_append, visible_eq_nil front, visible_eq_nil back, List.nil_append, List.append_nil]

theorem visible_inQuotes (s : String) : visible (inQuotes s) = '"' :: visible s.toList ++ ['"'] := by
  rw [inQuotes, visible_append, visible_cons]
  rfl

theorem visible_quoted (s : String) : visible ("\"" ++ s ++ "\"").toList = visible (inQuotes s) := by
  rw [String.toList_append, String.toList_append, visible_append, visible_append, visible_inQuotes]
  rfl

/-- A text that is wrapped beside its name shows all of its characters. -/
theorem visible_wrapped {frame : Frame} {room : Nat} {s shown : String} (laid : wrapped frame room s = .ok shown) :
    visible shown.toList = visible (inQuotes s) := by
  obtain ⟨parts, filled, rfl⟩ := eq_ok_of_map laid
  have lineEnd : ∀ c ∈ ['\n'], isBlank c = true := by
    intro c member
    rw [List.mem_singleton.mp member]
    decide
  have gap : ∀ c ∈ List.replicate room ' ' ++ ['\n'], isBlank c = true := by
    intro c member
    rcases List.mem_append.mp member with space | last
    · rw [List.eq_of_mem_replicate space]
      decide
    · exact lineEnd c last
  have inside : visible (trimBy isBlank ((List.replicate room ' ' ++ ['\n']).intercalate parts)) = visible s.toList := by
    rw [visible_trimBy, visible_intercalate gap, visible_paragraphs filled, ← visible_intercalate lineEnd,
      List.intercalate_splitOn]
  rw [visible_quoted, visible_inQuotes, visible_inQuotes, String.toList_ofList, inside]

/-! ## Every kind of data -/

theorem visible_label {margin : String} (blank : visible margin.toList = []) (name : String) :
    visible (label margin name).toList = visible (inQuotes name ++ [':', ' ']) := by
  have opening : visible "  \"".toList = ['"'] := by decide
  have closing : visible "\": ".toList = ['"', ':'] := by decide
  have colon : visible [':', ' '] = [':'] := by decide
  simp only [label, String.toList_append, visible_append, blank, visible_inQuotes, opening, closing, colon,
    List.nil_append, List.cons_append, List.append_assoc]

/-- The lines of a list's items show the items if each item is shown. -/
theorem visible_layItems {frame : Frame} {depth : Nat} {level : Int} {margin lines : String} {item : Json}
    {rest : List Json} (blank : visible margin.toList = [])
    (each : ∀ one ∈ item :: rest, ∀ shown, layAt frame depth (level + 1) (ofJson one) = .ok shown →
      visible shown.toList = visible one.plain)
    (laid : layItems frame depth level margin (ofJson item) (ofItems rest) = .ok lines) :
    visible lines.toList = visible (plainItems (item :: rest)) := by
  have indent : visible "  ".toList = [] := by decide
  have comma : visible ",\n".toList = visible [',', ' '] := by decide
  induction rest generalizing item lines with
  | nil =>
    rw [ofItems, layItems] at laid
    split at laid
    · cases laid
    · rename_i shown first
      cases laid
      have here := each item List.mem_cons_self shown first
      rw [plainItems]
      simp only [String.toList_append, visible_append, blank, indent, here, List.nil_append]
  | cons next rest ih =>
    rw [ofItems, layItems] at laid
    split at laid
    · cases laid
    · rename_i shown first
      obtain ⟨more, later, rfl⟩ := eq_ok_of_map laid
      have here := each item List.mem_cons_self shown first
      have others := ih (fun one member => each one (List.mem_cons_of_mem _ member)) later
      rw [plainItems]
      simp only [String.toList_append, visible_append, blank, indent, here, others, comma, List.nil_append]

/-- A member shows its name, and its value if that is shown. -/
theorem visible_member {frame : Frame} {margin name whole shown : String} {value : Json}
    (plainly : visible whole.toList = visible value.plain)
    (laid : (match ofJson value with
      | .text s => wrapped frame (label margin name).length s
      | _ => .ok whole) = .ok shown) : visible shown.toList = visible value.plainMember := by
  cases value with
  | text s =>
    rw [plainMember]
    exact visible_wrapped laid
  | _ =>
    cases laid
    simpa [plainMember] using plainly

/-- The lines of an object's members show the members if each value is shown. -/
theorem visible_layFields {frame : Frame} {depth : Nat} {level : Int} {margin name lines : String} {value : Json}
    {rest : List (String × Json)} (blank : visible margin.toList = [])
    (each : ∀ one ∈ (name, value) :: rest, ∀ shown, layAt frame depth (level + 1) (ofJson one.2) = .ok shown →
      visible shown.toList = visible one.2.plain)
    (laid : layFields frame depth level margin name (ofJson value) (ofFields rest) = .ok lines) :
    visible lines.toList = visible (plainFields ((name, value) :: rest)) := by
  have before (name : String) := visible_label blank name
  have comma : visible ",\n".toList = visible [',', ' '] := by decide
  induction rest generalizing name value lines with
  | nil =>
    rw [ofFields, layFields] at laid
    split at laid
    · cases laid
    · rename_i whole first
      split at laid
      · cases laid
      · rename_i shown second
        cases laid
        have here := visible_member (each _ List.mem_cons_self whole first) second
        rw [plainFields]
        simp only [String.toList_append, visible_append, before, here]
  | cons entry rest ih =>
    obtain ⟨next, held⟩ := entry
    rw [ofFields, layFields] at laid
    split at laid
    · cases laid
    · rename_i whole first
      split at laid
      · cases laid
      · rename_i shown second
        obtain ⟨more, later, rfl⟩ := eq_ok_of_map laid
        have here := visible_member (each _ List.mem_cons_self whole first) second
        have others := ih (fun one member => each one (List.mem_cons_of_mem _ member)) later
        rw [plainFields]
        simp only [String.toList_append, visible_append, before, here, others, comma]

/-- What is laid out at a level shows what the data are on one line. -/
theorem visible_layAt {frame : Frame} {depth : Nat} {level : Int} {value : Json} {shown : String}
    (enough : value.size ≤ depth) (laid : layAt frame depth level (ofJson value) = .ok shown) :
    visible shown.toList = visible value.plain := by
  match value with
  | .null | .int n | .float x =>
    rw [ofJson, layAt] at laid
    cases laid
    rw [Json.plain]
  | .bool b =>
    rw [ofJson, layAt] at laid
    cases laid
    cases b <;> rw [Json.plain] <;> rfl
  | .text s =>
    have room : s.length ≤ depth := enough
    rw [Json.plain]
    cases held : held? s with
    | some data =>
      -- The data are smaller than the text, so that there are openings left for the texts in them.
      have smaller := held?_size held
      cases depth with
      | zero => omega
      | succ depth =>
        rw [ofJson, layAt, embedded?_eq, held] at laid
        exact visible_layAt (by omega) laid
    | none =>
      have whole : shown = "\"" ++ s ++ "\"" := by
        cases depth with
        | zero =>
          rw [ofJson, layAt] at laid
          cases laid
          rfl
        | succ depth =>
          rw [ofJson, layAt, embedded?_eq, held] at laid
          cases laid
          rfl
      rw [whole, visible_quoted]
  | .list [] =>
    rw [ofJson, ofItems, layAt] at laid
    cases laid
    rw [Json.plain, plainItems]
    rfl
  | .list (item :: rest) =>
    rw [ofJson, ofItems, layAt] at laid
    obtain ⟨lines, inside, rfl⟩ := eq_ok_of_map laid
    rw [size_list] at enough
    have each := visible_layItems (visible_margin frame level) (fun one member shown laid =>
      visible_layAt (Nat.le_trans (List.le_sum_of_mem (List.mem_map_of_mem member)) enough) laid) inside
    have opening : visible "[\n".toList = ['['] := by decide
    have lineEnd : visible "\n".toList = [] := by decide
    rw [Json.plain, visible_append, visible_cons]
    simp only [String.toList_append, visible_append, each, visible_margin, opening, lineEnd, List.append_nil]
    rfl
  | .object [] =>
    rw [ofJson, ofFields, layAt] at laid
    cases laid
    rw [Json.plain, plainFields]
    rfl
  | .object ((name, first) :: rest) =>
    rw [ofJson, ofFields, layAt] at laid
    obtain ⟨lines, inside, rfl⟩ := eq_ok_of_map laid
    rw [size_object] at enough
    have each := visible_layFields (visible_margin frame level) (fun one member shown laid =>
      visible_layAt (Nat.le_trans (List.le_sum_of_mem
        (List.mem_map_of_mem (f := fun entry : String × Json => entry.2.size) member)) enough) laid) inside
    have opening : visible "\x7b\n".toList = ['\x7b'] := by decide
    have lineEnd : visible "\n".toList = [] := by decide
    rw [Json.plain, visible_append, visible_cons]
    simp only [String.toList_append, visible_append, each, visible_margin, opening, lineEnd, List.append_nil]
    rfl
termination_by (depth, sizeOf value)
decreasing_by
  · exact Prod.Lex.left _ _ (by omega)
  · have smaller := List.sizeOf_lt_of_mem member
    refine Prod.Lex.right _ ?_
    rw [Json.list.sizeOf_spec]
    omega
  · have smaller := List.sizeOf_lt_of_mem member
    have inside : sizeOf one = 1 + sizeOf one.1 + sizeOf one.2 := by cases one; rfl
    refine Prod.Lex.right _ ?_
    rw [Json.object.sizeOf_spec]
    omega

/-- Whenever data are laid out, at any width, indentation and level, what can be seen of the layout is what can be seen
of the data on one line. -/
theorem lay_shows {frame : Frame} {level : Int} {value : Json} {shown : String}
    (laid : lay frame level (ofJson value) = .ok shown) : visible shown.toList = visible value.plain :=
  visible_layAt (Nat.le_refl _) laid

/-- A text that is wrapped under its name, and a text in a list that holds data. -/
theorem lay_shows_tide :
    let note := Json.object [("tide", .text "low tide"), ("at", .list [.text "[1]", .bool true])]
    let shown := "\x7b\n  \"tide\": \"low \n           tide\",\n  \"at\": [\n    [\n      1\n    ],\n    true\n  ]\n\x7d"
    lay ⟨25, 2⟩ 0 (ofJson note) = .ok shown ∧ visible shown.toList = visible note.plain := by
  have word : embedded? "low tide" = none := rfl
  have list : embedded? "[1]" = some (.list [.word "1"]) := rfl
  have size : "low tide".length + "[1]".length = 11 := rfl
  have room : "  \"tide\": ".length = 10 := rfl
  have broken : wrapped ⟨25, 2⟩ 10 "low tide" = .ok "\"low \n           tide\"" := by
    decide +kernel
  intro note shown
  have laid : lay ⟨25, 2⟩ 0 (ofJson note) = .ok shown := by
    simp [lay, note, shown, ofJson, ofItems, ofFields, textSize, fieldsSize, itemsSize, layAt, layFields, layItems,
      size, word, list, label, room, Frame.margin, broken, Except.map]
  exact ⟨laid, lay_shows laid⟩

end Colloquy.Outline
