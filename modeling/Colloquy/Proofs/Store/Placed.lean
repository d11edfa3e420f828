import Colloquy.Proofs.Store.Contents

/-! Values in place. A value that is put in place is seen again as it was, then and later, for as long as nobody writes
into one of the records that it was put into. -/
namespace Colloquy.Store

/-- The records of one store, from some number on, have the same members in another one. -/
def Keeps (earlier later : Store) (first : Nat) : Prop :=
  ∀ id, first ≤ id → id < earlier.records.length → later.membersOf id = earlier.membersOf id

variable {store earlier middle later : Store} {first : Nat}

theorem Extends.members (grown : earlier.Extends middle) {id : Nat} (inside : id < earlier.records.length) :
    middle.membersOf id = earlier.membersOf id := by
  have held : earlier.Holds (.record id) := inside
  exact grown.contents held

theorem Keeps.of_extends (grown : earlier.Extends middle) (keeps : middle.Keeps later first) :
    earlier.Keeps later first := by
  intro id least inside
  rw [keeps id least (Nat.lt_of_lt_of_le inside grown.records.length_le)]
  exact grown.members inside

theorem Keeps.of_later (more : first ≤ middle.records.length) (keeps : earlier.Keeps later first) :
    earlier.Keeps later middle.records.length :=
  fun id least inside => keeps id (Nat.le_trans more least) inside

theorem viewWithin_leaf (store : Store) (steps : Nat) (value : Value) : store.viewWithin steps (.leaf value) = value := by
  rw [viewWithin]

mutual

/-- A value is seen as it was put in place, in any store that keeps its records and within as many steps. -/
theorem viewWithin_place (store : Store) {later : Store} {steps : Nat} : (value : Value) →
    (store.place value).2.Keeps later store.records.length →
    (store.place value).2.records.length ≤ store.records.length + steps →
    later.viewWithin steps (store.place value).1 = value
  | .list items, keeps, within => by
    rw [place, viewWithin, viewItems_place store items keeps within]
  | .tuple items, keeps, within => by
    rw [place, viewWithin, viewItems_place store items keeps within]
  | .mapping fields, keeps, within => by
    have grown := (placeFields_extends store fields).records.length_le
    have last : (store.place (.mapping fields)).2.records =
        (store.placeFields fields).2.records ++ [(store.placeFields fields).1] := rfl
    rw [last, List.length_append, List.length_singleton] at within
    have members : later.membersOf (store.placeFields fields).2.records.length = (store.placeFields fields).1 := by
      rw [keeps _ grown (by rw [last]; simp), membersOf, last]
      simp
    have more : (store.placeFields fields).2.Extends (store.place (.mapping fields)).2 :=
      ⟨List.prefix_append _ _, List.prefix_refl _⟩
    have inner := keeps.of_extends more
    -- The record of the mapping is made last: one step leads to it, and the others to what it holds.
    obtain ⟨steps, rfl⟩ : ∃ fewer, steps = fewer + 1 := ⟨steps - 1, by omega⟩
    change later.viewWithin (steps + 1) (.record (store.placeFields fields).2.records.length) = .mapping fields
    rw [viewWithin, members, viewFields_place store fields inner (by omega)]
  | .null, _, _ | .bool _, _, _ | .int _, _, _ | .float _, _, _ | .text _, _, _ | .safe _, _, _ | .bytes _, _, _
  | .range _ _ _, _, _ | .stream _ _, _, _ | .model _ _, _, _ | .function _, _, _ | .scope _ _, _, _
  | .foreign, _, _ => viewWithin_leaf ..

theorem viewItems_place (store : Store) {later : Store} {steps : Nat} : (values : List Value) →
    (store.placeItems values).2.Keeps later store.records.length →
    (store.placeItems values).2.records.length ≤ store.records.length + steps →
    later.viewItems steps (store.placeItems values).1 = values
  | [], _, _ => by rw [placeItems, viewItems]
  | value :: rest, keeps, within => by
    have first := (place_extends store value).records.length_le
    have others := placeItems_extends (store.place value).2 rest
    have grown := others.records.length_le
    rw [placeItems] at keeps within ⊢
    rw [viewItems, viewWithin_place store value (keeps.of_extends others) (Nat.le_trans grown within),
      viewItems_place (store.place value).2 rest (keeps.of_later first) (by dsimp only at within; omega)]

theorem viewFields_place (store : Store) {later : Store} {steps : Nat} : (fields : List (String × Value)) →
    (store.placeFields fields).2.Keeps later store.records.length →
    (store.placeFields fields).2.records.length ≤ store.records.length + steps →
    later.viewFields steps (store.placeFields fields).1 = fields
  | [], _, _ => by rw [placeFields, viewFields]
  | (name, value) :: rest, keeps, within => by
    have first := (place_extends store value).records.length_le
    have others := placeFields_extends (store.place value).2 rest
    have grown := others.records.length_le
    rw [placeFields] at keeps within ⊢
    rw [viewFields, viewWithin_place store value (keeps.of_extends others) (Nat.le_trans grown within),
      viewFields_place (store.place value).2 rest (keeps.of_later first) (by dsimp only at within; omega)]

end

/-- A value in place is seen as it was put there, while the records that were made for it are kept. -/
theorem view_place {value : Value} (keeps : (store.place value).2.Keeps later store.records.length)
    (held : (store.place value).2.records.length ≤ later.records.length) : later.view (store.place value).1 = value := by
  refine viewWithin_place store value keeps ?_
  rw [reach]
  omega

end Colloquy.Store
