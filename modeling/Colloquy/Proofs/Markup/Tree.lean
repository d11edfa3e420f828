import Colloquy.Markup.Node

/-! Trees of elements. What is shown of an element from its child elements holds of every element. -/
namespace Colloquy.Markup.Element

theorem mem_elements {e child : Element} : child ∈ e.elements ↔ .element child ∈ e.children := by
  simp only [elements, List.mem_filterMap]
  constructor
  · rintro ⟨node, member, found⟩
    cases node with
    | text value => cases found
    | comment value => cases found
    | element other =>
      cases found
      exact member
  · intro member
    exact ⟨.element child, member, rfl⟩

theorem sizeOf_lt_of_mem {e child : Element} (member : child ∈ e.elements) : sizeOf child < sizeOf e := by
  have inside := List.sizeOf_lt_of_mem (mem_elements.mp member)
  obtain ⟨tag, attributes, children⟩ := e
  simp only [Node.element.sizeOf_spec, Element.mk.sizeOf_spec] at inside ⊢
  omega

/-- Induction over the child elements. -/
theorem tree_induction {motive : Element → Prop} (step : ∀ e, (∀ child ∈ e.elements, motive child) → motive e)
    (e : Element) : motive e :=
  step e fun child _ => tree_induction step child
termination_by sizeOf e
decreasing_by exact sizeOf_lt_of_mem ‹_›

end Colloquy.Markup.Element
