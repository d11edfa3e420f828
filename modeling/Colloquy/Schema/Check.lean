import Colloquy.Check.Value
import Colloquy.Schema.Basic

/-! Reading a schema from data. Required names must be declared properties. -/
namespace Colloquy

theorem Fields.sizeOf_get?_lt {α : Type} [SizeOf α] {fields : Fields α} {name : String} {value : α}
    (found : fields.get? name = some value) : sizeOf value < sizeOf fields := by
  induction fields with
  | nil => simp [Fields.get?] at found
  | cons entry rest ih =>
    obtain ⟨key, old⟩ := entry
    unfold Fields.get? at found
    split at found
    · simp at found
      subst found
      simp +arith
    · have := ih found
      simp
      omega

namespace Schema

/-- Whether every required name is a declared property. -/
def isClosed (schema : Schema) : Bool :=
  (schema.required.getD []).all fun name => ((schema.properties.getD []).map Prod.fst).contains name

/-- A schema whose required names are declared. -/
def closed (schema : Schema) : Checked Schema :=
  if schema.isClosed then .ok schema else .complain .valueError

/-- Reads a schema. -/
def check (value : Value) : Checked Schema :=
  match value with
  | .mapping fields =>
    let properties : Checked (Option (Fields Schema)) :=
      match _found : Fields.get? fields "properties" with
      | none | some .null => .ok none
      | some (.mapping inner) =>
        (Checked.allNamed (inner.attach.map fun ⟨(name, value), _member⟩ => (name, check value))).map some
      | some _ => .complain .dictType
    let items : Checked (Option Schema) :=
      match _found : Fields.get? fields "items" with
      | none | some .null => .ok none
      | some value => (check value).map some
    match Checked.both (Check.optional fields "kind" "string" Check.text)
      (.both (Check.optional fields "description" none (Check.nullable Check.text))
        (.both (properties.within (.name "properties"))
          (.both (Check.optional fields "required" none (Check.nullable (Check.list Check.text)))
            (.both (items.within (.name "items"))
              (.both (Check.optional fields "enum_values" none (Check.nullable (Check.list Check.text)))
                (.both (Check.optional fields "constraints" [] (Check.mapping Check.int))
                  (Check.optional fields "extra" [] (Check.mapping Check.text)))))))) with
    | .ok (kind, description, properties, required, items, options, limits, extra) =>
      closed ⟨kind, description, properties, required, items, options, limits, extra⟩
    | .error issues => .error issues
  | _ => .complain .modelType
termination_by sizeOf value
decreasing_by
  · have outer := Fields.sizeOf_get?_lt _found
    have inside := List.sizeOf_lt_of_mem _member
    simp at outer inside
    simp
    omega
  · have outer := Fields.sizeOf_get?_lt _found
    simp
    omega

end Schema
end Colloquy
