import SchemaBeans.Schema.Basic

/-!
# The shape of two keywords

The readers of `required` and `properties` refuse a value exactly if it does not have the shape
they ask for: `required` is an array of texts (`requiredNames_eq_ok_iff`), and `properties` is
absent, null or an object (`properties?_eq_ok_iff`).
-/
namespace SchemaBeans

/-- The texts of an array of texts are read in order. -/
theorem textItems_map_string (index : Nat) (entries : List String) :
    textItems index (entries.map .string) = .ok entries := by
  induction entries generalizing index with
  | nil => rfl
  | cons entry rest ih =>
    rw [List.map_cons, textItems, ih]
    rfl

/-- Only an array of texts is read as texts. -/
theorem eq_map_string_of_textItems {index : Nat} {items : List Json} {entries : List String}
    (read : textItems index items = .ok entries) : items = entries.map .string := by
  induction items generalizing index entries with
  | nil =>
    obtain rfl : [] = entries := Except.ok.inj read
    rfl
  | cons item rest ih =>
    cases item with
    | string text =>
      simp only [textItems] at read
      cases later : textItems (index + 1) rest with
      | error defect => simp [later, Except.map] at read
      | ok texts =>
        obtain rfl : text :: texts = entries := by simpa [later, Except.map] using read
        rw [ih later, List.map_cons]
    | _ => simp [textItems] at read

/-- The names in a value are read exactly if it is an array of texts. -/
theorem requiredNames_eq_ok_iff {node : Json} {source : Option String} {entries : List String} :
    requiredNames node source = .ok entries ↔ node = .array (entries.map .string) := by
  constructor
  · intro read
    cases node with
    | array items =>
      rw [requiredNames] at read
      cases texts : textItems 0 items with
      | error defect =>
        rw [texts] at read
        cases read
      | ok found =>
        rw [texts] at read
        obtain rfl := Except.ok.inj read
        rw [eq_map_string_of_textItems texts]
    | _ => simp [requiredNames] at read
  · rintro rfl
    rw [requiredNames, textItems_map_string]
    rfl

namespace Schema

/-- The properties that a schema declares; anything but an object declares none. -/
def declared (schema : Schema) : Option (Entries Json) :=
  (schema.get? "properties").bind Json.entries?

/-- The value of `properties` is absent, null or an object. -/
def ShapedProperties (schema : Schema) : Prop :=
  ∀ value, schema.get? "properties" = some value →
    value = .null ∨ ∃ properties, value = .object properties

/-- The declared properties are read exactly if the keyword has its shape. -/
theorem properties?_eq_ok_iff {schema : Schema} {properties : Option (Entries Json)} :
    schema.properties? = .ok properties ↔
      schema.ShapedProperties ∧ properties = schema.declared := by
  unfold properties? ShapedProperties declared
  cases found : schema.get? "properties" with
  | none => simp [eq_comm]
  | some value => cases value <;> simp [Json.entries?, eq_comm]

end Schema

end SchemaBeans
