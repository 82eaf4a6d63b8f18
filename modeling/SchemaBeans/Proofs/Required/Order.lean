import SchemaBeans.Proofs.Required.Annotations
import SchemaBeans.Proofs.Schema.Shape

/-!
# The order of required entries

The rule for `required` marks fields in the order of its entries, and several entries may lead to
one field. Two entries can mark in either order (`markEntry_comm`), whether they lead to one field
or to two, and whether or not other fields have the name of a field. The accessors are marked by
which names were collected, and not by when. So the class depends on which entries there are and
how often, and not on their order (`apply_perm`).
-/
namespace SchemaBeans

/-- The first items of two kinds can be changed in either order by a change that keeps both
kinds. -/
theorem modifyFirst_comm {α : Type} {isOne isOther : α → Bool} {change : α → α}
    (keepsOne : ∀ item, isOne (change item) = isOne item)
    (keepsOther : ∀ item, isOther (change item) = isOther item) (items : List α) :
    modifyFirst isOne change (modifyFirst isOther change items) =
      modifyFirst isOther change (modifyFirst isOne change items) := by
  induction items with
  | nil => rfl
  | cons item rest ih =>
    cases one : isOne item <;> cases other : isOther item <;>
      simp [modifyFirst, one, other, keepsOne, keepsOther, ih]

/-- The fields of two names can be changed in either order by a change that keeps names. -/
theorem ClassModel.modifyField_comm {change : FieldModel → FieldModel}
    (keeps : ∀ field, (change field).name = field.name) (target : ClassModel)
    (first second : String) :
    (target.modifyField first change).modifyField second change =
      (target.modifyField second change).modifyField first change := by
  have named (name : String) (field : FieldModel) :
      ((change field).name == name) = (field.name == name) := by
    rw [keeps]
  unfold modifyField
  rw [modifyFirst_comm (named second) (named first)]

namespace Required

variable (context : RuleContext) (properties : Option (Entries Json))

/-- Marking keeps the name of a field. -/
theorem name_markField (field : FieldModel) : (markField context field).name = field.name := by
  rw [markField_eq]

/-- Two entries can mark their fields in either order. -/
theorem markEntry_comm (target : ClassModel) (first second : String) :
    markEntry context properties (markEntry context properties target first) second =
      markEntry context properties (markEntry context properties target second) first :=
  ClassModel.modifyField_comm (name_markField context) target _ _

/-- Which methods are marked depends on which names are listed. -/
theorem markMethods_congr {first second : List String}
    (same : ∀ name, name ∈ first ↔ name ∈ second) (target : ClassModel) :
    markMethods first target = markMethods second target := by
  have listed (name : String) : first.contains name = second.contains name := by
    rw [Bool.eq_iff_iff, List.contains_iff_mem, List.contains_iff_mem, same]
  unfold markMethods
  simp only [listed]

/-- Entries in another order mark the same. -/
theorem markEntries_perm {first second : List String} (order : first.Perm second)
    (target : ClassModel) :
    markEntries context properties first target = markEntries context properties second target := by
  have fields : first.foldl (markEntry context properties) target =
      second.foldl (markEntry context properties) target :=
    order.foldl_eq' (fun one _ other _ reached =>
      markEntry_comm context properties reached one other) target
  have methods (name : String) :
      name ∈ first.flatMap (accessorNames context properties target) ↔
        name ∈ second.flatMap (accessorNames context properties target) :=
    (order.flatMap_right _).mem_iff
  unfold markEntries
  rw [fields, markMethods_congr methods]

/-- The rule succeeds on arrays of texts, and gives one class for two arrays that differ in the
order of their texts alone. -/
theorem apply_perm {schema : Schema} (shaped : schema.ShapedProperties)
    {first second : List String} (order : first.Perm second) (target : ClassModel) :
    ∃ result, apply context (.array (first.map .string)) schema target = .done result ∧
      apply context (.array (second.map .string)) schema target = .done result := by
  have names (entries : List String) :
      requiredNames (.array (entries.map .string)) schema.source = .ok entries :=
    requiredNames_eq_ok_iff.mpr rfl
  have declared := Schema.properties?_eq_ok_iff.mpr ⟨shaped, rfl⟩
  refine ⟨markEntries context schema.declared first target, ?_, ?_⟩
  · rw [apply, names, declared]
  · rw [apply, names, declared, markEntries_perm context schema.declared order]

/-- Entries that lead to one field by two spellings, and one twice, in a class that has two fields
of its name. -/
theorem apply_perm_two_spellings :
    let context : RuleContext := .ofSettings { notNullAnnotations := true, swagger2 := true }
    let schema : Schema := { content := [("properties", .object [("first-name", .int 3)])] }
    let target : ClassModel :=
      { name := "Person"
        fields := [
          { name := "firstName", annotations := [{ name := Metadata.apiModelProperty }] },
          { name := "firstName", doc := ⟨["Hidden."]⟩ },
          { name := "other", type := .boolean }]
        methods := [{ name := "getFirstName" }, { name := "isOther" }] }
    let first := ["first-name", "other", "absent", "firstName", "other"]
    let second := ["other", "firstName", "other", "first-name", "absent"]
    ∃ result, apply context (.array (first.map .string)) schema target = .done result ∧
      apply context (.array (second.map .string)) schema target = .done result :=
  apply_perm _ (by simp [Schema.ShapedProperties, Schema.get?, Entries.get?]) (by decide) _

end Required

end SchemaBeans
