import SchemaBeans.Proofs.Generation.Marking

/-!
# One class seen through another

A class made in one context may show all there is of the class made in another, once some of it is
left out. A view says what is left of each field and of each method. If leaving out commutes with
what the rules do to a single member (`ClassView.Relates`), it commutes with the whole generation
(`ClassView.Relates.generate_map`): it takes the class of the one context to that of the other, and
where there is no class, both fail alike.
-/
namespace SchemaBeans

open Properties Required

/-- What is left of a class: each field in some form, and some of the methods in some form. -/
structure ClassView where
  /-- What is left of a field. -/
  field : FieldModel → FieldModel
  /-- What is left of a method, if anything is. -/
  method : MethodModel → Option MethodModel

namespace ClassView

/-- What is left of a class. -/
def apply (view : ClassView) (target : ClassModel) : ClassModel :=
  { target with
    fields := target.fields.map view.field
    methods := target.methods.filterMap view.method }

/-- What is left of each member is what the rules make of it in another context. -/
structure Relates (view : ClassView) (full plain : RuleContext) : Prop where
  /-- Both contexts name members alike. -/
  naming : full.naming = plain.naming
  /-- Both contexts have one package. -/
  package : full.settings.targetPackage = plain.settings.targetPackage
  /-- Fields keep their names. -/
  fieldName : ∀ field, (view.field field).name = field.name
  /-- Fields keep their types. -/
  fieldType : ∀ field, (view.field field).type = field.type
  /-- The field of a property is left as the one of the other context. -/
  newField : ∀ property node,
    view.field (newField full property node) = newField plain property node
  /-- The methods of a property are left as those of the other context. -/
  newMethods : ∀ className property node,
    (newMethods full className property node).filterMap view.method =
      newMethods plain className property node
  /-- Marks of a field are left as those of the other context. -/
  markTimes : ∀ count field,
    view.field (markTimes full count field) = markTimes plain count (view.field field)
  /-- Marks of a method are left, if the method is. -/
  markMethod : ∀ names method,
    view.method (markMethod names method) = (view.method method).map (markMethod names)

namespace Relates

variable {view : ClassView} {full plain : RuleContext} (related : view.Relates full plain)

include related

/-- A class that only has members of properties is left as in the other context. -/
theorem apply_unmarked {start : ClassModel} (fields : start.fields = [])
    (methods : start.methods = []) (properties : Entries Json) :
    view.apply (full.unmarked start properties) = plain.unmarked start properties := by
  unfold RuleContext.unmarked withMembers apply
  simp only [fields, methods, List.nil_append, List.map_map, List.filterMap_flatMap,
    created_congr related.naming, related.newMethods, Function.comp_def, related.newField]

/-- A field is found where it was. -/
theorem field?_apply (target : ClassModel) (name : String) :
    (view.apply target).field? name = (target.field? name).map view.field := by
  unfold ClassModel.field? apply
  rw [List.find?_map]
  simp only [Function.comp_def, related.fieldName]

/-- Entries lead to fields and methods of the same names. -/
theorem accessorNames_eq (properties : Option (Entries Json)) (target : ClassModel)
    (entry : String) :
    accessorNames full properties target entry =
      accessorNames plain properties (view.apply target) entry := by
  unfold accessorNames Required.fieldName
  rw [related.field?_apply, related.naming]
  cases target.field? (plain.naming.fieldName entry (propertyNode properties entry)) with
  | none => rfl
  | some field => simp only [Option.map_some, related.fieldType]

/-- Entries mark what is left as in the other context. -/
theorem apply_markEntries {target : ClassModel} (distinct : (fieldNames target).Nodup)
    (properties : Option (Entries Json)) (entries : List String) :
    view.apply (markEntries full properties entries target) =
      markEntries plain properties entries (view.apply target) := by
  have names : (view.apply target).fields.map (·.name) = target.fields.map (·.name) := by
    unfold apply
    rw [List.map_map]
    exact List.map_congr_left fun field _ => related.fieldName field
  have counted (field : String) :
      hits full properties entries field = hits plain properties entries field := by
    unfold hits Required.fieldName
    rw [related.naming]
  have collected : entries.flatMap (accessorNames full properties target) =
      entries.flatMap (accessorNames plain properties (view.apply target)) :=
    List.flatMap_congr fun entry _ => related.accessorNames_eq properties target entry
  have distinctLeft : ((view.apply target).fields.map (·.name)).Nodup := by
    rw [names]
    exact distinct
  rw [markEntries_eq full properties distinct, collected,
    markEntries_eq plain properties distinctLeft]
  unfold apply
  simp only [List.map_map, List.filterMap_map, List.map_filterMap, Function.comp_def, counted,
    related.markTimes, related.markMethod, related.fieldName]

/-- What is left of the class of a schema is its class in the other context, and where there is
none, the failure is the same. -/
theorem generate_map (schema : Schema) (className package : Option String) :
    (full.generate schema className package).map view.apply =
      plain.generate schema className package := by
  let start := plain.emptyClass schema className package
  have same : full.emptyClass schema className package = start := by
    simp only [start, RuleContext.emptyClass, RuleContext.classNameFor, related.naming,
      related.package]
  rw [RuleContext.generate, RuleContext.generate, RuleContext.applyAll_standard,
    RuleContext.applyAll_standard, same]
  cases schema.properties? with
  | error malformed => rfl
  | ok properties =>
    cases schema.requiredEntries with
    | error malformed => rfl
    | ok entries =>
      have distinct : (fieldNames (full.unmarked start (properties.getD []))).Nodup :=
        RuleContext.nodup_fieldNames_unmarked full rfl _
      have made : view.apply (full.unmarked start (properties.getD [])) =
          plain.unmarked start (properties.getD []) := related.apply_unmarked rfl rfl _
      simp only [Except.map, related.apply_markEntries distinct, made]
      rfl

end Relates

end ClassView

end SchemaBeans
