import SchemaBeans.Generation
import SchemaBeans.Proofs.Properties.Created
import SchemaBeans.Proofs.Required.Effect

/-!
# Generation in closed form

Two rules make the class of a schema, and each reads a keyword of its own. The class is determined
by what they read (`generate_eq_ok_iff`): the members of the created properties, marked by the
entries of `required`. No class is made only where a keyword has another shape than it should
(`isReported_of_generate`).
-/
namespace SchemaBeans

/-- The entries of `required`; without the keyword there are none. -/
def Schema.requiredEntries (schema : Schema) : Except MalformedSchema (List String) :=
  match schema.get? "required" with
  | none => .ok []
  | some node => requiredNames node schema.source

/-- Without entries nothing is marked. -/
theorem Required.markEntries_nil (context : RuleContext) (properties : Option (Entries Json))
    (target : ClassModel) : markEntries context properties [] target = target := by
  simp [markEntries, markMethods]

namespace RuleContext

/-- A class starts from two keywords of the schema and its source. -/
theorem emptyClass_congr (context : RuleContext) {first second : Schema}
    (title : first.get? "title" = second.get? "title")
    (description : first.get? "description" = second.get? "description")
    (source : first.source = second.source) (className package : Option String) :
    context.emptyClass first className package = context.emptyClass second className package := by
  simp only [emptyClass, classNameFor, classNameBase, Schema.title?, Schema.description?, title,
    description, source]

/-- The class of declared properties before any of them is marked. -/
def unmarked (context : RuleContext) (start : ClassModel) (properties : Entries Json) :
    ClassModel :=
  Properties.withMembers context start
    (Properties.created context (Properties.fieldNames start) properties)

/-- A class without fields of its own gets those of the created properties. -/
theorem fields_unmarked (context : RuleContext) {start : ClassModel} (bare : start.fields = [])
    (properties : Entries Json) :
    (context.unmarked start properties).fields =
      (Properties.created context [] properties).map fun property =>
        Properties.newField context property.1 property.2 := by
  simp [unmarked, Properties.withMembers, Properties.fieldNames, bare]

/-- A class without members of its own gets the methods of the created properties. -/
theorem methods_unmarked (context : RuleContext) {start : ClassModel} (bare : start.fields = [])
    (empty : start.methods = []) (properties : Entries Json) :
    (context.unmarked start properties).methods =
      (Properties.created context [] properties).flatMap fun property =>
        Properties.newMethods context start.fullName property.1 property.2 := by
  simp [unmarked, Properties.withMembers, Properties.fieldNames, bare, empty]

/-- The rules make a class of what they read, or say which keyword cannot be read. -/
theorem applyAll_standard (context : RuleContext) (schema : Schema) (start : ClassModel) :
    (Rule.applyAll context Rule.standard schema start).toExcept =
      match schema.properties?, schema.requiredEntries with
      | .error malformed, _ => .error (.malformed malformed)
      | .ok _, .error malformed => .error (.malformed malformed)
      | .ok properties, .ok entries =>
        .ok (Required.markEntries context properties entries
          (context.unmarked start (properties.getD []))) := by
  have first : Rule.applyIfPresent context schema .properties start =
      Properties.apply context schema start := by
    unfold Rule.applyIfPresent Rule.keyword
    cases declared : schema.get? "properties" with
    | some node => simp [Rule.apply]
    | none => simp [declared, Properties.apply, Schema.properties?, Outcome.forEach]
  have second (target : ClassModel) : Rule.applyIfPresent context schema .required target =
      match schema.get? "required" with
      | none => .done target
      | some node => Required.apply context node schema target := rfl
  rw [Rule.applyAll, Rule.standard, Outcome.forEach, first]
  cases declared : schema.properties? with
  | error malformed => simp [Properties.apply, declared, Outcome.toExcept]
  | ok properties =>
    rw [Properties.apply_of_properties context declared, Outcome.done_andThen, Outcome.forEach,
      second, Schema.requiredEntries]
    cases schema.get? "required" with
    | none => simp [Outcome.forEach, Outcome.toExcept, Required.markEntries_nil, unmarked]
    | some node =>
      simp only [Required.apply, declared]
      cases requiredNames node schema.source with
      | error malformed => rfl
      | ok entries => rfl

/-- A class is made exactly of what the rules read. -/
theorem generate_eq_ok_iff {context : RuleContext} {schema : Schema}
    {className package : Option String} {result : ClassModel} :
    context.generate schema className package = .ok result ↔
      ∃ properties entries, schema.properties? = .ok properties ∧
        schema.requiredEntries = .ok entries ∧
        result = Required.markEntries context properties entries
          (context.unmarked (context.emptyClass schema className package)
            (properties.getD [])) := by
  rw [generate, applyAll_standard]
  cases schema.properties? with
  | error malformed => simp
  | ok properties =>
    cases schema.requiredEntries with
    | error malformed => simp
    | ok entries => simp [eq_comm]

/-- A schema that declares an object and lists texts has a class. -/
theorem generate_eq_of_keywords (context : RuleContext) {schema : Schema}
    (className package : Option String) {properties : Entries Json} {entries : List String}
    (declared : schema.get? "properties" = some (.object properties))
    (listed : schema.get? "required" = some (.array (entries.map .string))) :
    context.generate schema className package =
      .ok (Required.markEntries context (some properties) entries
        (context.unmarked (context.emptyClass schema className package) properties)) := by
  refine generate_eq_ok_iff.mpr ⟨some properties, entries, ?_, ?_, rfl⟩
  · rw [Schema.properties?, declared]
  · rw [Schema.requiredEntries, listed]
    exact requiredNames_eq_ok_iff.mpr rfl

/-- Where no class is made, the schema is at fault. -/
theorem isReported_of_generate {context : RuleContext} {schema : Schema}
    {className package : Option String} {failure : Failure}
    (failed : context.generate schema className package = .error failure) :
    failure.isReported = true := by
  rw [generate, applyAll_standard] at failed
  cases declared : schema.properties? with
  | error malformed =>
    rw [declared] at failed
    obtain rfl := Except.error.inj failed
    rfl
  | ok properties =>
    cases listed : schema.requiredEntries with
    | error malformed =>
      rw [declared, listed] at failed
      obtain rfl := Except.error.inj failed
      rfl
    | ok entries => simp [declared, listed] at failed

end RuleContext

end SchemaBeans
