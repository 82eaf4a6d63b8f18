import SchemaBeans.Proofs.Generation.Marking
import SchemaBeans.Proofs.Names.Legal

/-!
# Names of generated fields

The fields of a generated class have the names of the properties that do not ask to be left out,
each once (`mem_fieldNames_generate`). Such a name is a legal identifier for any text but the empty
one, which nothing guards: all fields of a class have legal names exactly if no property with a
field is nameless (`generate_fields_legal`).
-/
namespace SchemaBeans.RuleContext

open Properties Required Naming

/-- The fields of a generated class have the field names of the properties that do not ask to be
left out. -/
theorem mem_fieldNames_generate {context : RuleContext} {schema : Schema}
    {className package : Option String} {result : ClassModel}
    {properties : Option (Entries Json)}
    (generated : context.generate schema className package = .ok result)
    (declared : schema.properties? = .ok properties) {name : String} :
    name ∈ fieldNames result ↔
      ∃ property ∈ properties.getD [],
        isExcluded property.2 = false ∧ nameOf context property = name := by
  obtain ⟨read, entries, known, _, rfl⟩ := generate_eq_ok_iff.mp generated
  obtain rfl : properties = read := Except.ok.inj (declared.symm.trans known)
  have bare : (context.emptyClass schema className package).fields = [] := rfl
  have unique := nodup_fieldNames_unmarked context bare (properties.getD [])
  rw [fieldNames_markEntries context properties unique, fieldNames_unmarked context bare,
    mem_names_created]
  simp only [List.not_mem_nil, not_false_eq_true, true_and]

/-- A property without a name: its name is the empty text, and its schema gives no other. -/
def IsNameless (property : String × Json) : Prop :=
  property.1 = "" ∧ (property.2.get? "javaName").bind Json.nonemptyText? = none

instance (property : String × Json) : Decidable (IsNameless property) :=
  inferInstanceAs (Decidable (_ ∧ _))

/-- The field of a property has a legal name exactly if the property has a name. -/
theorem isLegal_nameOf_iff (context : RuleContext) (property : String × Json) :
    Identifier.isLegal (nameOf context property).toList = true ↔ ¬IsNameless property := by
  rw [nameOf, isLegal_fieldName_iff, ne_eq, givenName_eq_empty_iff]
  rfl

/-- All fields of a generated class have legal names exactly if each property that does not ask to
be left out has a name. A field whose name is not legal has the empty name. -/
theorem generate_fields_legal {context : RuleContext} {schema : Schema}
    {className package : Option String} {result : ClassModel}
    (generated : context.generate schema className package = .ok result) :
    ∃ properties, schema.properties? = .ok properties ∧
      ((∀ field ∈ result.fields, Identifier.isLegal field.name.toList = true) ↔
        ∀ property ∈ properties.getD [], isExcluded property.2 = false → ¬IsNameless property) ∧
      ∀ field ∈ result.fields, Identifier.isLegal field.name.toList = true ∨ field.name = "" := by
  obtain ⟨properties, _, declared, _⟩ := generate_eq_ok_iff.mp generated
  have named {name : String} : name ∈ fieldNames result ↔ _ :=
    mem_fieldNames_generate generated declared
  refine ⟨properties, declared, ?_, ?_⟩
  · constructor
    · intro legal property member kept
      obtain ⟨field, known, same⟩ := List.mem_map.mp (named.mpr ⟨property, member, kept, rfl⟩)
      rw [← isLegal_nameOf_iff context, ← same]
      exact legal field known
    · intro clear field member
      obtain ⟨property, known, kept, same⟩ := named.mp (List.mem_map_of_mem member)
      rw [← same, isLegal_nameOf_iff]
      exact clear property known kept
  · intro field member
    obtain ⟨property, _, _, same⟩ := named.mp (List.mem_map_of_mem member)
    rw [← same]
    by_cases given : givenName property.1 (some property.2) = ""
    · exact .inr (fieldName_eq_empty_iff.mpr given)
    · exact .inl (isLegal_fieldName_iff.mpr given)

/-- The fields of a class have legal names where one property is named by a digit, one by delimiters
alone, one by a keyword in small letters, one has another name in its schema, and a nameless one
asks to be left out. -/
theorem generate_fields_legal_guarded :
    let context : RuleContext := .ofSettings {}
    let properties : Entries Json := [
      ("1", .object []), ("é", .null), ("For", .object [("javaName", .string "")]),
      ("2nd", .object [("javaName", .string "my-Class")]),
      ("", .object [("excludedFromGeneration", .bool true)])]
    ∃ result,
      context.generate { content := [("properties", .object properties)] } = .ok result ∧
      fieldNames result = ["_1", "__", "_for", "myClass"] ∧
      ∀ field ∈ result.fields, Identifier.isLegal field.name.toList = true := by
  intro context properties
  have generated : context.generate { content := [("properties", .object properties)] } =
      .ok _ := generate_eq_ok_iff.mpr ⟨_, _, rfl, rfl, rfl⟩
  obtain ⟨read, declared, legal, _⟩ := generate_fields_legal generated
  obtain rfl : some properties = read := Except.ok.inj declared
  exact ⟨_, generated, by decide, legal.mpr (by decide)⟩

/-- The field of a nameless property has no legal name. -/
theorem not_forall_fields_legal :
    ¬∀ (settings : Settings) (schema : Schema) (className package : Option String)
      (result : ClassModel), settings.isValid = true →
      (RuleContext.ofSettings settings).generate schema className package = .ok result →
      ∀ field ∈ result.fields, Identifier.isLegal field.name.toList = true := by
  intro legal
  let schema : Schema := { content := [("properties", .object [("", .object [])])] }
  have generated : RuleContext.generate (.ofSettings {}) schema none none = .ok _ :=
    generate_eq_ok_iff.mpr ⟨_, _, rfl, rfl, rfl⟩
  have fields := legal {} schema none none _ (by decide) generated
  revert fields
  decide

end SchemaBeans.RuleContext
