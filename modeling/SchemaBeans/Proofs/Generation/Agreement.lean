import SchemaBeans.Proofs.Generation.Marking
import SchemaBeans.Proofs.Names.LookAlike

/-!
# Fields and accessors that are marked alike

The rule for `required` finds the accessors of a field by their names alone. So an entry may lead
to the accessors of a property and not to its field, or to its field and not to its accessors, but
only if its name and that of the property can be confused. The members of a property are marked
together unless that happens and no clear entry leads to them (`generate_marks_agree`).
-/
namespace SchemaBeans.RuleContext

open Properties Required Naming

variable (context : RuleContext) (properties : Option (Entries Json))

/-- The stem of the property that an entry names. -/
def entryStem (entry : String) : List Char :=
  context.naming.stem entry (propertyNode properties entry)

/-- The stem of a declared property. -/
def propertyStem (property : String × Json) : List Char :=
  context.naming.stem property.1 (some property.2)

/-- An entry leads to a field of a class if it leads to one of their names. -/
def LeadsToField (target : ClassModel) (entry : String) : Prop :=
  Required.fieldName context properties entry ∈ fieldNames target

/-- An entry that leads to a method leads to a field. -/
theorem leadsToField_of_leadsToMethod {target : ClassModel} {entry method : String}
    (led : LeadsToMethod context properties target entry method) :
    LeadsToField context properties target entry := by
  obtain ⟨field, known, named, _⟩ := led
  exact List.mem_map.mpr ⟨field, known, named⟩

/-- An entry leads to the getter of a property exactly if it leads to its field, unless both can be
confused. -/
theorem leadsToGetter_iff {target : ClassModel} {entry : String} {property : String × Json}
    (member : newField context property.1 property.2 ∈ target.fields)
    (clear : LeadsToField context properties target entry →
      ¬Confusable (entryStem context properties entry) (propertyStem context property)) :
    LeadsToMethod context properties target entry (newGetter context property.1 property.2).name ↔
      Required.fieldName context properties entry = nameOf context property := by
  simp only [newGetter]
  constructor
  · rintro ⟨field, known, named, getter | setter⟩
    · have apart := mt Confusable.symm (clear (List.mem_map.mpr ⟨_, known, named⟩))
      exact ((getterName_eq_iff apart).mp getter).1.symm
    · exact absurd setter.symm (setterName_ne_getterName _ _ _ _ _ _)
  · intro alike
    have named := (name_newField context property).trans alike.symm
    have apart := mt Confusable.symm (clear (List.mem_map.mpr ⟨_, member, named⟩))
    refine ⟨_, member, named, .inl ((getterName_eq_iff apart).mpr ⟨alike.symm, ?_⟩)⟩
    rw [type_newField]

/-- An entry leads to the setter of a property exactly if it leads to its field, unless both can be
confused. -/
theorem leadsToSetter_iff {target : ClassModel} {entry : String} {property : String × Json}
    (member : newField context property.1 property.2 ∈ target.fields)
    (clear : LeadsToField context properties target entry →
      ¬Confusable (entryStem context properties entry) (propertyStem context property)) :
    LeadsToMethod context properties target entry (newSetter context property.1 property.2).name ↔
      Required.fieldName context properties entry = nameOf context property := by
  simp only [newSetter]
  constructor
  · rintro ⟨field, known, named, getter | setter⟩
    · exact absurd getter (setterName_ne_getterName _ _ _ _ _ _)
    · have apart := mt Confusable.symm (clear (List.mem_map.mpr ⟨_, known, named⟩))
      exact ((setterName_eq_iff apart).mp setter).symm
  · intro alike
    have named := (name_newField context property).trans alike.symm
    have apart := mt Confusable.symm (clear (List.mem_map.mpr ⟨_, member, named⟩))
    exact ⟨_, member, named, .inr ((setterName_eq_iff apart).mpr alike.symm)⟩

/-- The members of a property are marked together: all of them if an entry leads to the field, and
none of them otherwise. -/
structure MarkedTogether (entries : List String) (property : String × Json) (field : FieldModel)
    (getter setter : MethodModel) : Prop where
  /-- The field is marked if an entry leads to it. -/
  led : IsMarked property.2 field.toMember ↔
    ∃ entry ∈ entries, Required.fieldName context properties entry = nameOf context property
  /-- The getter is marked exactly if the field is. -/
  withGetter : IsMarked property.2 field.toMember ↔ IsMarked property.2 getter.toMember
  /-- The setter is marked exactly if the field is. -/
  withSetter : IsMarked property.2 field.toMember ↔ IsMarked property.2 setter.toMember

/-- A method with the text of a property is marked exactly if its name was collected. -/
theorem isMarked_markMethod {node : Json} {method : MethodModel}
    (doc : method.doc = ({} : Doc).appendNonempty (docText node)) (names : List String) :
    IsMarked node (markMethod names method).toMember ↔ names.contains method.name = true := by
  rw [isMarked_iff (markedTimes_method node method doc names)]
  cases names.contains method.name <;> simp

/-- The members of a property are not confused with others by entries: an entry leads to its field
that cannot be confused with it, or none that can leads to any field. -/
def Unconfused (target : ClassModel) (entries : List String) (property : String × Json) : Prop :=
  (∃ entry ∈ entries, Required.fieldName context properties entry = nameOf context property ∧
    ¬Confusable (entryStem context properties entry) (propertyStem context property)) ∨
  ∀ entry ∈ entries, LeadsToField context properties target entry →
    ¬Confusable (entryStem context properties entry) (propertyStem context property)

/-- Entries lead to a method exactly if they lead to the field of a property that they do not
confuse, if that holds of each entry that cannot be confused. -/
theorem exists_leadsToMethod_iff {target : ClassModel} {entries : List String}
    {property : String × Json} (clear : Unconfused context properties target entries property)
    {method : String}
    (each : ∀ entry, (LeadsToField context properties target entry →
      ¬Confusable (entryStem context properties entry) (propertyStem context property)) →
      (LeadsToMethod context properties target entry method ↔
        Required.fieldName context properties entry = nameOf context property)) :
    (∃ entry ∈ entries, LeadsToMethod context properties target entry method) ↔
      ∃ entry ∈ entries, Required.fieldName context properties entry = nameOf context property := by
  rcases clear with ⟨entry, known, named, apart⟩ | none
  · have led := (each entry fun _ => apart).mpr named
    exact iff_of_true ⟨entry, known, led⟩ ⟨entry, known, named⟩
  · exact exists_congr fun entry => and_congr_right fun known => each entry (none entry known)

/-- Marking what entries lead to marks the members of a property together. -/
theorem markedTogether_markEntries {start : ClassModel} (bare : start.fields = [])
    {before later : Entries Json} {property : String × Json}
    (leads : IsFirst context before property) {entries : List String}
    (clear : Unconfused context properties
      (context.unmarked start (before ++ property :: later)) entries property) :
    ∃ field getter setter,
      MembersOf context start before (markEntries context properties entries
        (context.unmarked start (before ++ property :: later))) field getter setter ∧
      MarkedTogether context properties entries property field getter setter := by
  have unique := nodup_fieldNames_unmarked context bare (before ++ property :: later)
  have member := newField_mem_unmarked context bare leads later
  refine ⟨_, _, _, membersOf_markEntries context bare leads later properties entries, ?_⟩
  have field : IsMarked property.2 (markTimes context (hits context properties entries
      (nameOf context property)) (newField context property.1 property.2)).toMember ↔
        ∃ entry ∈ entries, Required.fieldName context properties entry =
          nameOf context property := by
    rw [isMarked_iff (markedTimes_field context property _), hits, List.countP_pos_iff]
    simp only [beq_iff_eq]
  refine ⟨field, ?_, ?_⟩
  · rw [field, isMarked_markMethod rfl, contains_accessorNames context properties unique]
    exact (exists_leadsToMethod_iff context properties clear fun entry =>
      leadsToGetter_iff context properties member).symm
  · rw [field, isMarked_markMethod rfl, contains_accessorNames context properties unique]
    exact (exists_leadsToMethod_iff context properties clear fun entry =>
      leadsToSetter_iff context properties member).symm

/-- The members of a property are marked together, unless they are confused with others by the
entries of `required`. -/
theorem generate_marks_agree {context : RuleContext} {schema : Schema}
    {className package : Option String} {result : ClassModel} {before later : Entries Json}
    {property : String × Json} {entries : List String}
    (generated : context.generate schema className package = .ok result)
    (declared : schema.properties? = .ok (some (before ++ property :: later)))
    (leads : IsFirst context before property)
    (required : schema.requiredEntries = .ok entries)
    (clear : Unconfused context (some (before ++ property :: later)) result entries property) :
    ∃ field getter setter,
      MembersOf context (context.emptyClass schema className package) before result
        field getter setter ∧
      MarkedTogether context (some (before ++ property :: later)) entries property
        field getter setter := by
  obtain ⟨properties, names, read, listed, rfl⟩ := generate_eq_ok_iff.mp generated
  obtain rfl : some (before ++ property :: later) = properties :=
    Except.ok.inj (declared.symm.trans read)
  obtain rfl : entries = names := Except.ok.inj (required.symm.trans listed)
  have bare : (context.emptyClass schema className package).fields = [] := rfl
  have unique := nodup_fieldNames_unmarked context bare (before ++ property :: later)
  rw [Option.getD_some] at clear ⊢
  refine markedTogether_markEntries context _ bare leads ?_
  unfold Unconfused LeadsToField at clear ⊢
  rwa [fieldNames_markEntries context _ unique] at clear

/-- A property is not marked by an entry that looks alike and leads to no field. -/
theorem generate_marks_agree_without_field :
    let context : RuleContext := .ofSettings { wordDelimiters := "-" }
    let properties : Entries Json := [("name", .object []), ("class_", .object [])]
    let schema : Schema :=
      { content := [("properties", .object properties),
          ("required", .array [.string "name", .string "class"])] }
    ∃ result, context.generate schema = .ok result ∧
      ∃ field getter setter,
        MembersOf context (context.emptyClass schema none none) [("name", .object [])] result
          field getter setter ∧
        MarkedTogether context (some properties) ["name", "class"] ("class_", .object [])
          field getter setter := by
  intro context properties schema
  have generated : context.generate schema = .ok (markEntries context (some properties)
      ["name", "class"] (context.unmarked (context.emptyClass schema none none) properties)) :=
    generate_eq_ok_iff.mpr ⟨_, _, rfl, rfl, rfl⟩
  have declared : schema.properties? =
      .ok (some ([("name", .object [])] ++ ("class_", .object []) :: [])) := rfl
  refine ⟨_, generated, generate_marks_agree generated declared ⟨rfl, by decide⟩ rfl (.inr ?_)⟩
  intro entry known toField
  rcases List.mem_cons.mp known with rfl | known
  · unfold entryStem propertyStem
    rw [confusable_iff]
    decide
  · obtain rfl := List.mem_singleton.mp known
    refine absurd toField ?_
    unfold LeadsToField
    decide

/-- Without the exception the members of a property would not be marked together: the entry of a
property that looks alike marks the accessors of the other, and not its field. -/
theorem not_forall_marks_agree :
    ¬∀ (context : RuleContext) (schema : Schema) (className package : Option String)
      (result : ClassModel) (before later : Entries Json) (property : String × Json),
      context.generate schema className package = .ok result →
      schema.properties? = .ok (some (before ++ property :: later)) →
      (Entries.keys (before ++ property :: later)).Nodup →
      IsFirst context before property →
      ∃ field getter setter,
        MembersOf context (context.emptyClass schema className package) before result
          field getter setter ∧
        (IsMarked property.2 field.toMember ↔ IsMarked property.2 getter.toMember) ∧
        (IsMarked property.2 field.toMember ↔ IsMarked property.2 setter.toMember) := by
  intro agree
  let properties : Entries Json := [("class", .object []), ("class_", .object [])]
  let schema : Schema :=
    { content := [("properties", .object properties), ("required", .array [.string "class"])] }
  have generated :
      RuleContext.generate (.ofSettings { wordDelimiters := "-" }) schema none none = .ok _ :=
    generate_eq_ok_iff.mpr ⟨_, _, rfl, rfl, rfl⟩
  obtain ⟨field, getter, setter, places, same, _⟩ := agree _ schema none none _
    [("class", .object [])] [] ("class_", .object []) generated rfl (by decide) ⟨rfl, by decide⟩
  have unmarkedField : field = { name := "class_", modifiers := ["private"] } :=
    Option.some.inj (places.field.symm.trans (by decide))
  have markedGetter : getter =
      { name := "getClass_", doc := ⟨[marker]⟩, modifiers := ["public"], returnType := .object } :=
    Option.some.inj (places.getter.symm.trans (by decide))
  have never : MarkedTimes (.object []) 0 field.toMember := by
    rw [unmarkedField]
    unfold MarkedTimes
    decide
  have once : MarkedTimes (.object []) 1 getter.toMember := by
    rw [markedGetter]
    unfold MarkedTimes
    decide
  have marks := (isMarked_iff never).symm.trans (same.trans (isMarked_iff once))
  omega

end SchemaBeans.RuleContext
