import SchemaBeans.Rule.Properties

/-!
# The members that are created

The rule for `properties` never stops where the properties can be read. In closed form
(`forEach_addProperty`) it appends the members of some of them to a class: of those that do not ask
to be left out, the first of each field name that the class does not have. The fields it appends
have distinct names (`nodup_created`), and a property that comes first keeps its place among them
(`created_of_isFirst`).
-/
namespace SchemaBeans.Properties

variable (context : RuleContext)

/-- The name of the field of a property. -/
def nameOf (property : String × Json) : String :=
  context.naming.fieldName property.1 (some property.2)

/-- The properties whose members are created if some field names are taken. -/
def created (taken : List String) : List (String × Json) → List (String × Json)
  | [] => []
  | property :: rest =>
    if isExcluded property.2 = true ∨ nameOf context property ∈ taken then created taken rest
    else property :: created (taken ++ [nameOf context property]) rest

/-- A class with the members of properties after its own. -/
def withMembers (target : ClassModel) (properties : List (String × Json)) : ClassModel :=
  { target with
    fields := target.fields ++
      properties.map fun property => newField context property.1 property.2
    methods := target.methods ++
      properties.flatMap fun property =>
        newMethods context target.fullName property.1 property.2 }

/-- The names of the fields of a class. -/
def fieldNames (target : ClassModel) : List String := target.fields.map (·.name)

/-- What is recorded in the field of a property does not show but in its annotations. -/
theorem newField_eq (property : String × Json) :
    ∃ annotations, newField context property.1 property.2 =
      { name := nameOf context property
        doc := ({} : Doc).appendNonempty (docText property.2)
        annotations
        modifiers := ["private"]
        type := PropertyType.ofNode context.settings property.2 } := by
  unfold newField Metadata.describe nameOf
  cases context.metadata with
  | none => exact ⟨[], rfl⟩
  | swagger2 =>
    simp only []
    split
    · exact ⟨[], rfl⟩
    · exact ⟨_, rfl⟩

/-- The field of a property has its name. -/
theorem name_newField (property : String × Json) :
    (newField context property.1 property.2).name = nameOf context property := by
  obtain ⟨_, fieldEq⟩ := newField_eq context property
  rw [fieldEq]

/-- The field of a property has its type. -/
theorem type_newField (property : String × Json) :
    (newField context property.1 property.2).type =
      PropertyType.ofNode context.settings property.2 := by
  obtain ⟨_, fieldEq⟩ := newField_eq context property
  rw [fieldEq]

/-- The field of a property is documented by its text. -/
theorem doc_newField (property : String × Json) :
    (newField context property.1 property.2).doc =
      ({} : Doc).appendNonempty (docText property.2) := by
  obtain ⟨_, fieldEq⟩ := newField_eq context property
  rw [fieldEq]

/-- The full name of a class does not depend on its members. -/
theorem fullName_withMembers (target : ClassModel) (properties : List (String × Json)) :
    (withMembers context target properties).fullName = target.fullName := rfl

/-- The fields of a class are followed by those of the properties. -/
theorem fieldNames_withMembers (target : ClassModel) (properties : List (String × Json)) :
    fieldNames (withMembers context target properties) =
      fieldNames target ++ properties.map (nameOf context) := by
  have names : (properties.map fun property => newField context property.1 property.2).map
      (·.name) = properties.map (nameOf context) := by
    rw [List.map_map]
    exact List.map_congr_left fun property _ => name_newField context property
  unfold fieldNames withMembers
  rw [List.map_append, names]

/-- No properties add nothing. -/
theorem withMembers_nil (target : ClassModel) : withMembers context target [] = target := by
  simp [withMembers]

/-- Members of some properties and then of others are members of all of them. -/
theorem withMembers_withMembers (target : ClassModel) (first second : List (String × Json)) :
    withMembers context (withMembers context target first) second =
      withMembers context target (first ++ second) := by
  rw [withMembers, fullName_withMembers, withMembers, withMembers, List.map_append,
    List.flatMap_append, List.append_assoc, List.append_assoc]

/-- A field of a name is found exactly if the name is among those of the fields. -/
theorem isSome_field?_iff {target : ClassModel} {name : String} :
    (target.field? name).isSome = true ↔ name ∈ fieldNames target := by
  simp [ClassModel.field?, fieldNames]

/-- The members of a property are added, unless it asks to be left out or its name is taken. -/
theorem addProperty_eq (property : String × Json) (target : ClassModel) :
    addProperty context property target =
      .done (if isExcluded property.2 = true ∨ nameOf context property ∈ fieldNames target
        then target else withMembers context target [property]) := by
  unfold addProperty decide
  cases excluded : isExcluded property.2 with
  | true => simp
  | false =>
    by_cases taken : nameOf context property ∈ fieldNames target
    · have found := isSome_field?_iff.mpr taken
      unfold nameOf at found
      simp [found, taken]
    · have missing : (target.field? (nameOf context property)).isSome = false := by
        simpa using mt isSome_field?_iff.mp taken
      have fresh : target.field? (newField context property.1 property.2).name = none := by
        simpa [name_newField] using missing
      unfold nameOf at missing
      simp only [missing, Bool.false_eq_true, if_false, ClassModel.addField, fresh]
      simp [taken, withMembers, ClassModel.addMethods, ClassModel.fullName]

/-- The members of the created properties are added, and nothing stops the rule. -/
theorem forEach_addProperty (properties : List (String × Json)) (target : ClassModel) :
    Outcome.forEach (addProperty context) properties target =
      .done (withMembers context target (created context (fieldNames target) properties)) := by
  induction properties generalizing target with
  | nil => rw [created, withMembers_nil, Outcome.forEach]
  | cons property rest ih =>
    rw [Outcome.forEach, addProperty_eq, Outcome.done_andThen, ih, created]
    split
    · rfl
    · rw [fieldNames_withMembers, withMembers_withMembers, List.map_singleton,
        List.singleton_append]

/-- The rule adds the members of the created properties if it can read the properties. -/
theorem apply_of_properties {schema : Schema} {properties : Option (Entries Json)}
    (declared : schema.properties? = .ok properties) (target : ClassModel) :
    apply context schema target =
      .done (withMembers context target
        (created context (fieldNames target) (properties.getD []))) := by
  rw [apply, declared, ← forEach_addProperty]

omit context in
/-- Which members are created depends on the naming alone. -/
theorem created_congr {first second : RuleContext} (naming : first.naming = second.naming)
    (taken : List String) (properties : List (String × Json)) :
    created first taken properties = created second taken properties := by
  have names : nameOf first = nameOf second := funext fun property => by
    rw [nameOf, naming, nameOf]
  induction properties generalizing taken with
  | nil => rfl
  | cons property rest ih => rw [created, created, names, ih, ih]

/-- The created properties are some of the given ones, in their order. -/
theorem created_sublist (taken : List String) (properties : List (String × Json)) :
    (created context taken properties).Sublist properties := by
  induction properties generalizing taken with
  | nil => exact List.Sublist.refl _
  | cons property rest ih =>
    unfold created
    split
    · exact List.Sublist.cons property (ih taken)
    · exact List.Sublist.cons_cons property (ih (taken ++ [nameOf context property]))

/-- No created property asks to be left out. -/
theorem not_isExcluded_of_mem_created {taken : List String} {properties : List (String × Json)} :
    ∀ property ∈ created context taken properties, isExcluded property.2 = false := by
  induction properties generalizing taken with
  | nil => simp [created]
  | cons first rest ih =>
    intro property member
    unfold created at member
    split at member
    · exact ih property member
    · rename_i kept
      rcases List.mem_cons.mp member with rfl | later
      · simpa using (not_or.mp kept).1
      · exact ih property later

/-- The fields that are created have distinct names, none of which was taken. -/
theorem nodup_created {taken : List String} (distinct : taken.Nodup)
    (properties : List (String × Json)) :
    (taken ++ (created context taken properties).map (nameOf context)).Nodup := by
  induction properties generalizing taken with
  | nil => simpa [created] using distinct
  | cons property rest ih =>
    unfold created
    split
    · exact ih distinct
    · rename_i kept
      have fresh := (not_or.mp kept).2
      have extended : (taken ++ [nameOf context property]).Nodup := by
        rw [List.nodup_append]
        refine ⟨distinct, by simp, fun name member other single => ?_⟩
        rintro rfl
        exact fresh (List.mem_singleton.mp single ▸ member)
      simpa using ih extended

/-- Of properties after others, those are created whose names the others have not taken. -/
theorem created_append (taken : List String) (first second : List (String × Json)) :
    created context taken (first ++ second) =
      created context taken first ++
        created context (taken ++ (created context taken first).map (nameOf context)) second := by
  induction first generalizing taken with
  | nil => simp [created]
  | cons property rest ih =>
    rw [List.cons_append, created, created, ih, ih]
    split
    · rfl
    · rw [List.map_cons, List.cons_append, List.append_assoc, List.singleton_append]

/-- Fields are created of all names that are not taken and that properties have which do not ask to
be left out. -/
theorem mem_names_created {taken : List String} {properties : List (String × Json)}
    {name : String} :
    name ∈ (created context taken properties).map (nameOf context) ↔
      name ∉ taken ∧
        ∃ property ∈ properties,
          isExcluded property.2 = false ∧ nameOf context property = name := by
  induction properties generalizing taken with
  | nil => simp [created]
  | cons property rest ih =>
    simp only [created, List.mem_cons, or_and_right, exists_or, exists_eq_left]
    split
    · rename_i left
      have nothing : name ∉ taken → ¬(isExcluded property.2 = false ∧
          nameOf context property = name) := by
        rintro fresh ⟨kept, rfl⟩
        exact left.elim (by simp [kept]) fresh
      rw [ih]
      exact and_congr_right fun fresh => by simp only [nothing fresh, false_or]
    · rename_i kept
      obtain ⟨included, fresh⟩ := not_or.mp kept
      rw [List.map_cons, List.mem_cons, ih]
      by_cases same : name = nameOf context property
      · simp [same, fresh, included]
      · simp [same, Ne.symm same]

/-- A property that does not ask to be left out, and comes before all others of its field name that
do not. -/
structure IsFirst (before : List (String × Json)) (property : String × Json) : Prop where
  /-- It does not ask to be left out. -/
  kept : isExcluded property.2 = false
  /-- Properties before it that do not either have other field names. -/
  first : ∀ earlier ∈ before, isExcluded earlier.2 = false →
    nameOf context earlier ≠ nameOf context property

/-- The members of a property that comes first are created after those of the ones before it. -/
theorem created_of_isFirst {before : List (String × Json)} {property : String × Json}
    (leads : IsFirst context before property) (later : List (String × Json)) :
    created context [] (before ++ property :: later) =
      created context [] before ++ property ::
        created context ((created context [] before).map (nameOf context) ++
          [nameOf context property]) later := by
  have fresh : nameOf context property ∉
      (created context [] before).map (nameOf context) := by
    intro member
    obtain ⟨earlier, known, alike⟩ := List.mem_map.mp member
    exact leads.first earlier ((created_sublist context [] before).subset known)
      (not_isExcluded_of_mem_created context earlier known) alike
  rw [created_append, List.nil_append, created, if_neg]
  simp [leads.kept, fresh]

end SchemaBeans.Properties
