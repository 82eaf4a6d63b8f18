import SchemaBeans.Proofs.Generation.Closed

/-!
# The members of required properties

The rule for `properties` creates the members of a property, and the rule for `required` finds them
again by names that it computes anew. Both compute one name from one naming, so an entry that is
the name of a declared property marks the members of that property (`generate_marks_listed`),
unless another property has taken its field name.
-/
namespace SchemaBeans.RuleContext

open Properties Required

/-- The class when the turn of a property comes, after the properties before it. -/
def beforeTurn (context : RuleContext) (start : ClassModel) (before : Entries Json) : ClassModel :=
  (Outcome.forEach (addProperty context) before start).target

/-- The members of a class at the places where those of a property were added when its turn came. -/
structure MembersOf (context : RuleContext) (start : ClassModel) (before : Entries Json)
    (result : ClassModel) (field : FieldModel) (getter setter : MethodModel) : Prop where
  /-- The field comes after the fields that were there. -/
  field : result.fields[(context.beforeTurn start before).fields.length]? = some field
  /-- The getter comes after the methods that were there. -/
  getter : result.methods[(context.beforeTurn start before).methods.length]? = some getter
  /-- The setter comes after the getter. -/
  setter : result.methods[(context.beforeTurn start before).methods.length + 1]? = some setter

/-- The documentation of a member is the text of a property, and after it the marker a number of
times. -/
def MarkedTimes (node : Json) (count : Nat) (member : Member) : Prop :=
  member.doc.text = docText node ++ String.join (List.replicate count marker)

/-- A member is marked if the marker follows the text of its property at least once. -/
def IsMarked (node : Json) (member : Member) : Prop :=
  ∃ count, 0 < count ∧ MarkedTimes node count member

/-- The rule for `required` keeps the names of the fields. -/
theorem fieldNames_markEntries (context : RuleContext) (properties : Option (Entries Json))
    {target : ClassModel} (distinct : (fieldNames target).Nodup) (entries : List String) :
    fieldNames (markEntries context properties entries target) = fieldNames target := by
  rw [markEntries_eq context properties distinct, fieldNames, List.map_map]
  rfl

/-- The fields of a class without fields of its own have the names of the created properties. -/
theorem fieldNames_unmarked (context : RuleContext) {start : ClassModel}
    (bare : start.fields = []) (properties : Entries Json) :
    fieldNames (context.unmarked start properties) =
      (created context [] properties).map (nameOf context) := by
  rw [unmarked, fieldNames_withMembers, fieldNames, bare, List.map_nil, List.nil_append]

/-- The created fields of a class without fields have distinct names. -/
theorem nodup_fieldNames_unmarked (context : RuleContext) {start : ClassModel}
    (bare : start.fields = []) (properties : Entries Json) :
    (fieldNames (context.unmarked start properties)).Nodup := by
  rw [fieldNames_unmarked context bare]
  exact nodup_created context List.nodup_nil properties

/-- The members of a property that comes first are created when its turn comes. -/
theorem unmarked_split (context : RuleContext) {start : ClassModel} (bare : start.fields = [])
    {before : Entries Json} {property : String × Json} (leads : IsFirst context before property)
    (later : Entries Json) :
    ∃ rest, context.unmarked start (before ++ property :: later) =
      withMembers context (context.beforeTurn start before) (property :: rest) := by
  have empty : fieldNames start = [] := by rw [fieldNames, bare, List.map_nil]
  have turn : context.beforeTurn start before =
      withMembers context start (created context [] before) := by
    rw [beforeTurn, forEach_addProperty, empty, Outcome.target]
  refine ⟨created context ((created context [] before).map (nameOf context) ++
    [nameOf context property]) later, ?_⟩
  rw [unmarked, turn, withMembers_withMembers, empty, created_of_isFirst context leads later]

/-- The members of a property that comes first are marked where they were created. -/
theorem membersOf_markEntries (context : RuleContext) {start : ClassModel}
    (bare : start.fields = []) {before : Entries Json} {property : String × Json}
    (leads : IsFirst context before property) (later : Entries Json)
    (properties : Option (Entries Json)) (entries : List String) :
    let target := context.unmarked start (before ++ property :: later)
    let names := entries.flatMap (accessorNames context properties target)
    MembersOf context start before (markEntries context properties entries target)
      (markTimes context (hits context properties entries (nameOf context property))
        (newField context property.1 property.2))
      (markMethod names (newGetter context property.1 property.2))
      (markMethod names (newSetter context property.1 property.2)) := by
  intro target names
  have distinct := nodup_fieldNames_unmarked context bare (before ++ property :: later)
  obtain ⟨rest, split⟩ := unmarked_split context bare leads later
  rw [markEntries_eq context properties distinct]
  refine ⟨?_, ?_, ?_⟩
  · have placed : target.fields[(context.beforeTurn start before).fields.length]? =
        some (newField context property.1 property.2) := by
      simp [target, split, withMembers]
    rw [List.getElem?_map, placed, Option.map_some, name_newField]
  · have placed : target.methods[(context.beforeTurn start before).methods.length]? =
        some (newGetter context property.1 property.2) := by
      simp [target, split, withMembers, newMethods]
    rw [List.getElem?_map, placed, Option.map_some]
  · have placed : target.methods[(context.beforeTurn start before).methods.length + 1]? =
        some (newSetter context property.1 property.2) := by
      simp [target, split, withMembers, newMethods]
    rw [List.getElem?_map, placed, Option.map_some]

/-- A text that is appended, unless it is empty, is the whole text of the documentation. -/
theorem text_appendNonempty (part : String) : (({} : Doc).appendNonempty part).text = part := by
  unfold Doc.appendNonempty
  split
  · rename_i empty
    rw [empty]
    rfl
  · simp [Doc.text, Doc.append]

/-- A member that is marked a number of times is marked no other number of times. -/
theorem markedTimes_inj {node : Json} {first second : Nat} {member : Member}
    (one : MarkedTimes node first member) (other : MarkedTimes node second member) :
    first = second := by
  have lengths := congrArg String.length (one.symm.trans other)
  have size : 0 < marker.length := by decide
  simp only [String.length_append, String.length_join, List.map_replicate, List.sum_replicate_nat,
    Nat.add_left_cancel_iff] at lengths
  exact Nat.eq_of_mul_eq_mul_right size lengths

/-- A member is marked if it is marked a number of times that is not zero. -/
theorem isMarked_iff {node : Json} {count : Nat} {member : Member}
    (times : MarkedTimes node count member) : IsMarked node member ↔ 0 < count := by
  constructor
  · rintro ⟨often, positive, marked⟩
    rwa [← markedTimes_inj marked times]
  · intro positive
    exact ⟨count, positive, times⟩

/-- The field of a property is marked as often as the rule for `required` marks it. -/
theorem markedTimes_field (context : RuleContext) (property : String × Json) (count : Nat) :
    MarkedTimes property.2 count
      (markTimes context count (newField context property.1 property.2)).toMember := by
  unfold MarkedTimes markTimes
  rw [doc_newField, Doc.text, String.join_append]
  exact congrArg (· ++ _) (text_appendNonempty (docText property.2))

/-- A method with the text of a property is marked once if its name was collected. -/
theorem markedTimes_method (node : Json) (method : MethodModel)
    (doc : method.doc = ({} : Doc).appendNonempty (docText node)) (names : List String) :
    MarkedTimes node (if names.contains method.name then 1 else 0)
      (markMethod names method).toMember := by
  unfold MarkedTimes markMethod
  split
  · show (method.doc.append marker).text = _
    rw [Doc.text_append, doc, text_appendNonempty]
    simp
  · rw [doc, text_appendNonempty]
    simp

/-- Marking keeps the name of a method. -/
theorem name_markMethod (names : List String) (method : MethodModel) :
    (markMethod names method).name = method.name := by
  unfold markMethod
  split <;> rfl

/-- The members of a property that is required: they have the names of the property, the field is
marked, each accessor is marked once, and the field carries the annotations that are asked for. -/
structure RequiredMembers (context : RuleContext) (property : String × Json) (field : FieldModel)
    (getter setter : MethodModel) : Prop where
  /-- The field has the field name of the property. -/
  fieldName : field.name = nameOf context property
  /-- The getter has the name for the type of the property. -/
  getterName : getter.name = context.naming.getterName property.1
    (PropertyType.ofNode context.settings property.2) (some property.2)
  /-- The setter has the name for the property. -/
  setterName : setter.name = context.naming.setterName property.1 (some property.2)
  /-- The field is marked at least once. -/
  fieldMarked : IsMarked property.2 field.toMember
  /-- The getter is marked once. -/
  getterMarked : MarkedTimes property.2 1 getter.toMember
  /-- The setter is marked once. -/
  setterMarked : MarkedTimes property.2 1 setter.toMember
  /-- The field is annotated as not null if settings ask for it. -/
  notNull : context.settings.notNullAnnotations = true →
    field.hasAnnotation context.settings.notNullAnnotation = true
  /-- The metadata of the field say that it is required. -/
  recorded : context.metadata = .swagger2 →
    ∃ note, field.annotation? Metadata.apiModelProperty = some note ∧
      note.params.get? "required" = some (.bool true)

/-- The members of a property that entries lead to are those of a required property. -/
theorem requiredMembers_of_led (context : RuleContext) (property : String × Json) {count : Nat}
    (often : 0 < count) {names : List String}
    (getter : (newGetter context property.1 property.2).name ∈ names)
    (setter : (newSetter context property.1 property.2).name ∈ names) :
    RequiredMembers context property
      (markTimes context count (newField context property.1 property.2))
      (markMethod names (newGetter context property.1 property.2))
      (markMethod names (newSetter context property.1 property.2)) := by
  have notes : (markTimes context count (newField context property.1 property.2)).annotations =
      requiredNotes context (newField context property.1 property.2).annotations :=
    if_neg (Nat.ne_of_gt often)
  have markedGetter :=
    markedTimes_method property.2 (newGetter context property.1 property.2) rfl names
  have markedSetter :=
    markedTimes_method property.2 (newSetter context property.1 property.2) rfl names
  rw [if_pos (List.contains_iff_mem.mpr getter)] at markedGetter
  rw [if_pos (List.contains_iff_mem.mpr setter)] at markedSetter
  constructor
  case fieldName => exact name_newField context property
  case getterName => rw [name_markMethod, newGetter]
  case setterName => rw [name_markMethod, newSetter]
  case fieldMarked => exact ⟨count, often, markedTimes_field context property count⟩
  case getterMarked => exact markedGetter
  case setterMarked => exact markedSetter
  case notNull =>
    intro asked
    have found := find?_notNull_requiredNotes asked
      (newField context property.1 property.2).annotations
    rw [Member.hasAnnotation, Member.annotation?, notes, found, Option.isSome_some]
  case recorded =>
    intro format
    have found := find?_metadata_requiredNotes format
      (newField context property.1 property.2).annotations
    rw [Member.annotation?, notes, found]
    refine ⟨_, rfl, ?_⟩
    unfold Annotation.param
    exact Entries.get?_put_self "required" (ParamValue.bool true) _

/-- A property that comes first has its field before any is marked. -/
theorem newField_mem_unmarked (context : RuleContext) {start : ClassModel}
    (bare : start.fields = []) {before : Entries Json} {property : String × Json}
    (leads : IsFirst context before property) (later : Entries Json) :
    newField context property.1 property.2 ∈
      (context.unmarked start (before ++ property :: later)).fields := by
  obtain ⟨rest, split⟩ := unmarked_split context bare leads later
  simp [split, withMembers]

/-- The name of a declared property leads to its field and to its accessors. -/
theorem leadsToMethod_of_declared (context : RuleContext) {properties : Entries Json}
    {property : String × Json} {target : ClassModel}
    (declared : properties.get? property.1 = some property.2)
    (member : newField context property.1 property.2 ∈ target.fields) :
    Required.fieldName context (some properties) property.1 = nameOf context property ∧
      LeadsToMethod context (some properties) target property.1
        (newGetter context property.1 property.2).name ∧
      LeadsToMethod context (some properties) target property.1
        (newSetter context property.1 property.2).name := by
  have node : propertyNode (some properties) property.1 = some property.2 := declared
  have named : Required.fieldName context (some properties) property.1 =
      nameOf context property := by
    rw [Required.fieldName, node, nameOf]
  have field := (name_newField context property).trans named.symm
  refine ⟨named, ⟨_, member, field, .inl ?_⟩, ⟨_, member, field, .inr ?_⟩⟩
  · rw [type_newField, node, newGetter]
  · rw [node, newSetter]

/-- An entry that is the name of a declared property marks the members of the property. -/
theorem generate_marks_listed {context : RuleContext} {schema : Schema}
    {className package : Option String} {result : ClassModel} {before later : Entries Json}
    {property : String × Json} {items : List Json}
    (generated : context.generate schema className package = .ok result)
    (declared : schema.properties? = .ok (some (before ++ property :: later)))
    (distinct : (Entries.keys (before ++ property :: later)).Nodup)
    (leads : IsFirst context before property)
    (required : schema.get? "required" = some (.array items))
    (listed : .string property.1 ∈ items) :
    ∃ field getter setter,
      MembersOf context (context.emptyClass schema className package) before result
        field getter setter ∧
      RequiredMembers context property field getter setter := by
  obtain ⟨properties, entries, read, names, rfl⟩ := generate_eq_ok_iff.mp generated
  obtain rfl : some (before ++ property :: later) = properties :=
    Except.ok.inj (declared.symm.trans read)
  rw [Schema.requiredEntries, required] at names
  have texts : items = entries.map .string := by
    simpa using requiredNames_eq_ok_iff.mp names
  have entry : property.1 ∈ entries := by simpa [texts] using listed
  have bare : (context.emptyClass schema className package).fields = [] := rfl
  have unique := nodup_fieldNames_unmarked context bare (before ++ property :: later)
  -- The keys are distinct, so looking up the entry gives the node that the members were made from.
  obtain ⟨field, getter, setter⟩ := leadsToMethod_of_declared context
    (Entries.get?_append_cons distinct) (newField_mem_unmarked context bare leads later)
  have often : 0 < hits context (some (before ++ property :: later)) entries
      (nameOf context property) :=
    List.countP_pos_iff.mpr ⟨property.1, entry, by simp [field]⟩
  have collected (method : String) :=
    contains_accessorNames context (some (before ++ property :: later)) unique entries method
  refine ⟨_, _, _, membersOf_markEntries context bare leads later _ entries,
    requiredMembers_of_led context property often ?_ ?_⟩
  · exact List.contains_iff_mem.mp ((collected _).mpr ⟨property.1, entry, getter⟩)
  · exact List.contains_iff_mem.mp ((collected _).mpr ⟨property.1, entry, setter⟩)

/-- The members of a required property that is named by a keyword and is no object, after another
property. -/
theorem generate_marks_listed_keyword :
    let context : RuleContext := .ofSettings
      { notNullAnnotations := true, swagger2 := true, builders := true }
    let before : Entries Json := [("is-open", .object [("type", .string "boolean")])]
    let property : String × Json := ("class", .int 3)
    let schema : Schema :=
      { content := [("properties", .object (before ++ [property])),
          ("required", .array [.string "absent", .string "class"])] }
    ∃ result, context.generate schema = .ok result ∧
      ∃ field getter setter,
        MembersOf context (context.emptyClass schema none none) before result
          field getter setter ∧
        RequiredMembers context property field getter setter := by
  intro context before property schema
  have made : ∃ result, context.generate schema = .ok result :=
    ⟨_, generate_eq_ok_iff.mpr ⟨_, _, rfl, rfl, rfl⟩⟩
  obtain ⟨result, generated⟩ := made
  have leads : IsFirst context before property := ⟨rfl, by decide⟩
  have listed : Json.string property.1 ∈ [.string "absent", .string "class"] :=
    List.mem_cons_of_mem _ List.mem_cons_self
  exact ⟨result, generated, generate_marks_listed generated rfl (by decide) leads rfl listed⟩

end SchemaBeans.RuleContext
