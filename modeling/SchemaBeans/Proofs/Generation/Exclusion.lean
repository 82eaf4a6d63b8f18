import SchemaBeans.Proofs.Generation.Agreement

/-!
# Excluded properties

A property that asks to be left out makes no members (`created_kept`). The rule for `required` does
not ask whether a property is left out: an entry that names it leads to the field of the name that
the property would have had, and another property may have made that field. So the class of a schema
is the one of the schema without its excluded properties and without the entries that name them,
exactly if none of these entries leads to a field (`generate_withoutExcluded`).
-/
namespace SchemaBeans

namespace Properties

/-- The properties that do not ask to be left out. -/
def kept (properties : Entries Json) : Entries Json :=
  properties.filter fun property => !isExcluded property.2

/-- Whether an entry names a property that asks to be left out. -/
def namesExcluded (properties : Entries Json) (entry : String) : Bool :=
  (properties.get? entry).any isExcluded

/-- Properties that ask to be left out make no members. -/
theorem created_kept (context : RuleContext) (taken : List String) (properties : Entries Json) :
    created context taken (kept properties) = created context taken properties := by
  induction properties generalizing taken with
  | nil => rfl
  | cons property rest ih =>
    unfold kept at ih ⊢
    cases excluded : isExcluded property.2 with
    | true => simp [created, excluded, ih]
    | false => simp [created, excluded, ih]

end Properties

namespace Schema

open Properties

/-- Whether an item of `required` names a property that asks to be left out. -/
def itemNamesExcluded (properties : Entries Json) : Json → Bool
  | .string entry => namesExcluded properties entry
  | _ => false

/-- The value of a keyword without what concerns properties that ask to be left out. -/
def valueWithoutExcluded (properties : Entries Json) (keyword : String) (value : Json) : Json :=
  match value with
  | .object declared => if keyword = "properties" then .object (kept declared) else value
  | .array items =>
    if keyword = "required" then
      .array (items.filter fun item => !itemNamesExcluded properties item)
    else value
  | _ => value

/-- The schema without the properties that ask to be left out and without the entries of `required`
that name them. -/
def withoutExcluded (schema : Schema) : Schema :=
  { schema with
    content := schema.content.map fun entry =>
      (entry.1, valueWithoutExcluded (schema.declared.getD []) entry.1 entry.2) }

/-- A keyword has its value without what concerns properties that ask to be left out. -/
theorem get?_withoutExcluded (schema : Schema) (keyword : String) :
    schema.withoutExcluded.get? keyword =
      (schema.get? keyword).map (valueWithoutExcluded (schema.declared.getD []) keyword) :=
  Entries.get?_map_value _ schema.content keyword

/-- Of the declared properties those stay that do not ask to be left out. -/
theorem get?_properties_withoutExcluded {schema : Schema} {properties : Entries Json}
    (declared : schema.get? "properties" = some (.object properties)) :
    schema.withoutExcluded.get? "properties" = some (.object (kept properties)) := by
  rw [get?_withoutExcluded, declared]
  rfl

/-- Of the listed entries those stay that name no property that asks to be left out. -/
theorem get?_required_withoutExcluded {schema : Schema} {properties : Entries Json}
    {entries : List String} (declared : schema.get? "properties" = some (.object properties))
    (listed : schema.get? "required" = some (.array (entries.map .string))) :
    schema.withoutExcluded.get? "required" = some (.array
      ((entries.filter fun entry => !namesExcluded properties entry).map .string)) := by
  have read : schema.declared.getD [] = properties := by
    rw [Schema.declared, declared]
    rfl
  rw [get?_withoutExcluded, listed, read, Option.map_some, valueWithoutExcluded, if_pos rfl,
    List.filter_map]
  rfl

/-- The other keywords have the values they had. -/
theorem get?_withoutExcluded_of_ne (schema : Schema) {keyword : String}
    (notProperties : keyword ≠ "properties") (notRequired : keyword ≠ "required") :
    schema.withoutExcluded.get? keyword = schema.get? keyword := by
  have unchanged : valueWithoutExcluded (schema.declared.getD []) keyword = id :=
    funext fun value => by cases value <;> simp [valueWithoutExcluded, notProperties, notRequired]
  rw [get?_withoutExcluded, unchanged, Option.map_id, id]

end Schema

namespace RuleContext

open Properties Required

variable (context : RuleContext) (properties : Option (Entries Json))

/-- The entries that are dropped and the others lead to a field as often as all of them do. -/
theorem hits_filter_add (drops : String → Bool) (entries : List String) (field : String) :
    hits context properties (entries.filter fun entry => !drops entry) field +
      hits context properties (entries.filter drops) field =
        hits context properties entries field := by
  rw [hits, hits, hits, Nat.add_comm, ← List.countP_eq_countP_filter_add]

/-- Dropped entries that lead to no field leave the methods that the entries lead to as they are. -/
theorem exists_leadsToMethod_filter_iff {target : ClassModel} {drops : String → Bool}
    {entries : List String}
    (unled : ∀ entry ∈ entries, drops entry = true → ¬LeadsToField context properties target entry)
    (method : String) :
    (∃ entry ∈ entries.filter fun entry => !drops entry,
      LeadsToMethod context properties target entry method) ↔
      ∃ entry ∈ entries, LeadsToMethod context properties target entry method := by
  constructor
  · rintro ⟨entry, member, led⟩
    exact ⟨entry, List.mem_of_mem_filter member, led⟩
  · rintro ⟨entry, member, led⟩
    have stays : drops entry = false := Bool.eq_false_iff.mpr fun dropped =>
      unled entry member dropped (leadsToField_of_leadsToMethod context properties led)
    exact ⟨entry, List.mem_filter.mpr ⟨member, by rw [stays, Bool.not_false]⟩, led⟩

/-- Dropped entries that lead to no field do not count. -/
theorem hits_filter_of_unled {target : ClassModel} {drops : String → Bool} {entries : List String}
    (unled : ∀ entry ∈ entries, drops entry = true → ¬LeadsToField context properties target entry)
    {field : FieldModel} (known : field ∈ target.fields) :
    hits context properties (entries.filter fun entry => !drops entry) field.name =
      hits context properties entries field.name := by
  have never : hits context properties (entries.filter drops) field.name = 0 := by
    refine List.countP_eq_zero.mpr fun entry member hit => ?_
    obtain ⟨listed, dropped⟩ := List.mem_filter.mp member
    have named : field.name = Required.fieldName context properties entry :=
      (beq_iff_eq.mp hit).symm
    exact unled entry listed dropped (List.mem_map.mpr ⟨field, known, named⟩)
  rw [← hits_filter_add context properties drops entries, never, Nat.add_zero]

/-- Dropped entries that lead to no field mark no method. -/
theorem markMethod_filter_of_unled {target : ClassModel} (distinct : (fieldNames target).Nodup)
    {drops : String → Bool} {entries : List String}
    (unled : ∀ entry ∈ entries, drops entry = true →
      ¬LeadsToField context properties target entry) (method : MethodModel) :
    markMethod ((entries.filter fun entry => !drops entry).flatMap
        (accessorNames context properties target)) method =
      markMethod (entries.flatMap (accessorNames context properties target)) method := by
  have listed : ((entries.filter fun entry => !drops entry).flatMap
      (accessorNames context properties target)).contains method.name =
        (entries.flatMap (accessorNames context properties target)).contains method.name := by
    rw [Bool.eq_iff_iff, contains_accessorNames context properties distinct,
      contains_accessorNames context properties distinct,
      exists_leadsToMethod_filter_iff context properties unled]
  rw [markMethod, markMethod, listed]

/-- The fields that all entries mark are those that some of them mark, and the dropped ones then
mark. -/
theorem fields_markEntries_filter {target : ClassModel} (distinct : (fieldNames target).Nodup)
    (drops : String → Bool) (entries : List String) :
    (markEntries context properties entries target).fields =
      (markEntries context properties (entries.filter fun entry => !drops entry)
        target).fields.map fun field =>
          markTimes context (hits context properties (entries.filter drops) field.name) field := by
  rw [markEntries_eq context properties distinct, markEntries_eq context properties distinct,
    List.map_map]
  refine List.map_congr_left fun field _ => ?_
  rw [Function.comp_apply, name_markTimes, markTimes_markTimes, hits_filter_add]

/-- Entries can be dropped exactly if none of them leads to a field. -/
theorem markEntries_filter_eq_iff {target : ClassModel} (distinct : (fieldNames target).Nodup)
    (drops : String → Bool) (entries : List String) :
    markEntries context properties (entries.filter fun entry => !drops entry) target =
        markEntries context properties entries target ↔
      ∀ entry ∈ entries, drops entry = true →
        ¬LeadsToField context properties target entry := by
  rw [markEntries_eq context properties distinct, markEntries_eq context properties distinct]
  constructor
  · intro same entry member dropped toField
    obtain ⟨field, known, named⟩ := List.mem_map.mp toField
    -- The field has more markers with the entry than without it.
    have times := markTimes_inj context
      (List.map_inj_left.mp (congrArg ClassModel.fields same) field known)
    have total := hits_filter_add context properties drops entries field.name
    have led : 0 < hits context properties (entries.filter drops) field.name :=
      List.countP_pos_iff.mpr ⟨entry, List.mem_filter.mpr ⟨member, dropped⟩, by simp [named]⟩
    omega
  · intro unled
    rw [List.map_congr_left fun field known => by
        rw [hits_filter_of_unled context properties unled known],
      funext (markMethod_filter_of_unled context properties distinct unled)]

/-- The class starts the same without the excluded properties. -/
theorem emptyClass_withoutExcluded (schema : Schema) (className package : Option String) :
    context.emptyClass schema.withoutExcluded className package =
      context.emptyClass schema className package :=
  context.emptyClass_congr (schema.get?_withoutExcluded_of_ne (by decide) (by decide))
    (schema.get?_withoutExcluded_of_ne (by decide) (by decide)) rfl className package

/-- Without the excluded properties the same members are made. -/
theorem unmarked_kept (start : ClassModel) (properties : Entries Json) :
    context.unmarked start (kept properties) = context.unmarked start properties := by
  rw [unmarked, unmarked, created_kept]

/-- The schema without its excluded properties has the class of those that are left and of the
entries that name no excluded property. -/
theorem generate_withoutExcluded_eq {schema : Schema} (className package : Option String)
    {properties : Entries Json} {entries : List String}
    (declared : schema.get? "properties" = some (.object properties))
    (listed : schema.get? "required" = some (.array (entries.map .string))) :
    context.generate schema.withoutExcluded className package =
      .ok (markEntries context (some properties)
        (entries.filter fun entry => !namesExcluded properties entry)
        (context.unmarked (context.emptyClass schema className package) properties)) := by
  rw [context.generate_eq_of_keywords className package
    (Schema.get?_properties_withoutExcluded declared)
    (Schema.get?_required_withoutExcluded declared listed),
    emptyClass_withoutExcluded, unmarked_kept]
  refine congrArg Except.ok (markEntries_congr context (fun entry member => ?_) _)
  have unnamed : namesExcluded properties entry = false := by
    simpa using (List.mem_filter.mp member).2
  exact Entries.get?_filter_value unnamed

/-- The class of a schema has the fields of the class without the excluded properties; each is
marked once more for each entry that names an excluded property and leads to it. If there is no such
entry, and only then, both classes are the same. -/
theorem generate_withoutExcluded {schema : Schema} (className package : Option String)
    {properties : Entries Json} {entries : List String}
    (declared : schema.get? "properties" = some (.object properties))
    (listed : schema.get? "required" = some (.array (entries.map .string))) :
    ∃ result stripped, context.generate schema className package = .ok result ∧
      context.generate schema.withoutExcluded className package = .ok stripped ∧
      result.fields = stripped.fields.map (fun field =>
        markTimes context (hits context (some properties)
          (entries.filter (namesExcluded properties)) field.name) field) ∧
      (stripped = result ↔ ∀ entry ∈ entries, namesExcluded properties entry = true →
        ¬LeadsToField context (some properties) result entry) := by
  have bare : (context.emptyClass schema className package).fields = [] := rfl
  have distinct := nodup_fieldNames_unmarked context bare properties
  refine ⟨_, _, context.generate_eq_of_keywords className package declared listed,
    context.generate_withoutExcluded_eq className package declared listed,
    fields_markEntries_filter context (some properties) distinct _ entries, ?_⟩
  rw [markEntries_filter_eq_iff context (some properties) distinct]
  unfold LeadsToField
  rw [fieldNames_markEntries context (some properties) distinct]

/-- An excluded property that is named twice does not show, since its own name leads to no field. -/
theorem generate_withoutExcluded_own_name :
    let context : RuleContext := .ofSettings { notNullAnnotations := true, swagger2 := true }
    let excluded : Json :=
      .object [("excludedFromGeneration", .bool true), ("javaName", .string "old")]
    let properties : Entries Json := [("name", .object []), ("id", excluded), ("i_d", .null)]
    let entries := ["name", "id", "absent", "id"]
    let schema : Schema :=
      { content := [("title", .string "Shop"), ("properties", .object properties),
          ("required", .array (entries.map .string))] }
    ∃ result, context.generate schema = .ok result ∧
      context.generate schema.withoutExcluded = .ok result ∧
      schema.withoutExcluded.content = [("title", .string "Shop"),
        ("properties", .object [("name", .object []), ("i_d", .null)]),
        ("required", .array [.string "name", .string "absent"])] := by
  intro context excluded properties entries schema
  have declared : schema.get? "properties" = some (.object properties) := rfl
  have listed : schema.get? "required" = some (.array (entries.map .string)) := rfl
  have made := context.generate_eq_of_keywords none none declared listed
  obtain ⟨result, stripped, generated, without, _, same⟩ :=
    context.generate_withoutExcluded none none declared listed
  obtain rfl := Except.ok.inj (made.symm.trans generated)
  have equal := same.mpr (by
    unfold LeadsToField
    decide)
  rw [equal] at without
  exact ⟨_, generated, without, rfl⟩

/-- The name of an excluded property can lead to the field of another. -/
theorem not_forall_generate_withoutExcluded :
    ¬∀ (settings : Settings) (schema : Schema) (className package : Option String)
      (properties : Entries Json) (entries : List String), settings.isValid = true →
      properties.keys.Nodup → schema.get? "properties" = some (.object properties) →
      schema.get? "required" = some (.array (entries.map .string)) →
      (ofSettings settings).generate schema.withoutExcluded className package =
        (ofSettings settings).generate schema className package := by
  intro same
  let properties : Entries Json :=
    [("first-name", .object [("excludedFromGeneration", .bool true)]), ("firstName", .object [])]
  let schema : Schema :=
    { content := [("properties", .object properties),
        ("required", .array [.string "first-name"])] }
  have alike := same {} schema none none properties ["first-name"] (by decide) (by decide) rfl rfl
  revert alike
  decide

end RuleContext

end SchemaBeans
