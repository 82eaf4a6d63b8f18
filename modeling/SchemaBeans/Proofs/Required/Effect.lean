import Mathlib.Data.List.Nodup
import SchemaBeans.Proofs.Required.Annotations
import SchemaBeans.Proofs.Schema.Shape

/-!
# The effect of the rule for `required`

The rule runs twice over a class: once over the entries, marking the field each of them leads to,
and once over the methods, marking those whose names the first run has collected. In closed form
(`markEntries_eq`) a field is marked once for each entry that leads to it, and a method
(`mem_accessorNames`) is marked once if it has the name of an accessor of a field that was found.
Nothing else of the class changes.
-/
namespace SchemaBeans

/-- Among items with distinct keys the first of a key is the only one. -/
theorem modifyFirst_eq_map {α β : Type} [DecidableEq β] {key : α → β} {items : List α}
    (distinct : (items.map key).Nodup) (wanted : β) (change : α → α) :
    modifyFirst (key · == wanted) change items =
      items.map fun item => if key item = wanted then change item else item := by
  induction items with
  | nil => rfl
  | cons item rest ih =>
    obtain ⟨fresh, later⟩ := List.nodup_cons.mp distinct
    by_cases same : key item = wanted
    · have others : ∀ other ∈ rest, key other ≠ wanted := fun other member equal =>
        fresh (same ▸ equal ▸ List.mem_map_of_mem member)
      have unchanged : rest.map (fun other => if key other = wanted then change other else other) =
          rest := by
        rw [List.map_congr_left fun other member => if_neg (others other member), List.map_id']
      simp [modifyFirst, same, unchanged]
    · simp [modifyFirst, same, ih later]

namespace Required

variable (context : RuleContext) (properties : Option (Entries Json))

/-- The number of entries that lead to the field of a name. -/
def hits (entries : List String) (field : String) : Nat :=
  entries.countP (fieldName context properties · == field)

/-- A field after it was marked a number of times. -/
def markTimes (count : Nat) (field : FieldModel) : FieldModel :=
  { field with
    doc := ⟨field.doc.parts ++ List.replicate count marker⟩
    annotations :=
      if count = 0 then field.annotations else requiredNotes context field.annotations }

/-- A field that was never marked is as it was. -/
theorem markTimes_zero (field : FieldModel) : markTimes context 0 field = field := by
  simp [markTimes]

/-- Marking a field once more before is marking it once more. -/
theorem markTimes_markField (count : Nat) (field : FieldModel) :
    markTimes context count (markField context field) = markTimes context (count + 1) field := by
  rw [markField_eq]
  simp only [markTimes, Doc.append, List.append_assoc, List.replicate_succ, List.singleton_append,
    requiredNotes_idem, Nat.add_eq_zero_iff, Nat.one_ne_zero, and_false, if_false, ite_self]

/-- Marking keeps the name of a field. -/
theorem name_markTimes (count : Nat) (field : FieldModel) :
    (markTimes context count field).name = field.name := rfl

/-- An entry marks the field it leads to, and no other. -/
theorem markEntry_eq {target : ClassModel} (distinct : (target.fields.map (·.name)).Nodup)
    (entry : String) :
    markEntry context properties target entry =
      { target with
        fields := target.fields.map fun field =>
          markTimes context (hits context properties [entry] field.name) field } := by
  have counted (field : FieldModel) :
      (if field.name = fieldName context properties entry then markField context field
        else field) = markTimes context (hits context properties [entry] field.name) field := by
    by_cases same : field.name = fieldName context properties entry
    · have once : hits context properties [entry] field.name = 0 + 1 := by simp [hits, same]
      rw [if_pos same, once, ← markTimes_markField, markTimes_zero]
    · have never : hits context properties [entry] field.name = 0 := by
        simpa [hits] using fun equal => same equal.symm
      rw [if_neg same, never, markTimes_zero]
  rw [markEntry, ClassModel.modifyField, modifyFirst_eq_map distinct, funext counted]

/-- Marking a field for some entries and then for others is marking it for all of them. -/
theorem markTimes_markTimes (first second : Nat) (field : FieldModel) :
    markTimes context second (markTimes context first field) =
      markTimes context (first + second) field := by
  induction first generalizing field with
  | zero => rw [markTimes_zero, Nat.zero_add]
  | succ first ih =>
    rw [← markTimes_markField context first field, ih, markTimes_markField, Nat.succ_add]

/-- A field that is marked is told from itself marked another number of times. -/
theorem markTimes_inj {first second : Nat} {field : FieldModel}
    (same : markTimes context first field = markTimes context second field) : first = second := by
  have lengths := congrArg (fun marked : FieldModel => marked.doc.parts.length) same
  simpa [markTimes] using lengths

/-- The entries mark each field as often as they lead to it. -/
theorem foldl_markEntry_eq {target : ClassModel}
    (distinct : (target.fields.map (·.name)).Nodup) (entries : List String) :
    entries.foldl (markEntry context properties) target =
      { target with
        fields := target.fields.map fun field =>
          markTimes context (hits context properties entries field.name) field } := by
  induction entries generalizing target with
  | nil =>
    have unchanged : (fun field : FieldModel =>
        markTimes context (hits context properties [] field.name) field) = id :=
      funext fun field => markTimes_zero context field
    rw [List.foldl_nil, unchanged, List.map_id]
  | cons entry rest ih =>
    -- Marking keeps the names, so the hypothesis applies to the fields after one entry.
    have names : ((target.fields.map fun field =>
        markTimes context (hits context properties [entry] field.name) field).map
          (·.name)).Nodup := by
      simpa [Function.comp_def, name_markTimes] using distinct
    have counted (field : FieldModel) : markTimes context (hits context properties rest field.name)
        (markTimes context (hits context properties [entry] field.name) field) =
          markTimes context (hits context properties (entry :: rest) field.name) field := by
      rw [markTimes_markTimes, hits, hits, hits, ← List.countP_append, List.singleton_append]
    rw [List.foldl_cons, markEntry_eq context properties distinct, ih names, List.map_map]
    simp only [Function.comp_def, name_markTimes, counted]

/-- A method after the first run has collected names. -/
def markMethod (names : List String) (method : MethodModel) : MethodModel :=
  if names.contains method.name then method.mapMember markDoc else method

/-- Both runs mark each member where it is. -/
theorem markEntries_eq {target : ClassModel} (distinct : (target.fields.map (·.name)).Nodup)
    (entries : List String) :
    markEntries context properties entries target =
      { target with
        fields := target.fields.map fun field =>
          markTimes context (hits context properties entries field.name) field
        methods := target.methods.map
          (markMethod (entries.flatMap (accessorNames context properties target))) } := by
  rw [markEntries, foldl_markEntry_eq context properties distinct]
  rfl

/-- Entries mark the same if each of them is looked up alike. -/
theorem markEntries_congr {first second : Option (Entries Json)} {entries : List String}
    (alike : ∀ entry ∈ entries, propertyNode first entry = propertyNode second entry)
    (target : ClassModel) :
    markEntries context first entries target = markEntries context second entries target := by
  have fields : entries.foldl (markEntry context first) target =
      entries.foldl (markEntry context second) target :=
    List.foldl_ext _ _ target fun reached entry member => by
      rw [markEntry, markEntry, fieldName, fieldName, alike entry member]
  have methods : entries.flatMap (accessorNames context first target) =
      entries.flatMap (accessorNames context second target) :=
    List.flatMap_congr fun entry member => by
      simp only [accessorNames, fieldName, alike entry member]
  rw [markEntries, markEntries, fields, methods]

/-- Among fields with distinct names, a field is found by its name. -/
theorem field?_eq_some_iff {target : ClassModel} (distinct : (target.fields.map (·.name)).Nodup)
    {name : String} {field : FieldModel} :
    target.field? name = some field ↔ field ∈ target.fields ∧ field.name = name := by
  constructor
  · intro found
    exact ⟨List.mem_of_find?_eq_some found, by simpa using List.find?_some found⟩
  · rintro ⟨member, rfl⟩
    cases found : target.field? field.name with
    | none => simpa using List.find?_eq_none.mp found field member
    | some first =>
      have named : first.name = field.name := by simpa using List.find?_some found
      rw [List.inj_on_of_nodup_map distinct (List.mem_of_find?_eq_some found) member named]

/-- An entry leads to the methods with the name of the getter or of the setter of a field that it
leads to. -/
def LeadsToMethod (target : ClassModel) (entry method : String) : Prop :=
  ∃ field ∈ target.fields, field.name = fieldName context properties entry ∧
    (method = context.naming.getterName entry field.type (propertyNode properties entry) ∨
      method = context.naming.setterName entry (propertyNode properties entry))

/-- The names that the first run collects are those of the methods that entries lead to. -/
theorem mem_accessorNames {target : ClassModel} (distinct : (target.fields.map (·.name)).Nodup)
    {entry method : String} :
    method ∈ accessorNames context properties target entry ↔
      LeadsToMethod context properties target entry method := by
  unfold accessorNames LeadsToMethod
  cases found : target.field? (fieldName context properties entry) with
  | none =>
    have absent := List.find?_eq_none.mp found
    simp only [List.not_mem_nil, false_iff, not_exists, not_and]
    exact fun field member named => absurd named (by simpa using absent field member)
  | some field =>
    have only := (field?_eq_some_iff distinct).mp found
    simp only [List.mem_cons, List.not_mem_nil, or_false]
    constructor
    · exact fun named => ⟨field, only.1, only.2, named⟩
    · rintro ⟨other, member, named, accessor⟩
      obtain rfl := List.inj_on_of_nodup_map distinct member only.1 (named.trans only.2.symm)
      exact accessor

/-- What the rule does to a field. -/
structure FieldEffect (entries : List String) (before after : FieldModel) : Prop where
  /-- The name stays. -/
  name : after.name = before.name
  /-- The type stays. -/
  type : after.type = before.type
  /-- The modifiers stay. -/
  modifiers : after.modifiers = before.modifiers
  /-- The documentation gets the marker once for each entry that leads to the field. -/
  doc : after.doc.parts =
    before.doc.parts ++ List.replicate (hits context properties entries before.name) marker
  /-- The annotations stay if no entry leads to the field. -/
  untouched : (∀ entry ∈ entries, fieldName context properties entry ≠ before.name) →
    after.annotations = before.annotations
  /-- The field is annotated if an entry leads to it. -/
  annotated : (∃ entry ∈ entries, fieldName context properties entry = before.name) →
    NotesEffect context before.annotations after.annotations

/-- What the rule does to a method of a class. -/
structure MethodEffect (entries : List String) (target : ClassModel)
    (before after : MethodModel) : Prop where
  /-- The documentation gets the marker once if an entry leads to the method. -/
  marked : (∃ entry ∈ entries, LeadsToMethod context properties target entry before.name) →
    after = { before with doc := before.doc.append marker }
  /-- The method stays if no entry leads to it. -/
  untouched : (∀ entry ∈ entries, ¬LeadsToMethod context properties target entry before.name) →
    after = before

/-- A field that is marked once for each entry has the effect that the rule is to have. -/
theorem fieldEffect_markTimes (entries : List String) (field : FieldModel) :
    FieldEffect context properties entries field
      (markTimes context (hits context properties entries field.name) field) where
  name := rfl
  type := rfl
  modifiers := rfl
  doc := rfl
  untouched missed := by
    have never : hits context properties entries field.name = 0 := by
      simpa [hits, List.countP_eq_zero] using missed
    rw [never, markTimes_zero]
  annotated found := by
    have often : hits context properties entries field.name ≠ 0 := by
      simpa [hits, List.countP_eq_zero] using found
    simpa only [markTimes, if_neg often] using notesEffect_requiredNotes context field.annotations

/-- The first run collects the names of the methods that entries lead to. -/
theorem contains_accessorNames {target : ClassModel}
    (distinct : (target.fields.map (·.name)).Nodup) (entries : List String) (method : String) :
    (entries.flatMap (accessorNames context properties target)).contains method = true ↔
      ∃ entry ∈ entries, LeadsToMethod context properties target entry method := by
  simp only [List.contains_iff_mem, List.mem_flatMap, mem_accessorNames context properties distinct]

/-- A method is marked if its name is among those that the first run has collected. -/
theorem methodEffect_markMethod {target : ClassModel}
    (distinct : (target.fields.map (·.name)).Nodup) (entries : List String) (method : MethodModel) :
    MethodEffect context properties entries target method
      (markMethod (entries.flatMap (accessorNames context properties target)) method) := by
  have collected := contains_accessorNames context properties distinct entries method.name
  unfold markMethod
  constructor
  · intro led
    rw [if_pos (collected.mpr led)]
    rfl
  · intro missed
    rw [if_neg]
    rw [collected]
    rintro ⟨entry, member, led⟩
    exact missed entry member led

/-- The rule succeeds on an array of texts, and changes exactly what it is to change: each field by
the entries that lead to it, and each method by whether its name was collected. -/
theorem apply_effect {schema : Schema} {target : ClassModel}
    (distinct : (target.fields.map (·.name)).Nodup) (shaped : schema.ShapedProperties)
    (entries : List String) :
    ∃ result, apply context (.array (entries.map .string)) schema target = .done result ∧
      result.name = target.name ∧ result.package = target.package ∧ result.doc = target.doc ∧
      List.Forall₂ (FieldEffect context schema.declared entries) target.fields result.fields ∧
      List.Forall₂ (MethodEffect context schema.declared entries target)
        target.methods result.methods := by
  have names : requiredNames (.array (entries.map .string)) schema.source = .ok entries :=
    requiredNames_eq_ok_iff.mpr rfl
  have declared := Schema.properties?_eq_ok_iff.mpr ⟨shaped, rfl⟩
  refine ⟨markEntries context schema.declared entries target, ?_, ?_⟩
  · rw [apply, names, declared]
  · rw [markEntries_eq context schema.declared distinct]
    refine ⟨rfl, rfl, rfl, ?_, ?_⟩
    · exact List.forall₂_map_right_iff.mpr (List.forall₂_same.mpr fun field _ =>
        fieldEffect_markTimes context schema.declared entries field)
    · exact List.forall₂_map_right_iff.mpr (List.forall₂_same.mpr fun method _ =>
        methodEffect_markMethod context schema.declared distinct entries method)

/-- The effect on a field to which two spellings lead, one of them of a declared property that is
no object, with a setter of two overloads and a method of another name. -/
theorem apply_effect_of_two_spellings :
    let context : RuleContext := .ofSettings { notNullAnnotations := true, swagger2 := true }
    let schema : Schema := { content := [("properties", .object [("first-name", .int 3)])] }
    let entries := ["first-name", "absent", "firstName"]
    let target : ClassModel :=
      { name := "Person"
        fields := [
          { name := "firstName", annotations := [{ name := Metadata.apiModelProperty }] },
          { name := "other", doc := ⟨["Other."]⟩ }]
        methods := [
          { name := "getFirstName" },
          { name := "setFirstName", params := [("firstName", .object)] },
          { name := "setFirstName", params := [("firstName", .string)] },
          { name := "withFirstName" }] }
    ∃ result, apply context (.array (entries.map .string)) schema target = .done result ∧
      result.name = target.name ∧ result.package = target.package ∧ result.doc = target.doc ∧
      List.Forall₂ (FieldEffect context schema.declared entries) target.fields result.fields ∧
      List.Forall₂ (MethodEffect context schema.declared entries target)
        target.methods result.methods :=
  apply_effect _ (by decide) (by simp [Schema.ShapedProperties, Schema.get?, Entries.get?]) _

end Required

end SchemaBeans
