import SchemaBeans.Proofs.Generation.Marking

/-!
# Applying the standard rules again

A class to which the standard rules are applied again gets no new members: the name of each field
that the rule for `properties` could create is taken by then (`unmarked_eq_self`). What it has gets
its markers once more, and the annotations do not change when a field is marked again. So after any
number of applications a class is told from the class after the first by documentation alone, and
that grows by the same markers each time (`repeated_standard`).
-/
namespace SchemaBeans

open Properties Required

/-- A field without its documentation. -/
def FieldModel.withoutDoc (field : FieldModel) : FieldModel := { field with doc := {} }

/-- A method without its documentation. -/
def MethodModel.withoutDoc (method : MethodModel) : MethodModel := { method with doc := {} }

/-- The marker a number of times. -/
def markers (count : Nat) : String := String.join (List.replicate count marker)

/-- A method after it was marked a number of times. -/
def markMethodTimes (count : Nat) (method : MethodModel) : MethodModel :=
  { method with doc := ⟨method.doc.parts ++ List.replicate count marker⟩ }

/-- How often one application of the rule for `required` marks the methods of a name: once if the
name is that of an accessor of a field that an entry leads to, and not at all otherwise. -/
def accessorHits (context : RuleContext) (properties : Option (Entries Json))
    (entries : List String) (target : ClassModel) (method : String) : Nat :=
  if (entries.flatMap (accessorNames context properties target)).contains method then 1 else 0

namespace RuleContext

/-- What becomes of a class when the standard rules are applied to it a number of times. -/
def repeated (context : RuleContext) (schema : Schema) : Nat → ClassModel → Outcome
  | 0, target => .done target
  | count + 1, target =>
    (Rule.applyAll context Rule.standard schema target).andThen (context.repeated schema count)

/-- A class after a number of applications, compared with itself after the first of them, and with
itself after the rule for `properties` in the first. -/
structure Repetition (context : RuleContext) (properties : Option (Entries Json))
    (entries : List String) (count : Nat) (made first last : ClassModel) : Prop where
  /-- The name stays. -/
  name : last.name = first.name
  /-- The package stays. -/
  package : last.package = first.package
  /-- The documentation of the class stays. -/
  doc : last.doc = first.doc
  /-- The fields stay in their order with name, type, modifiers and annotations. -/
  fields : last.fields.map (·.withoutDoc) = first.fields.map (·.withoutDoc)
  /-- The methods stay in their order with signature, modifiers and annotations. -/
  methods : last.methods.map (·.withoutDoc) = first.methods.map (·.withoutDoc)
  /-- A field has, after its text, each time one marker for each entry that leads to it. -/
  fieldDocs : ∀ (index : Nat) (field : FieldModel), first.fields[index]? = some field →
    ∃ before after, made.fields[index]? = some before ∧ last.fields[index]? = some after ∧
      after.doc.text = before.doc.text ++
        markers (count * hits context properties entries field.name)
  /-- A method has, after its text, each time one marker or none. -/
  methodDocs : ∀ (index : Nat) (method : MethodModel), first.methods[index]? = some method →
    ∃ before after, made.methods[index]? = some before ∧ last.methods[index]? = some after ∧
      after.doc.text = before.doc.text ++
        markers (count * accessorHits context properties entries made method.name)

variable (context : RuleContext)

/-- The name of the field of a declared property is taken after the rule for `properties`, unless
the property asks to be left out. -/
theorem nameOf_mem_unmarked (start : ClassModel) {properties : Entries Json}
    {property : String × Json} (declared : property ∈ properties)
    (kept : isExcluded property.2 = false) :
    nameOf context property ∈ fieldNames (context.unmarked start properties) := by
  rw [unmarked, fieldNames_withMembers, List.mem_append]
  by_cases old : nameOf context property ∈ fieldNames start
  · exact .inl old
  · exact .inr ((mem_names_created context).mpr ⟨old, property, declared, kept, rfl⟩)

/-- Nothing is created where the names of all fields are taken. -/
theorem created_eq_nil {taken : List String} {properties : Entries Json}
    (known : ∀ property ∈ properties, isExcluded property.2 = false →
      nameOf context property ∈ taken) : created context taken properties = [] := by
  induction properties with
  | nil => rfl
  | cons property rest ih =>
    have left : isExcluded property.2 = true ∨ nameOf context property ∈ taken := by
      cases excluded : isExcluded property.2 with
      | true => exact .inl rfl
      | false => exact .inr (known property List.mem_cons_self excluded)
    rw [created, if_pos left]
    exact ih fun other member => known other (List.mem_cons_of_mem property member)

/-- The rule for `properties` leaves a class as it is whose fields have all the names. -/
theorem unmarked_eq_self {target : ClassModel} {properties : Entries Json}
    (known : ∀ property ∈ properties, isExcluded property.2 = false →
      nameOf context property ∈ fieldNames target) :
    context.unmarked target properties = target := by
  rw [unmarked, created_eq_nil context known, withMembers_nil]

/-- A class whose members were marked by a number of applications. -/
def marked (properties : Option (Entries Json)) (entries : List String) (made : ClassModel)
    (count : Nat) : ClassModel :=
  { made with
    fields := made.fields.map fun field =>
      markTimes context (count * hits context properties entries field.name) field
    methods := made.methods.map fun method =>
      markMethodTimes (count * accessorHits context properties entries made method.name) method }

section Marked

variable (properties : Option (Entries Json)) (entries : List String) (made : ClassModel)

/-- No application marks nothing. -/
theorem marked_zero : context.marked properties entries made 0 = made := by
  have fields : made.fields.map (fun field =>
      markTimes context (0 * hits context properties entries field.name) field) = made.fields := by
    simp only [Nat.zero_mul, markTimes_zero, List.map_id']
  have methods : made.methods.map (fun method => markMethodTimes
      (0 * accessorHits context properties entries made method.name) method) = made.methods := by
    simp [markMethodTimes]
  rw [marked, fields, methods]

/-- Marking keeps the names of the fields. -/
theorem fieldNames_marked (count : Nat) :
    fieldNames (context.marked properties entries made count) = fieldNames made := by
  rw [fieldNames, fieldNames, marked, List.map_map]
  rfl

/-- An entry leads to the same accessors however often the members were marked. -/
theorem accessorNames_marked (count : Nat) (entry : String) :
    accessorNames context properties (context.marked properties entries made count) entry =
      accessorNames context properties made entry := by
  have found (name : String) : (context.marked properties entries made count).field? name =
      (made.field? name).map fun field =>
        markTimes context (count * hits context properties entries field.name) field := by
    rw [ClassModel.field?, marked, List.find?_map]
    rfl
  unfold accessorNames
  rw [found]
  cases made.field? (fieldName context properties entry) <;> rfl

/-- A method is marked once more if it is among those whose names are collected. -/
theorem markMethod_markMethodTimes (count : Nat) (method : MethodModel) :
    markMethod (entries.flatMap (accessorNames context properties made))
        (markMethodTimes (count * accessorHits context properties entries made method.name)
          method) =
      markMethodTimes ((count + 1) * accessorHits context properties entries made method.name)
        method := by
  have kept (times : Nat) : (markMethodTimes times method).name = method.name := rfl
  unfold markMethod accessorHits
  rw [kept]
  split
  · have once : List.replicate ((count + 1) * 1) marker =
        List.replicate (count * 1) marker ++ [marker] := by
      rw [Nat.mul_one, Nat.mul_one, List.replicate_succ']
    rw [markMethodTimes, markMethodTimes, once, ← List.append_assoc]
    rfl
  · rw [Nat.mul_zero, Nat.mul_zero]

/-- The rule for `required` marks all members once more. -/
theorem markEntries_marked (distinct : (fieldNames made).Nodup) (count : Nat) :
    markEntries context properties entries (context.marked properties entries made count) =
      context.marked properties entries made (count + 1) := by
  have unique : (fieldNames (context.marked properties entries made count)).Nodup := by
    rw [fieldNames_marked]
    exact distinct
  have same : entries.flatMap
      (accessorNames context properties (context.marked properties entries made count)) =
        entries.flatMap (accessorNames context properties made) :=
    List.flatMap_congr fun entry _ => accessorNames_marked context properties entries made count entry
  have fields (field : FieldModel) : markTimes context (hits context properties entries field.name)
      (markTimes context (count * hits context properties entries field.name) field) =
        markTimes context ((count + 1) * hits context properties entries field.name) field := by
    rw [markTimes_markTimes, Nat.succ_mul]
  rw [markEntries_eq context properties unique, same]
  simp only [marked, List.map_map, Function.comp_def, name_markTimes, fields,
    markMethod_markMethodTimes]

/-- The text of documentation to which the marker was appended a number of times. -/
theorem text_append_markers (parts : List String) (count : Nat) :
    (Doc.mk (parts ++ List.replicate count marker)).text = (Doc.mk parts).text ++ markers count := by
  rw [Doc.text, String.join_append]
  rfl

/-- The annotations of a field are the same after any number of applications but none. -/
theorem withoutDoc_markTimes {count : Nat} (often : 1 ≤ count) (times : Nat) (field : FieldModel) :
    (markTimes context (count * times) field).withoutDoc =
      (markTimes context (1 * times) field).withoutDoc := by
  have nonzero : count ≠ 0 := by omega
  simp only [FieldModel.withoutDoc, markTimes, Nat.one_mul, Nat.mul_eq_zero, nonzero, false_or]

/-- Any number of applications but none is told from one by documentation alone. -/
theorem repetition_marked {count : Nat} (often : 1 ≤ count) :
    Repetition context properties entries count made (context.marked properties entries made 1)
      (context.marked properties entries made count) where
  name := rfl
  package := rfl
  doc := rfl
  fields := by
    simp only [marked, List.map_map, Function.comp_def, withoutDoc_markTimes context often]
  methods := by
    rw [marked, marked, List.map_map, List.map_map]
    rfl
  fieldDocs index field placed := by
    rw [marked, List.getElem?_map] at placed
    obtain ⟨before, there, rfl⟩ := Option.map_eq_some_iff.mp placed
    refine ⟨before, markTimes context (count * hits context properties entries before.name) before,
      there, ?_, text_append_markers before.doc.parts _⟩
    rw [marked, List.getElem?_map, there, Option.map_some]
  methodDocs index method placed := by
    rw [marked, List.getElem?_map] at placed
    obtain ⟨before, there, rfl⟩ := Option.map_eq_some_iff.mp placed
    refine ⟨before, markMethodTimes
      (count * accessorHits context properties entries made before.name) before,
      there, ?_, text_append_markers before.doc.parts _⟩
    rw [marked, List.getElem?_map, there, Option.map_some]

end Marked

/-- The standard rules make a class of what they read. -/
theorem applyAll_standard_eq_done_iff {schema : Schema} {start result : ClassModel} :
    Rule.applyAll context Rule.standard schema start = .done result ↔
      ∃ properties entries, schema.properties? = .ok properties ∧
        schema.requiredEntries = .ok entries ∧
        result = markEntries context properties entries
          (context.unmarked start (properties.getD [])) := by
  have closed := context.applyAll_standard schema start
  have done : Rule.applyAll context Rule.standard schema start = .done result ↔
      (Rule.applyAll context Rule.standard schema start).toExcept = .ok result := by
    cases Rule.applyAll context Rule.standard schema start <;> simp [Outcome.toExcept]
  rw [done, closed]
  cases schema.properties? with
  | error malformed => simp
  | ok properties =>
    cases schema.requiredEntries with
    | error malformed => simp
    | ok entries => simp [eq_comm]

/-- The rule for `properties` is the first of the standard rules. -/
theorem applyIfPresent_properties {schema : Schema} {properties : Option (Entries Json)}
    (read : schema.properties? = .ok properties) (start : ClassModel) :
    Rule.applyIfPresent context schema .properties start =
      .done (context.unmarked start (properties.getD [])) := by
  unfold Rule.applyIfPresent Rule.keyword
  cases present : schema.get? "properties" with
  | none =>
    obtain rfl : none = properties := by simpa [Schema.properties?, present] using read
    rw [Option.getD_none, unmarked, created, withMembers_nil]
  | some node => exact Properties.apply_of_properties context read start

/-- Further applications mark all members once more each. -/
theorem repeated_marked {schema : Schema} {properties : Option (Entries Json)}
    {entries : List String} (read : schema.properties? = .ok properties)
    (names : schema.requiredEntries = .ok entries) {made : ClassModel}
    (distinct : (fieldNames made).Nodup)
    (known : ∀ property ∈ properties.getD [], isExcluded property.2 = false →
      nameOf context property ∈ fieldNames made) (before count : Nat) :
    context.repeated schema count (context.marked properties entries made before) =
      .done (context.marked properties entries made (before + count)) := by
  induction count generalizing before with
  | zero => rfl
  | succ count ih =>
    have complete : context.unmarked (context.marked properties entries made before)
        (properties.getD []) = context.marked properties entries made before := by
      refine unmarked_eq_self context ?_
      rw [fieldNames_marked]
      exact known
    have once : Rule.applyAll context Rule.standard schema
        (context.marked properties entries made before) =
          .done (context.marked properties entries made (before + 1)) := by
      refine (applyAll_standard_eq_done_iff context).mpr ⟨properties, entries, read, names, ?_⟩
      rw [complete, markEntries_marked context properties entries made distinct]
    have rest := ih (before + 1)
    rw [repeated, once, Outcome.done_andThen, rest, Nat.add_right_comm, Nat.add_assoc]

/-- However often the standard rules are applied to a class, after the first time nothing changes
but documentation: each member gets the same number of markers each time. -/
theorem repeated_standard {schema : Schema} {start first : ClassModel}
    (distinct : (start.fields.map (·.name)).Nodup)
    (succeeds : Rule.applyAll context Rule.standard schema start = .done first) :
    ∃ made entries, Rule.applyIfPresent context schema .properties start = .done made ∧
      schema.requiredEntries = .ok entries ∧
      ∀ count, 1 ≤ count → ∃ last, context.repeated schema count start = .done last ∧
        Repetition context schema.declared entries count made first last := by
  obtain ⟨properties, entries, read, names, rfl⟩ :=
    (applyAll_standard_eq_done_iff context).mp succeeds
  obtain rfl := (Schema.properties?_eq_ok_iff.mp read).2
  have unique : (fieldNames (context.unmarked start (schema.declared.getD []))).Nodup := by
    rw [unmarked, fieldNames_withMembers]
    exact nodup_created context distinct _
  have known : ∀ property ∈ schema.declared.getD [], isExcluded property.2 = false →
      nameOf context property ∈
        fieldNames (context.unmarked start (schema.declared.getD [])) :=
    fun property declared kept => nameOf_mem_unmarked context start declared kept
  refine ⟨_, entries, applyIfPresent_properties context read start, names, fun count often => ?_⟩
  obtain ⟨more, rfl⟩ : ∃ more, count = 1 + more := ⟨count - 1, by omega⟩
  have once := markEntries_marked context schema.declared entries
    (context.unmarked start (schema.declared.getD [])) unique 0
  rw [marked_zero] at once
  have later := repeated_marked context read names unique known 1 more
  have all : context.repeated schema (1 + more) start = .done (context.marked schema.declared
      entries (context.unmarked start (schema.declared.getD [])) (1 + more)) := by
    rw [Nat.add_comm 1 more, repeated, succeeds, Outcome.done_andThen, once, later,
      Nat.add_comm more 1]
  refine ⟨_, all, ?_⟩
  rw [once]
  exact repetition_marked context schema.declared entries _ often

/-- Three applications to a class that has one of the fields and an accessor of it already: two
entries lead to that field, and one to the field that is created. -/
theorem repeated_standard_three_times :
    let context : RuleContext := .ofSettings { notNullAnnotations := true, swagger2 := true }
    let schema : Schema :=
      { content := [
          ("properties", .object [("first-name", .object []), ("age", .null)]),
          ("required", .array
            [.string "first-name", .string "absent", .string "firstName", .string "age"])] }
    let start : ClassModel :=
      { name := "Person"
        fields := [{ name := "firstName", doc := ⟨["Given."]⟩ }, { name := "other" }]
        methods := [{ name := "getFirstName" }, { name := "withFirstName" }] }
    ∃ first made entries last, Rule.applyAll context Rule.standard schema start = .done first ∧
      Rule.applyIfPresent context schema .properties start = .done made ∧
      schema.requiredEntries = .ok entries ∧
      context.repeated schema 3 start = .done last ∧
      Repetition context schema.declared entries 3 made first last := by
  intro context schema start
  obtain ⟨first, succeeds⟩ :
      ∃ first, Rule.applyAll context Rule.standard schema start = .done first :=
    ⟨_, (applyAll_standard_eq_done_iff context).mpr ⟨_, _, rfl, rfl, rfl⟩⟩
  obtain ⟨made, entries, created, names, often⟩ :=
    repeated_standard context (by decide) succeeds
  obtain ⟨last, all, repetition⟩ := often 3 (by decide)
  exact ⟨first, made, entries, last, succeeds, created, names, all, repetition⟩

end RuleContext

end SchemaBeans
