import SchemaBeans.Edit
import SchemaBeans.Proofs.Properties.Created
import SchemaBeans.Proofs.Required.Effect

/-!
# Edits as steps

Every edit of a class, a rule or a whole pipeline included, amounts to steps that each concern one
member at most: a member is added, documented or annotated. Which steps those are is said by
`Edit.steps`, and an edit leaves the class that its steps lead to (`target_apply_eq_applyEach`),
also if it stops.
-/
namespace SchemaBeans

open Properties Required

/-- An operation on a class that concerns one member at most. -/
inductive Step where
  /-- Add a field. -/
  | addField (field : FieldModel)
  /-- Add a method. -/
  | addMethod (method : MethodModel)
  /-- Append to the documentation of the class. -/
  | appendClassDoc (part : String)
  /-- Append to the documentation of a member. -/
  | appendDoc (member : MemberRef) (part : String)
  /-- Annotate a member and write parameters to the annotation. -/
  | annotate (member : MemberRef) (name : String) (params : List (String × ParamValue))

namespace Step

/-- The class that a step leads to; a step that adds a field of a taken name leads nowhere. -/
def apply (step : Step) (target : ClassModel) : ClassModel :=
  match step with
  | addField field => (target.addField field).target
  | addMethod method => target.addMethods [method]
  | appendClassDoc part => target.appendDoc part
  | appendDoc member part => target.modifyMember (·.appendDoc part) member
  | annotate member name params => target.modifyMember (·.annotate name params) member

/-- The class that steps lead to. -/
def applyEach (steps : List Step) (target : ClassModel) : ClassModel :=
  steps.foldl (fun target step => step.apply target) target

/-- Steps in a row lead where the second of them lead from where the first did. -/
theorem applyEach_append (first second : List Step) (target : ClassModel) :
    applyEach (first ++ second) target = applyEach second (applyEach first target) :=
  List.foldl_append

/-- Steps for each of some items lead where the items lead one after the other. -/
theorem applyEach_flatMap {α : Type} (steps : α → List Step) (items : List α)
    (target : ClassModel) :
    applyEach (items.flatMap steps) target =
      items.foldl (fun target item => applyEach (steps item) target) target :=
  List.foldl_flatMap

end Step

section Rules

variable (context : RuleContext)

/-- The steps that record the description of a field. -/
def describeSteps (field description : String) : List Step :=
  match context.metadata with
  | .none => []
  | .swagger2 =>
    if description = "" then []
    else [.annotate (.field field) Metadata.apiModelProperty [("value", .text description)]]

/-- The steps that record whether a field is required. -/
def recordSteps (field : String) (required : Bool) : List Step :=
  match context.metadata with
  | .none => []
  | .swagger2 =>
    [.annotate (.field field) Metadata.apiModelProperty [("required", .bool required)]]

/-- The steps that create the members of a property in the class of the given full name. -/
def creationSteps (className : String) (property : String × Json) : List Step :=
  .addField (newField context property.1 property.2) ::
    (newMethods context className property.1 property.2).map .addMethod

/-- The steps that mark a field as required. -/
def markSteps (field : String) : List Step :=
  .appendDoc (.field field) marker ::
    (if context.settings.notNullAnnotations then
      [.annotate (.field field) context.settings.notNullAnnotation []] else []) ++
    recordSteps context field true

/-- The steps that mark those methods whose names are listed, where methods of the names `before`
come before them. -/
def accessorSteps (names before : List String) : List MethodModel → List Step
  | [] => []
  | method :: rest =>
    (if names.contains method.name then
      [.appendDoc (.method method.name (before.count method.name)) marker] else []) ++
      accessorSteps names (before ++ [method.name]) rest

/-- The steps of a rule that is applied to a node: none if the rule stops. -/
def Rule.steps (rule : Rule) (node : Json) (schema : Schema) (target : ClassModel) : List Step :=
  match rule with
  | .properties =>
    match schema.properties? with
    | .error _ => []
    | .ok declared =>
      (created context (fieldNames target) (declared.getD [])).flatMap
        (creationSteps context target.fullName)
  | .required =>
    match requiredNames node schema.source, schema.properties? with
    | .ok entries, .ok declared =>
      entries.flatMap (fun entry => markSteps context (fieldName context declared entry)) ++
        accessorSteps (entries.flatMap (accessorNames context declared target)) [] target.methods
    | _, _ => []

/-- The steps of rules in order, up to the first that stops. -/
def Rule.allSteps (schema : Schema) : List Rule → ClassModel → List Step
  | [], _ => []
  | rule :: rest, target =>
    match schema.get? rule.keyword with
    | none => allSteps schema rest target
    | some node =>
      rule.steps context node schema target ++
        match rule.apply context node schema target with
        | .done changed => allSteps schema rest changed
        | .stopped _ _ => []

/-- The steps of an edit. -/
def Edit.steps (edit : Edit) (target : ClassModel) : List Step :=
  match edit with
  | addField field => [.addField field]
  | addMethod method => [.addMethod method]
  | appendClassDoc part => [.appendClassDoc part]
  | appendDoc member part => [.appendDoc member part]
  | annotate member name params => [.annotate member name params]
  | describe field description => describeSteps context field description
  | markRequired field required => recordSteps context field required
  | applyRule rule node schema => rule.steps context node schema target
  | applyAll rules schema => Rule.allSteps context schema rules target
  | applyByKeyword rules keyword schema =>
    match rules.find? (·.keyword == keyword) with
    | none => []
    | some rule => rule.steps context ((schema.get? keyword).getD .null) schema target

/-- The steps of edits in a row. -/
def Edit.allSteps : List Edit → ClassModel → List Step
  | [], _ => []
  | edit :: rest, target =>
    edit.steps context target ++ allSteps rest (edit.apply context target).target

end Rules

/-- Two changes of the first item of a kind are one, if the earlier keeps the kind. -/
theorem modifyFirst_modifyFirst {α : Type} {isKind : α → Bool} {earlier : α → α}
    (keeps : ∀ item, isKind (earlier item) = isKind item) (later : α → α) (items : List α) :
    modifyFirst isKind later (modifyFirst isKind earlier items) =
      modifyFirst isKind (fun item => later (earlier item)) items := by
  induction items with
  | nil => rfl
  | cons item rest ih =>
    cases kind : isKind item <;> simp [modifyFirst, kind, keeps, ih]

/-- Of items of a kind that come after others, the one after all of those is changed. -/
theorem modifyNth_append_cons {α : Type} {isKind : α → Bool} (item : α)
    (kind : isKind item = true) (change : α → α) (before after : List α) :
    modifyNth isKind change (before.countP isKind) (before ++ item :: after) =
      before ++ change item :: after := by
  induction before with
  | nil => simp [modifyNth, kind]
  | cons first rest ih =>
    cases known : isKind first <;> simp [modifyNth, known, ih]

namespace ClassModel

/-- Two changes of the field of a name are one, if the earlier keeps names. -/
theorem modifyField_modifyField {earlier : FieldModel → FieldModel}
    (keeps : ∀ field, (earlier field).name = field.name) (later : FieldModel → FieldModel)
    (name : String) (target : ClassModel) :
    (target.modifyField name earlier).modifyField name later =
      target.modifyField name fun field => later (earlier field) := by
  have kind (field : FieldModel) : ((earlier field).name == name) = (field.name == name) := by
    rw [keeps]
  unfold modifyField
  rw [modifyFirst_modifyFirst kind]

end ClassModel

section Refinement

variable (context : RuleContext)

/-- A field that is not changed leaves the class as it was. -/
theorem ClassModel.modifyField_id (name : String) (target : ClassModel) :
    target.modifyField name (fun field => field) = target := by
  have unchanged (fields : List FieldModel) :
      modifyFirst (·.name == name) (fun field => field) fields = fields := by
    induction fields with
    | nil => rfl
    | cons field rest ih => rw [modifyFirst, ih, ite_self]
  rw [modifyField, unchanged]

/-- The description of a field is recorded by its steps. -/
theorem applyEach_describeSteps (field description : String) (target : ClassModel) :
    Step.applyEach (describeSteps context field description) target =
      target.modifyField field (context.metadata.describe description) := by
  unfold describeSteps Metadata.describe
  cases context.metadata with
  | none => exact (target.modifyField_id field).symm
  | swagger2 =>
    by_cases empty : description = ""
    · simp only [empty, if_true]
      exact (target.modifyField_id field).symm
    · simp only [empty, if_false]
      rfl

/-- That a field is required, or that it is not, is recorded by its steps. -/
theorem applyEach_recordSteps (field : String) (required : Bool) (target : ClassModel) :
    Step.applyEach (recordSteps context field required) target =
      target.modifyField field (context.metadata.markRequired required) := by
  unfold recordSteps Metadata.markRequired
  cases context.metadata with
  | none => exact (target.modifyField_id field).symm
  | swagger2 => rfl

/-- A field is marked by its steps. -/
theorem applyEach_markSteps (field : String) (target : ClassModel) :
    Step.applyEach (markSteps context field) target =
      target.modifyField field (markField context) := by
  have annotated (marked : ClassModel) :
      Step.applyEach (if context.settings.notNullAnnotations then
        [.annotate (.field field) context.settings.notNullAnnotation []] else []) marked =
        marked.modifyField field (annotateNotNull context.settings) := by
    unfold annotateNotNull
    cases context.settings.notNullAnnotations with
    | true => rfl
    | false => exact (marked.modifyField_id field).symm
  have keepsDoc (known : FieldModel) : (known.mapMember markDoc).name = known.name := rfl
  have keepsNull (known : FieldModel) :
      (annotateNotNull context.settings (known.mapMember markDoc)).name = known.name := by
    unfold annotateNotNull
    split <;> rfl
  calc Step.applyEach (markSteps context field) target
      = Step.applyEach (recordSteps context field true)
          ((target.modifyField field (·.mapMember markDoc)).modifyField field
            (annotateNotNull context.settings)) := by
        rw [← annotated, ← Step.applyEach_append]
        rfl
    _ = ((target.modifyField field (·.mapMember markDoc)).modifyField field
          (annotateNotNull context.settings)).modifyField field
            (context.metadata.markRequired true) := applyEach_recordSteps context field true _
    _ = target.modifyField field (markField context) := by
        rw [ClassModel.modifyField_modifyField keepsDoc,
          ClassModel.modifyField_modifyField keepsNull]
        rfl

/-- The methods of a class after some of them are marked by their steps, where those before them
stay as they are. -/
theorem applyEach_accessorSteps (names : List String) (target : ClassModel)
    (before methods : List MethodModel) :
    Step.applyEach (accessorSteps names (before.map (·.name)) methods)
        { target with methods := before ++ methods } =
      { target with methods := before ++ methods.map (markMethod names) } := by
  induction methods generalizing before with
  | nil => rfl
  | cons method rest ih =>
    -- The marked method joins those before it, which the other steps skip by their names.
    have named : (before ++ [markMethod names method]).map (·.name) =
        before.map (·.name) ++ [method.name] := by
      unfold markMethod
      split <;> simp [MethodModel.mapMember, markDoc, Member.appendDoc]
    have first : Step.applyEach (if names.contains method.name then
        [.appendDoc (.method method.name ((before.map (·.name)).count method.name)) marker]
        else []) { target with methods := before ++ method :: rest } =
        { target with methods := before ++ markMethod names method :: rest } := by
      unfold markMethod
      split
      · have place : (before.map (·.name)).count method.name =
            before.countP (·.name == method.name) := List.countP_map
        have changed : modifyNth (·.name == method.name) (·.mapMember markDoc)
            (before.countP (·.name == method.name)) (before ++ method :: rest) =
              before ++ method.mapMember markDoc :: rest :=
          modifyNth_append_cons method (beq_self_eq_true method.name) _ before rest
        rw [place]
        exact congrArg (fun methods => { target with methods }) changed
      · rfl
    have later := ih (before ++ [markMethod names method])
    rw [named, List.append_assoc, List.append_assoc, List.singleton_append,
      List.singleton_append] at later
    rw [accessorSteps, Step.applyEach_append, first, later, List.map_cons]

/-- Marking fields keeps the methods. -/
theorem methods_foldl_markEntry (properties : Option (Entries Json)) (entries : List String)
    (target : ClassModel) :
    (entries.foldl (markEntry context properties) target).methods = target.methods := by
  induction entries generalizing target with
  | nil => rfl
  | cons entry rest ih => exact ih (markEntry context properties target entry)

/-- What entries lead to is marked by its steps. -/
theorem applyEach_required (properties : Option (Entries Json)) (entries : List String)
    (target : ClassModel) :
    Step.applyEach
        (entries.flatMap (fun entry => markSteps context (fieldName context properties entry)) ++
          accessorSteps (entries.flatMap (accessorNames context properties target)) []
            target.methods) target =
      markEntries context properties entries target := by
  have fields : Step.applyEach
      (entries.flatMap fun entry => markSteps context (fieldName context properties entry))
        target = entries.foldl (markEntry context properties) target := by
    rw [Step.applyEach_flatMap]
    exact List.foldl_ext _ _ target fun marked entry _ => applyEach_markSteps context _ marked
  have kept := methods_foldl_markEntry context properties entries target
  have methods := applyEach_accessorSteps
    (entries.flatMap (accessorNames context properties target))
    (entries.foldl (markEntry context properties) target) [] target.methods
  rw [List.nil_append, ← kept] at methods
  rw [Step.applyEach_append, fields, ← kept]
  exact methods

/-- Methods are added by their steps. -/
theorem applyEach_addMethods (methods : List MethodModel) (target : ClassModel) :
    Step.applyEach (methods.map .addMethod) target = target.addMethods methods := by
  induction methods generalizing target with
  | nil => simp [Step.applyEach, ClassModel.addMethods]
  | cons method rest ih =>
    have later := ih (target.addMethods [method])
    simp only [ClassModel.addMethods, List.append_assoc, List.singleton_append] at later ⊢
    exact later

/-- The members of a property whose field name is not taken are created by their steps. -/
theorem applyEach_creationSteps {property : String × Json} {target : ClassModel}
    (fresh : nameOf context property ∉ fieldNames target) :
    Step.applyEach (creationSteps context target.fullName property) target =
      withMembers context target [property] := by
  have missing : target.field? (newField context property.1 property.2).name = none := by
    rw [name_newField]
    simpa using mt isSome_field?_iff.mp fresh
  have added : (Step.addField (newField context property.1 property.2)).apply target =
      { target with fields := target.fields ++ [newField context property.1 property.2] } := by
    simp only [Step.apply, ClassModel.addField, missing, Outcome.target]
  have methods := applyEach_addMethods (newMethods context target.fullName property.1 property.2)
    { target with fields := target.fields ++ [newField context property.1 property.2] }
  rw [creationSteps, Step.applyEach, List.foldl_cons, added]
  refine methods.trans ?_
  simp [ClassModel.addMethods, withMembers]

/-- The members of properties with distinct field names that are not taken are created by their
steps. -/
theorem applyEach_flatMap_creationSteps {properties : List (String × Json)} {target : ClassModel}
    (fresh : ∀ property ∈ properties, nameOf context property ∉ fieldNames target)
    (distinct : (properties.map (nameOf context)).Nodup) :
    Step.applyEach (properties.flatMap (creationSteps context target.fullName)) target =
      withMembers context target properties := by
  induction properties generalizing target with
  | nil => exact (withMembers_nil context target).symm
  | cons property rest ih =>
    obtain ⟨apart, later⟩ := List.nodup_cons.mp distinct
    have first := applyEach_creationSteps context (fresh property List.mem_cons_self)
    have still : ∀ other ∈ rest, nameOf context other ∉
        fieldNames (withMembers context target [property]) := by
      intro other member taken
      rw [fieldNames_withMembers] at taken
      rcases List.mem_append.mp taken with old | new
      · exact fresh other (List.mem_cons_of_mem property member) old
      · have same : nameOf context other = nameOf context property := by simpa using new
        exact apart (same ▸ List.mem_map_of_mem member)
    have rested := ih still later
    rw [fullName_withMembers, withMembers_withMembers] at rested
    rw [List.flatMap_cons, Step.applyEach_append, first, rested, List.singleton_append]

/-- The fields that are created have distinct names, whichever names were taken. -/
theorem nodup_names_created (taken : List String) (properties : List (String × Json)) :
    ((created context taken properties).map (nameOf context)).Nodup := by
  induction properties generalizing taken with
  | nil => exact List.nodup_nil
  | cons property rest ih =>
    unfold created
    split
    · exact ih taken
    · rw [List.map_cons, List.nodup_cons]
      refine ⟨fun again => ?_, ih (taken ++ [nameOf context property])⟩
      exact (mem_names_created context |>.mp again).1 (by simp)

/-- A rule leaves the class that its steps lead to. -/
theorem Rule.target_apply_eq_applyEach (rule : Rule) (node : Json) (schema : Schema)
    (target : ClassModel) :
    (rule.apply context node schema target).target =
      Step.applyEach (rule.steps context node schema target) target := by
  cases rule with
  | properties =>
    cases read : schema.properties? with
    | error malformed => simp [Rule.apply, Rule.steps, Properties.apply, read, Step.applyEach,
        Outcome.target]
    | ok declared =>
      have distinct := nodup_names_created context (fieldNames target) (declared.getD [])
      have fresh : ∀ property ∈ created context (fieldNames target) (declared.getD []),
          nameOf context property ∉ fieldNames target := fun property member =>
        ((mem_names_created context).mp (List.mem_map_of_mem member)).1
      rw [Rule.apply, Properties.apply_of_properties context read, Outcome.target]
      simp only [Rule.steps, read]
      exact (applyEach_flatMap_creationSteps context fresh distinct).symm
  | required =>
    cases names : requiredNames node schema.source with
    | error malformed => simp [Rule.apply, Rule.steps, Required.apply, names, Step.applyEach,
        Outcome.target]
    | ok entries =>
      cases read : schema.properties? with
      | error malformed => simp [Rule.apply, Rule.steps, Required.apply, names, read,
          Step.applyEach, Outcome.target]
      | ok declared =>
        have marked := applyEach_required context declared entries target
        simp only [Rule.apply, Rule.steps, Required.apply, names, read, Outcome.target, marked]

/-- Rules in order leave the class that their steps lead to, also if one of them stops. -/
theorem Rule.target_applyAll_eq_applyEach (schema : Schema) (rules : List Rule)
    (target : ClassModel) :
    (Rule.applyAll context rules schema target).target =
      Step.applyEach (Rule.allSteps context schema rules target) target := by
  induction rules generalizing target with
  | nil => rfl
  | cons rule rest ih =>
    cases present : schema.get? rule.keyword with
    | none =>
      have later := ih target
      simp only [Rule.applyAll, Outcome.forEach, Rule.applyIfPresent, present,
        Outcome.done_andThen, Rule.allSteps] at later ⊢
      exact later
    | some node =>
      have first := rule.target_apply_eq_applyEach context node schema target
      cases ended : rule.apply context node schema target with
      | stopped changed failure =>
        rw [ended, Outcome.target] at first
        simp only [Rule.applyAll, Outcome.forEach, Rule.applyIfPresent, present, ended,
          Outcome.stopped_andThen, Rule.allSteps, List.append_nil, Outcome.target, first]
      | done changed =>
        rw [ended, Outcome.target] at first
        have later := ih changed
        simp only [Rule.applyAll, Outcome.forEach, Rule.applyIfPresent, present, ended,
          Outcome.done_andThen, Rule.allSteps, Step.applyEach_append, ← first] at later ⊢
        exact later

/-- An edit leaves the class that its steps lead to, also if it stops. -/
theorem Edit.target_apply_eq_applyEach (edit : Edit) (target : ClassModel) :
    (edit.apply context target).target =
      Step.applyEach (edit.steps context target) target := by
  cases edit with
  | describe field description => exact (applyEach_describeSteps context _ _ target).symm
  | markRequired field required => exact (applyEach_recordSteps context _ _ target).symm
  | applyRule rule node schema => exact rule.target_apply_eq_applyEach context node schema target
  | applyAll rules schema => exact Rule.target_applyAll_eq_applyEach context schema rules target
  | applyByKeyword rules keyword schema =>
    cases found : rules.find? (·.keyword == keyword) with
    | none => simp only [Edit.apply, Edit.steps, Rule.applyByKeyword, found]; rfl
    | some rule =>
      simp only [Edit.apply, Edit.steps, Rule.applyByKeyword, found]
      exact rule.target_apply_eq_applyEach context _ schema target
  | _ => rfl

/-- Edits in a row leave the class that their steps lead to, those that stop included. -/
theorem Edit.applyEach_eq_applyEach (edits : List Edit) (target : ClassModel) :
    Edit.applyEach context edits target =
      Step.applyEach (Edit.allSteps context edits target) target := by
  induction edits generalizing target with
  | nil => rfl
  | cons edit rest ih =>
    rw [Edit.allSteps, Step.applyEach_append, ← edit.target_apply_eq_applyEach context target,
      ← ih]
    rfl

end Refinement

end SchemaBeans
