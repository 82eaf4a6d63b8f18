import Mathlib.Data.List.Induction
import SchemaBeans.Edit
import SchemaBeans.Proofs.Generation.Marking
import SchemaBeans.Proofs.Properties.Effect

/-!
# Records of being required

That a field is required is recorded in three places: in its documentation, by the annotation for
fields that are not null, and in its metadata. Rules write them one by one, in any order and for
different schemas. What one use of a rule does to a class is one of three things
(`target_apply_cases`). So after any uses in a row each field is one that was created for a
property and marked since then a number of times (`RunInvariant`), and its records say just that
(`records_afterUses`).
-/
namespace SchemaBeans

/-- A use of a rule for a node of a schema. -/
structure RuleUse where
  /-- The rule. -/
  rule : Rule
  /-- The node. -/
  node : Json
  /-- The schema. -/
  schema : Schema

/-- A use of a rule edits a class. -/
def RuleUse.edit (use : RuleUse) : Edit := .applyRule use.rule use.node use.schema

/-- The parameter of a key in the annotation of a name. -/
def Member.param? (member : Member) (name key : String) : Option ParamValue :=
  (member.annotation? name).bind (·.params.get? key)

namespace RuleContext

open Properties Required

/-- The class after uses of rules in a row, those that stop included. -/
def afterUses (context : RuleContext) (uses : List RuleUse) (start : ClassModel) : ClassModel :=
  Edit.applyEach context (uses.map RuleUse.edit) start

/-- A use after others changes the class that they have left. -/
theorem afterUses_concat (context : RuleContext) (uses : List RuleUse) (use : RuleUse)
    (start : ClassModel) :
    context.afterUses (uses ++ [use]) start =
      (use.rule.apply context use.node use.schema (context.afterUses uses start)).target := by
  simp only [afterUses, Edit.applyEach, List.map_append, List.foldl_append, List.map_cons,
    List.map_nil, List.foldl_cons, List.foldl_nil, RuleUse.edit, Edit.apply]

/-- A use of a rule leaves a class as it is, creates members in it, or marks some of them. -/
theorem target_apply_cases (context : RuleContext) (use : RuleUse) (target : ClassModel) :
    (use.rule.apply context use.node use.schema target).target = target ∨
    (∃ properties, (use.rule.apply context use.node use.schema target).target =
      withMembers context target (created context (fieldNames target) properties)) ∨
    ∃ properties entries, (use.rule.apply context use.node use.schema target).target =
      markEntries context properties entries target := by
  cases use.rule with
  | properties =>
    cases declared : use.schema.properties? with
    | error malformed =>
      exact .inl (by simp [Rule.apply, Properties.apply, declared, Outcome.target])
    | ok properties =>
      refine .inr (.inl ⟨properties.getD [], ?_⟩)
      rw [Rule.apply, apply_of_properties context declared, Outcome.target]
  | required =>
    simp only [Rule.apply, Required.apply]
    cases requiredNames use.node use.schema.source with
    | error malformed => exact .inl rfl
    | ok entries =>
      cases use.schema.properties? with
      | error malformed => exact .inl rfl
      | ok properties => exact .inr (.inr ⟨properties, entries, rfl⟩)

/-- The field at a place as it was when a use in a row had just created it. -/
def CreatedAs (context : RuleContext) (start : ClassModel) (uses : List RuleUse) (index : Nat)
    (field : FieldModel) : Prop :=
  ∃ before use later, uses = before ++ use :: later ∧
    (context.afterUses before start).fields[index]? = none ∧
    (context.afterUses (before ++ [use]) start).fields[index]? = some field

/-- A field stays created however the row of uses goes on. -/
theorem CreatedAs.concat {context : RuleContext} {start : ClassModel} {uses : List RuleUse}
    {index : Nat} {field : FieldModel} (known : CreatedAs context start uses index field)
    (use : RuleUse) : CreatedAs context start (uses ++ [use]) index field := by
  obtain ⟨before, creating, later, rfl, missing, made⟩ := known
  exact ⟨before, creating, later ++ [use], by simp, missing, made⟩

/-- A field at a place was created for a property, and marked since then a number of times. -/
def Grown (context : RuleContext) (start : ClassModel) (uses : List RuleUse) (index : Nat)
    (field : FieldModel) : Prop :=
  ∃ (property : String × Json) (count : Nat),
    CreatedAs context start uses index (newField context property.1 property.2) ∧
    field = markTimes context count (newField context property.1 property.2)

/-- What uses of rules keep of a class. -/
structure RunInvariant (context : RuleContext) (start : ClassModel) (uses : List RuleUse) :
    Prop where
  /-- The fields have distinct names. -/
  distinct : (fieldNames (context.afterUses uses start)).Nodup
  /-- Each field was created for a property and marked since then. -/
  fields : ∀ (index : Nat) (field : FieldModel),
    (context.afterUses uses start).fields[index]? = some field →
      Grown context start uses index field
  /-- No method is annotated. -/
  methods : ∀ method ∈ (context.afterUses uses start).methods, method.annotations = []

/-- Before any use a class without members has the invariant. -/
theorem runInvariant_nil (context : RuleContext) (name package : String) (doc : Doc) :
    RunInvariant context { name, package, doc } [] where
  distinct := List.nodup_nil
  fields index field placed := by simp [afterUses, Edit.applyEach] at placed
  methods method member := by simp [afterUses, Edit.applyEach] at member

/-- The methods that are created for a property are not annotated. -/
theorem annotations_of_mem_newMethods {context : RuleContext} {className property : String}
    {node : Json} {method : MethodModel}
    (member : method ∈ newMethods context className property node) : method.annotations = [] := by
  unfold newMethods at member
  rcases List.mem_append.mp member with accessor | added
  · rcases List.mem_cons.mp accessor with rfl | setter
    · rfl
    · rw [List.mem_singleton.mp setter]
      rfl
  · split at added
    · rw [List.mem_singleton.mp added]
      rfl
    · simp at added

section Step

variable {context : RuleContext} {start : ClassModel} {uses : List RuleUse}

/-- A use that leaves the class as it is keeps the invariant. -/
theorem RunInvariant.keep (known : RunInvariant context start uses) {use : RuleUse}
    (result : context.afterUses (uses ++ [use]) start = context.afterUses uses start) :
    RunInvariant context start (uses ++ [use]) where
  distinct := by
    rw [result]
    exact known.distinct
  fields index field placed := by
    rw [result] at placed
    obtain ⟨property, count, created, grown⟩ := known.fields index field placed
    exact ⟨property, count, created.concat use, grown⟩
  methods := by
    rw [result]
    exact known.methods

/-- A use that creates members keeps the invariant: new fields are marked no times. -/
theorem RunInvariant.create (known : RunInvariant context start uses) {use : RuleUse}
    {properties : List (String × Json)}
    (result : context.afterUses (uses ++ [use]) start =
      withMembers context (context.afterUses uses start)
        (created context (fieldNames (context.afterUses uses start)) properties)) :
    RunInvariant context start (uses ++ [use]) where
  distinct := by
    rw [result, fieldNames_withMembers]
    exact nodup_created context known.distinct properties
  fields index field placed := by
    have whole := placed
    rw [result, withMembers] at placed
    by_cases old : index < (context.afterUses uses start).fields.length
    · rw [List.getElem?_append_left old] at placed
      obtain ⟨property, count, created, grown⟩ := known.fields index field placed
      exact ⟨property, count, created.concat use, grown⟩
    · have missing := List.getElem?_eq_none (Nat.le_of_not_lt old)
      rw [List.getElem?_append_right (Nat.le_of_not_lt old), List.getElem?_map] at placed
      obtain ⟨property, _, rfl⟩ := Option.map_eq_some_iff.mp placed
      exact ⟨property, 0, ⟨uses, use, [], rfl, missing, whole⟩, (markTimes_zero context _).symm⟩
  methods method member := by
    rw [result, withMembers] at member
    rcases List.mem_append.mp member with old | added
    · exact known.methods method old
    · obtain ⟨property, _, made⟩ := List.mem_flatMap.mp added
      exact annotations_of_mem_newMethods made

/-- A use that marks members keeps the invariant: each field is marked some more times. -/
theorem RunInvariant.mark (known : RunInvariant context start uses) {use : RuleUse}
    {properties : Option (Entries Json)} {entries : List String}
    (result : context.afterUses (uses ++ [use]) start =
      markEntries context properties entries (context.afterUses uses start)) :
    RunInvariant context start (uses ++ [use]) where
  distinct := by
    rw [result, fieldNames_markEntries context properties known.distinct]
    exact known.distinct
  fields index field placed := by
    rw [result, markEntries_eq context properties known.distinct, List.getElem?_map] at placed
    obtain ⟨before, there, rfl⟩ := Option.map_eq_some_iff.mp placed
    obtain ⟨property, count, created, rfl⟩ := known.fields index before there
    exact ⟨property, _, created.concat use, markTimes_markTimes context _ _ _⟩
  methods method member := by
    rw [result, markEntries_eq context properties known.distinct] at member
    obtain ⟨before, there, rfl⟩ := List.mem_map.mp member
    rw [← known.methods before there]
    unfold markMethod
    split <;> rfl

end Step

/-- Uses of rules in a row keep the invariant. -/
theorem runInvariant_afterUses (context : RuleContext) (name package : String) (doc : Doc)
    (uses : List RuleUse) : RunInvariant context { name, package, doc } uses := by
  induction uses using List.reverseRecOn with
  | nil => exact runInvariant_nil context name package doc
  | append_singleton uses use known =>
    have result := afterUses_concat context uses use { name, package, doc }
    rcases target_apply_cases context use (context.afterUses uses { name, package, doc }) with
      same | ⟨properties, made⟩ | ⟨properties, entries, marked⟩
    · exact known.keep (result.trans same)
    · exact known.create (result.trans made)
    · exact known.mark (result.trans marked)

/-- What is recorded of a field that was created and marked since then a number of times. -/
structure Records (context : RuleContext) (created : FieldModel) (count : Nat)
    (field : FieldModel) : Prop where
  /-- The field has the name it was created with. -/
  name : field.name = created.name
  /-- It has the text it was created with, and after it as many markers. -/
  doc : field.doc.text = created.doc.text ++ String.join (List.replicate count marker)
  /-- No two of its annotations have one name. -/
  single : (field.annotations.map (·.name)).Nodup
  /-- It is annotated as not null exactly if it is marked, where settings ask for that. -/
  notNull : context.settings.notNullAnnotations = true →
    (field.hasAnnotation context.settings.notNullAnnotation = true ↔ 1 ≤ count)
  /-- It has no annotation for fields that are not null, of either package, where they do not. -/
  nullable : context.settings.notNullAnnotations = false →
    ∀ settings : Settings, field.hasAnnotation settings.notNullAnnotation = false
  /-- Its metadata say that it is required exactly if it is marked. -/
  required : context.metadata = .swagger2 →
    field.param? Metadata.apiModelProperty "required" =
      if 1 ≤ count then some (.bool true) else none
  /-- Its metadata hold the text it was created with, unless that is empty. -/
  value : context.metadata = .swagger2 →
    field.param? Metadata.apiModelProperty "value" =
      if created.doc.text = "" then none else some (.text created.doc.text)
  /-- It has no metadata where none are recorded. -/
  bare : context.metadata = .none → field.hasAnnotation Metadata.apiModelProperty = false

/-- The text that a field was created with is that of its property. -/
theorem docText_of_newField (context : RuleContext) (property : String × Json) :
    (newField context property.1 property.2).doc.text = docText property.2 := by
  rw [doc_newField, text_appendNonempty]

/-- The annotations of a created field after it was marked a number of times. -/
theorem annotations_markTimes (context : RuleContext) (property : String × Json) (count : Nat) :
    (markTimes context count (newField context property.1 property.2)).annotations =
      if 1 ≤ count then requiredNotes context (notesOf context (docText property.2))
      else notesOf context (docText property.2) := by
  rw [markTimes, newField_eq_notesOf]
  cases count with
  | zero => rfl
  | succ count => simp

/-- The records of a field that was created and then marked a number of times. -/
theorem records_markTimes (context : RuleContext) (property : String × Json) (count : Nat) :
    Records context (newField context property.1 property.2) count
      (markTimes context count (newField context property.1 property.2)) := by
  have notes := annotations_markTimes context property count
  have text := docText_of_newField context property
  constructor
  case name => rfl
  case doc =>
    rw [text]
    exact markedTimes_field context property count
  case single =>
    rw [notes]
    split
    · exact nodup_names_requiredNotes context (nodup_names_notesOf context _)
    · exact nodup_names_notesOf context _
  case notNull =>
    intro asked
    have apart := notNullAnnotation_ne context.settings
    rw [Member.hasAnnotation, Member.annotation?, notes]
    by_cases marked : 1 ≤ count
    · simp [marked, find?_notNull_requiredNotes asked]
    · simp [marked, find?_notesOf_of_ne context _ apart]
  case nullable =>
    intro unasked settings
    have apart := notNullAnnotation_ne settings
    rw [Member.hasAnnotation, Member.annotation?, notes]
    split
    · rw [find?_requiredNotes_of_not_asked unasked apart, find?_notesOf_of_ne context _ apart,
        Option.isSome_none]
    · rw [find?_notesOf_of_ne context _ apart, Option.isSome_none]
  case required =>
    intro recorded
    rw [Member.param?, Member.annotation?, notes]
    by_cases marked : 1 ≤ count
    · rw [if_pos marked, if_pos marked, find?_metadata_requiredNotes recorded, Option.bind_some]
      exact Entries.get?_put_self "required" (ParamValue.bool true) _
    · rw [if_neg marked, if_neg marked, find?_metadata_notesOf context recorded]
      split <;> rfl
  case value =>
    intro recorded
    rw [Member.param?, Member.annotation?, notes, text]
    by_cases marked : 1 ≤ count
    · rw [if_pos marked, find?_metadata_requiredNotes recorded,
        find?_metadata_notesOf context recorded, Option.bind_some]
      refine (Entries.get?_put_of_ne (by decide) _ _).trans ?_
      split <;> rfl
    · rw [if_neg marked, find?_metadata_notesOf context recorded]
      split <;> rfl
  case bare =>
    intro unrecorded
    have nothing : notesOf context (docText property.2) = [] := by simp [notesOf, unrecorded]
    rw [Member.hasAnnotation, Member.annotation?, notes, nothing]
    split
    · rw [find?_metadata_requiredNotes_of_none unrecorded]
      rfl
    · rfl

/-- However rules are used in a row, from a class without members: what is recorded of each field
is that it was marked as often as its documentation says, since it was created, and no method is
annotated. -/
theorem records_afterUses (context : RuleContext) (name package : String) (doc : Doc)
    (uses : List RuleUse) :
    let start : ClassModel := { name, package, doc }
    let result := context.afterUses uses start
    (∀ (index : Nat) (field : FieldModel), result.fields[index]? = some field →
      ∃ created count, CreatedAs context start uses index created ∧
        Records context created count field) ∧
      ∀ method ∈ result.methods, method.annotations = [] := by
  intro start result
  have known := runInvariant_afterUses context name package doc uses
  refine ⟨fun index field placed => ?_, known.methods⟩
  obtain ⟨property, count, created, rfl⟩ := known.fields index field placed
  exact ⟨_, count, created, records_markTimes context property count⟩

/-- The records of a field that was found again under another schema, where two of the uses stop:
it was created with its first text and marked three times. -/
theorem records_afterUses_of_two_schemas :
    let context : RuleContext :=
      .ofSettings { notNullAnnotations := true, jakarta := false, swagger2 := true }
    let first : Schema :=
      { content := [("properties", .object [("first-name", .object [("title", .string "Name")])])] }
    let second : Schema :=
      { content := [("properties",
          .object [("first_name", .object [("title", .string "Other")]), ("age", .null)])] }
    let uses : List RuleUse := [
      ⟨.properties, .null, first⟩,
      ⟨.required, .string "first-name", first⟩,
      ⟨.required, .array [.string "first-name", .string "firstName"], first⟩,
      ⟨.properties, .null, { content := [("properties", .int 3)] }⟩,
      ⟨.properties, .null, second⟩,
      ⟨.required, .array [.string "first_name", .string "absent"], second⟩]
    let start : ClassModel := { name := "Person", package := "", doc := {} }
    let result := context.afterUses uses start
    ∃ field, result.fields[0]? = some field ∧
      field.doc.text = "Name\n(Required)\n(Required)\n(Required)" ∧
      (∃ created count, CreatedAs context start uses 0 created ∧
        Records context created count field) ∧
      ∀ method ∈ result.methods, method.annotations = [] := by
  intro context first second uses start result
  obtain ⟨fields, methods⟩ := records_afterUses context "Person" "" {} uses
  obtain ⟨field, placed⟩ : ∃ field, result.fields[0]? = some field :=
    Option.isSome_iff_exists.mp (by decide)
  have text : result.fields[0]?.map (·.doc.text) =
      some "Name\n(Required)\n(Required)\n(Required)" := by decide
  rw [placed] at text
  exact ⟨field, placed, Option.some.inj text, fields 0 field placed, methods⟩

end RuleContext

end SchemaBeans
