import SchemaBeans.Proofs.Model.Reference
import SchemaBeans.Proofs.Model.Steps

/-!
# The history of a class

A class that edits have made from an empty one is consistent: its fields have distinct names, and so
have the annotations of each member and the parameters of each annotation. More than that, it holds
what its history says. The history is the steps that the edits amount to. `Step.writesEach` is what
they write to an annotation of a member from the time the member is there, a field is found under a
name if a step added one, methods are listed as they were added, and the parameters of an annotation
are those written, in the order of the first writing and with the values of the last
(`consistent_applyEach`).
-/
namespace SchemaBeans

/-- A member as a program makes it: new, and then documented and annotated. -/
inductive Member.Made : Member → Prop where
  /-- A new member has a name and modifiers. -/
  | new (name : String) (modifiers : List String) : Made { name, modifiers }
  /-- A member is documented further. -/
  | appendDoc {member : Member} (made : Made member) (part : String) : Made (member.appendDoc part)
  /-- A member is annotated, or parameters are written to an annotation that it has. -/
  | annotate {member : Member} (made : Made member) (name : String)
      (params : List (String × ParamValue)) : Made (member.annotate name params)

/-- The parameters of the annotation of a name; there are none without the annotation. -/
def Member.noteParams (member : Member) (name : String) : Entries ParamValue :=
  ((member.annotation? name).map (·.params)).getD []

/-- A field without what is appended to it: its name, its type and its modifiers. -/
def FieldModel.outline (field : FieldModel) : FieldModel :=
  { field with doc := {}, annotations := [] }

/-- A method without what is appended to it: its signature and its modifiers. -/
def MethodModel.outline (method : MethodModel) : MethodModel :=
  { method with doc := {}, annotations := [] }

namespace Step

/-- The field that a step adds, if its name is not taken. -/
def field? : Step → Option FieldModel
  | addField field => some field
  | _ => none

/-- The method that a step adds. -/
def method? : Step → Option MethodModel
  | addMethod method => some method
  | _ => none

/-- A member that the step adds was made by a program. -/
def AddsMade : Step → Prop
  | addField field => field.toMember.Made
  | addMethod method => method.toMember.Made
  | _ => True

/-- What a step writes to the annotation of a name of a member of a class: what a member that is
added carries, and what is written to a member that is there. -/
def writes (step : Step) (target : ClassModel) (ref : MemberRef) (name : String) :
    List (String × ParamValue) :=
  match step with
  | addField field =>
    if ref = .field field.name ∧ target.member? ref = none then field.noteParams name else []
  | addMethod method =>
    if ref = .method method.name (target.methodsNamed method.name).length then
      method.noteParams name
    else []
  | annotate member note params =>
    if ref = member ∧ name = note ∧ target.member? ref ≠ none then params else []
  | appendClassDoc _ | appendDoc _ _ => []

/-- What steps write to the annotation of a name of a member, in order. -/
def writesEach (ref : MemberRef) (name : String) : List Step → ClassModel →
    List (String × ParamValue)
  | [], _ => []
  | step :: rest, target =>
    step.writes target ref name ++ writesEach ref name rest (step.apply target)

end Step

/-- A member that an edit adds was made by a program. -/
def Edit.AddsMade : Edit → Prop
  | addField field => field.toMember.Made
  | addMethod method => method.toMember.Made
  | _ => True

/-- A class holds what the steps say that led to it from an empty class. -/
structure Consistent (start : ClassModel) (steps : List Step) (result : ClassModel) : Prop where
  /-- The fields have distinct names. -/
  fields : (result.fields.map (·.name)).Nodup
  /-- A name leads to the field that has it. -/
  field : ∀ name field, result.field? name = some field ↔
    field ∈ result.fields ∧ field.name = name
  /-- There is one exactly if a step added a field of the name. -/
  added : ∀ name, (result.field? name).isSome = true ↔
    ∃ field, Step.addField field ∈ steps ∧ field.name = name
  /-- It is the first that was added, with what was appended since then. -/
  first : ∀ name, (result.field? name).map (·.outline) =
    ((steps.filterMap Step.field?).find? (·.name == name)).map (·.outline)
  /-- A field whose name is taken is not added, and the class stays as it is. -/
  refused : ∀ field after failure, result.addField field = .stopped after failure →
    (result.field? field.name).isSome = true ∧ after = result
  /-- The methods of a name are all that were added, in order. -/
  methods : ∀ name, (result.methodsNamed name).map (·.outline) =
    ((steps.filterMap Step.method?).filter (·.name == name)).map (·.outline)
  /-- Every field is referred to by its name. -/
  fieldRefs : ∀ field ∈ result.fields, result.member? (.field field.name) = some field.toMember
  /-- Every method is referred to by its name and its place among those of the name. -/
  methodRefs : ∀ method ∈ result.methods, ∃ skipped,
    result.member? (.method method.name skipped) = some method.toMember
  /-- The annotations of a member have distinct names. -/
  notes : ∀ ref member, result.member? ref = some member →
    (member.annotations.map (·.name)).Nodup
  /-- The parameters of an annotation have distinct keys. -/
  keys : ∀ ref member, result.member? ref = some member → ∀ note ∈ member.annotations,
    note.params.keys.Nodup
  /-- They stand in the order in which their keys were first written. -/
  order : ∀ ref member, result.member? ref = some member → ∀ note ∈ member.annotations,
    note.params.keys =
      ((Step.writesEach ref note.name steps start).map Prod.fst).eraseDups
  /-- They have the values that were written last. -/
  values : ∀ ref member, result.member? ref = some member → ∀ note ∈ member.annotations,
    ∀ key, note.params.get? key =
      (Step.writesEach ref note.name steps start).reverse.lookup key

/-- Parameters are written to an annotation pair by pair. -/
theorem Annotation.params_withParams (note : Annotation) (params : List (String × ParamValue)) :
    (note.withParams params).params =
      params.foldl (fun entries pair => entries.put pair.1 pair.2) note.params := by
  induction params generalizing note with
  | nil => rfl
  | cons pair rest ih => exact ih (note.param pair.1 pair.2)

namespace Member

/-- Annotating writes to the annotation of the name, and to no other. -/
theorem noteParams_annotate (member : Member) (name other : String)
    (params : List (String × ParamValue)) :
    (member.annotate name params).noteParams other =
      if other = name then
        params.foldl (fun entries pair => entries.put pair.1 pair.2) (member.noteParams other)
      else member.noteParams other := by
  unfold noteParams annotation? annotate
  by_cases same : other = name
  · subst same
    rw [if_pos rfl, find?_annotateIn_self, Option.map_some, Option.getD_some,
      Annotation.params_withParams]
    cases member.annotations.find? (·.name == other) <;> rfl
  · rw [if_neg same, find?_annotateIn_of_ne (Ne.symm same)]

/-- Each annotation has the parameters that are found under its name, if names are distinct. -/
theorem noteParams_of_mem {member : Member}
    (distinct : (member.annotations.map (·.name)).Nodup) {note : Annotation}
    (listed : note ∈ member.annotations) : member.noteParams note.name = note.params := by
  unfold noteParams annotation?
  cases found : member.annotations.find? (·.name == note.name) with
  | none => simpa using List.find?_eq_none.mp found note listed
  | some first =>
    have named : first.name = note.name := by simpa using List.find?_some found
    have only := List.inj_on_of_nodup_map distinct (List.mem_of_find?_eq_some found) listed named
    rw [Option.map_some, Option.getD_some, only]

/-- The annotations of a member that a program made have distinct names. -/
theorem Made.nodup_names {member : Member} (made : member.Made) :
    (member.annotations.map (·.name)).Nodup := by
  induction made with
  | new name modifiers => exact List.nodup_nil
  | appendDoc made part ih => exact ih
  | annotate made name params ih => exact nodup_names_annotateIn ih name params

/-- The parameters of an annotation of a member that a program made have distinct keys. -/
theorem Made.nodup_keys {member : Member} (made : member.Made) (name : String) :
    (member.noteParams name).keys.Nodup := by
  induction made with
  | new name modifiers => exact List.nodup_nil
  | appendDoc made part ih => exact ih
  | @annotate member made note params ih =>
    rw [noteParams_annotate]
    split
    · exact Entries.nodup_keys_foldl_put ih params
    · exact ih

end Member

/-- What is kept of a class from step to step: the fields and the methods that steps add, and what
they write to the annotations of members. -/
structure Recorded (added : List FieldModel) (methods : List MethodModel)
    (written : MemberRef → String → List (String × ParamValue)) (target : ClassModel) : Prop where
  /-- The fields have distinct names. -/
  distinct : (target.fields.map (·.name)).Nodup
  /-- The field of a name is the first that was added. -/
  fields : ∀ name, (target.fields.map (·.outline)).find? (·.name == name) =
    (added.map (·.outline)).find? (·.name == name)
  /-- The methods are those that were added. -/
  methods : target.methods.map (·.outline) = methods.map (·.outline)
  /-- The annotations of a member have distinct names. -/
  notes : ∀ ref member, target.member? ref = some member →
    (member.annotations.map (·.name)).Nodup
  /-- The annotations of a member have the parameters that were written to them. -/
  params : ∀ ref name, ((target.member? ref).map (·.noteParams name)).getD [] =
    Entries.ofPairs (written ref name)

section Step

variable {added : List FieldModel} {methods : List MethodModel}
  {written : MemberRef → String → List (String × ParamValue)} {target : ClassModel}

/-- A change of a member that keeps what does not grow keeps the names of the fields. -/
theorem ClassModel.map_fields_modifyMember {α : Type} {view : FieldModel → α}
    {change : Member → Member} (keeps : ∀ field, view (field.mapMember change) = view field)
    (target : ClassModel) (ref : MemberRef) :
    (target.modifyMember change ref).fields.map view = target.fields.map view := by
  cases ref with
  | field name => exact map_modifyFirst keeps target.fields
  | method name skipped => rfl

/-- A change of a member that keeps what does not grow keeps it of the methods. -/
theorem ClassModel.map_methods_modifyMember {α : Type} {view : MethodModel → α}
    {change : Member → Member} (keeps : ∀ method, view (method.mapMember change) = view method)
    (target : ClassModel) (ref : MemberRef) :
    (target.modifyMember change ref).methods.map view = target.methods.map view := by
  cases ref with
  | field name => rfl
  | method name skipped => exact map_modifyNth keeps skipped target.methods

/-- A change that keeps name and modifiers keeps the record, if the annotations of the member have
distinct names and the parameters that are written. -/
theorem Recorded.modify (known : Recorded added methods written target)
    (change : Member → Member) (name : ∀ member, (change member).name = member.name)
    (modifiers : ∀ member, (change member).modifiers = member.modifiers)
    (notes : ∀ member, (member.annotations.map (·.name)).Nodup →
      ((change member).annotations.map (·.name)).Nodup)
    (changed : MemberRef) {writes : MemberRef → String → List (String × ParamValue)}
    (others : ∀ ref note, ref ≠ changed ∨ target.member? ref = none → writes ref note = [])
    (params : ∀ member note, target.member? changed = some member →
      (change member).noteParams note =
        (writes changed note).foldl (fun entries pair => Entries.put pair.1 pair.2 entries)
          (member.noteParams note)) :
    Recorded added methods (fun ref note => written ref note ++ writes ref note)
      (target.modifyMember change changed) where
  distinct := by
    have names (field : FieldModel) : (field.mapMember change).name = field.name :=
      name field.toMember
    rw [ClassModel.map_fields_modifyMember names]
    exact known.distinct
  fields wanted := by
    have outlines (field : FieldModel) : (field.mapMember change).outline = field.outline := by
      simp [FieldModel.outline, FieldModel.mapMember, name, modifiers]
    rw [ClassModel.map_fields_modifyMember outlines]
    exact known.fields wanted
  methods := by
    have outlines (method : MethodModel) : (method.mapMember change).outline = method.outline := by
      simp [MethodModel.outline, MethodModel.mapMember, name, modifiers]
    rw [ClassModel.map_methods_modifyMember outlines]
    exact known.methods
  notes ref member found := by
    rw [target.member?_modifyMember name] at found
    split at found
    · obtain ⟨before, there, rfl⟩ := Option.map_eq_some_iff.mp found
      exact notes before (known.notes ref before there)
    · exact known.notes ref member found
  params ref note := by
    have before := known.params ref note
    rw [target.member?_modifyMember name, Entries.ofPairs_append, ← before]
    by_cases same : ref = changed
    · subst same
      cases there : target.member? ref with
      | none => rw [others ref note (.inr there)]; simp
      | some member => simp [params member note there]
    · rw [if_neg same, others ref note (.inl same), List.foldl_nil]

/-- A step that adds a field of a new name is recorded. -/
theorem Recorded.addField (known : Recorded added methods written target) {field : FieldModel}
    (made : field.toMember.Made) (fresh : target.field? field.name = none) :
    Recorded (added ++ [field]) methods
      (fun ref note => written ref note ++ (Step.addField field).writes target ref note)
      { target with fields := target.fields ++ [field] } where
  distinct := by
    have apart : field.name ∉ target.fields.map (·.name) := by
      simpa [ClassModel.field?] using fresh
    rw [List.map_append, List.nodup_append]
    refine ⟨known.distinct, by simp, fun name listed other single => ?_⟩
    rintro rfl
    exact apart (by simpa [List.mem_singleton.mp single] using listed)
  fields name := by
    rw [List.map_append, List.map_append, List.find?_append, List.find?_append, known.fields name]
  methods := known.methods
  notes ref member found := by
    rw [ClassModel.member?_appendField fresh] at found
    split at found
    · rw [← Option.some.inj found]
      exact made.nodup_names
    · exact known.notes ref member found
  params ref note := by
    have before := known.params ref note
    rw [ClassModel.member?_appendField fresh, Entries.ofPairs_append, ← before, Step.writes]
    by_cases same : ref = .field field.name
    · subst same
      have missing : target.member? (.field field.name) = none := by
        rw [ClassModel.member?, fresh, Option.map_none]
      have carried := Entries.ofPairs_of_nodup (made.nodup_keys note)
      rw [if_pos rfl, if_pos ⟨rfl, missing⟩, missing]
      exact carried.symm
    · rw [if_neg same, if_neg (fun both => same both.1), List.foldl_nil]

/-- A step that adds a method is recorded. -/
theorem Recorded.addMethod (known : Recorded added methods written target) {method : MethodModel}
    (made : method.toMember.Made) :
    Recorded added (methods ++ [method])
      (fun ref note => written ref note ++ (Step.addMethod method).writes target ref note)
      (target.addMethods [method]) where
  distinct := known.distinct
  fields := known.fields
  methods := by
    have before := known.methods
    simp only [ClassModel.addMethods, List.map_append, before]
  notes ref member found := by
    rw [ClassModel.member?_addMethods] at found
    split at found
    · rw [← Option.some.inj found]
      exact made.nodup_names
    · exact known.notes ref member found
  params ref note := by
    have before := known.params ref note
    rw [ClassModel.member?_addMethods, Entries.ofPairs_append, ← before, Step.writes]
    by_cases same : ref = .method method.name (target.methodsNamed method.name).length
    · have missing : target.member? ref = none := by
        rw [same, ClassModel.member?, List.getElem?_eq_none (Nat.le_refl _), Option.map_none]
      have carried := Entries.ofPairs_of_nodup (made.nodup_keys note)
      rw [if_pos same, if_pos same, missing]
      exact carried.symm
    · rw [if_neg same, if_neg same, List.foldl_nil]

/-- A step that annotates a member is recorded. -/
theorem Recorded.annotate (known : Recorded added methods written target) (ref : MemberRef)
    (name : String) (params : List (String × ParamValue)) :
    Recorded added methods
      (fun other note =>
        written other note ++ (Step.annotate ref name params).writes target other note)
      (target.modifyMember (·.annotate name params) ref) := by
  refine known.modify (·.annotate name params) (fun _ => rfl) (fun _ => rfl)
    (fun _ distinct => nodup_names_annotateIn distinct name params) ref ?_ ?_
  · intro other note unwritten
    refine if_neg ?_
    rintro ⟨same, _, present⟩
    exact unwritten.elim (fun apart => apart same) present
  · intro member note there
    have present : target.member? ref ≠ none := by simp [there]
    rw [Member.noteParams_annotate, Step.writes]
    by_cases same : note = name
    · rw [if_pos same, if_pos ⟨rfl, same, present⟩]
    · rw [if_neg same, if_neg (fun all => same all.2.1), List.foldl_nil]

/-- Every step is recorded, if a member that it adds was made by a program. -/
theorem Recorded.apply (known : Recorded added methods written target) {step : Step}
    (made : step.AddsMade) :
    Recorded (added ++ step.field?.toList) (methods ++ step.method?.toList)
      (fun ref note => written ref note ++ step.writes target ref note) (step.apply target) := by
  cases step with
  | addField field =>
    simp only [Step.field?, Step.method?, Option.toList_some, Option.toList_none, List.append_nil]
    cases found : target.field? field.name with
    | none =>
      have extended := known.addField made found
      simpa only [Step.apply, ClassModel.addField, found, Outcome.target] using extended
    | some taken =>
      -- The step leads nowhere, and a later field of a name is never the first of it.
      have stays : (Step.addField field).apply target = target := by
        simp only [Step.apply, ClassModel.addField, found, Outcome.target]
      have unwritten (ref : MemberRef) (note : String) :
          (Step.addField field).writes target ref note = [] := by
        refine if_neg ?_
        rintro ⟨same, missing⟩
        rw [same, ClassModel.member?, found] at missing
        cases missing
      rw [stays]
      refine ⟨known.distinct, fun name => ?_, known.methods, known.notes, fun ref note => ?_⟩
      · rw [known.fields name, List.map_append, List.find?_append]
        by_cases same : field.name = name
        · have first : ((added.map (·.outline)).find? (·.name == name)).isSome = true := by
            rw [← known.fields name, List.find?_map, Option.isSome_map]
            subst same
            exact Option.isSome_iff_exists.mpr ⟨taken, found⟩
          obtain ⟨before, isFirst⟩ := Option.isSome_iff_exists.mp first
          rw [isFirst, Option.some_or]
        · have missed : (field.outline.name == name) = false := by
            simpa [FieldModel.outline] using same
          simp [missed]
      · rw [unwritten, List.append_nil]
        exact known.params ref note
  | addMethod method =>
    simp only [Step.field?, Step.method?, Option.toList_some, Option.toList_none, List.append_nil]
    exact known.addMethod made
  | appendClassDoc part =>
    simp only [Step.field?, Step.method?, Step.writes, Option.toList_none, List.append_nil]
    exact ⟨known.distinct, known.fields, known.methods, known.notes, known.params⟩
  | appendDoc ref part =>
    simp only [Step.field?, Step.method?, Option.toList_none, List.append_nil]
    exact known.modify (·.appendDoc part) (fun _ => rfl) (fun _ => rfl)
      (fun _ distinct => distinct) ref (fun _ _ _ => rfl) fun _ _ _ => rfl
  | annotate ref name params =>
    simp only [Step.field?, Step.method?, Option.toList_none, List.append_nil]
    exact known.annotate ref name params

/-- Steps in a row are recorded. -/
theorem Recorded.applyEach (known : Recorded added methods written target) {steps : List Step}
    (made : ∀ step ∈ steps, step.AddsMade) :
    Recorded (added ++ steps.filterMap Step.field?) (methods ++ steps.filterMap Step.method?)
      (fun ref note => written ref note ++ Step.writesEach ref note steps target)
      (Step.applyEach steps target) := by
  induction steps generalizing added methods written target with
  | nil => simpa [Step.writesEach, Step.applyEach] using known
  | cons step rest ih =>
    have once := known.apply (made step List.mem_cons_self)
    have later := ih once fun other member => made other (List.mem_cons_of_mem step member)
    have fields : (step :: rest).filterMap Step.field? =
        step.field?.toList ++ rest.filterMap Step.field? := by
      cases held : step.field? <;> simp [held]
    have methods : (step :: rest).filterMap Step.method? =
        step.method?.toList ++ rest.filterMap Step.method? := by
      cases held : step.method? <;> simp [held]
    simp only [fields, methods, Step.writesEach, ← List.append_assoc]
    exact later

/-- A class of which the steps from an empty class are recorded is consistent. -/
theorem Recorded.consistent {start : ClassModel} {steps : List Step}
    (known : Recorded (steps.filterMap Step.field?) (steps.filterMap Step.method?)
      (fun ref note => Step.writesEach ref note steps start) target) :
    Consistent start steps target := by
  have first (name : String) : (target.field? name).map (·.outline) =
      ((steps.filterMap Step.field?).find? (·.name == name)).map (·.outline) := by
    have found := known.fields name
    rw [List.find?_map, List.find?_map] at found
    exact found
  -- The parameters of a note are what `Recorded` says of its name, as no other note has that.
  have written {ref : MemberRef} {member : Member} (there : target.member? ref = some member)
      {note : Annotation} (listed : note ∈ member.annotations) :
      note.params = Entries.ofPairs (Step.writesEach ref note.name steps start) := by
    have params := known.params ref note.name
    rw [there, Option.map_some, Option.getD_some,
      Member.noteParams_of_mem (known.notes ref member there) listed] at params
    exact params
  constructor
  case fields => exact known.distinct
  case field => exact fun name field => Required.field?_eq_some_iff known.distinct
  case added =>
    intro name
    rw [← Option.isSome_map, first name, Option.isSome_map, List.find?_isSome]
    constructor
    · rintro ⟨field, listed, named⟩
      obtain ⟨step, member, adds⟩ := List.mem_filterMap.mp listed
      cases step with
      | addField other =>
        obtain rfl := Option.some.inj adds
        exact ⟨other, member, by simpa using named⟩
      | _ => cases adds
    · rintro ⟨field, member, rfl⟩
      exact ⟨field, List.mem_filterMap.mpr ⟨_, member, rfl⟩, by simp⟩
  case first => exact first
  case refused =>
    intro field after failure stopped
    cases found : target.field? field.name with
    | none => simp [ClassModel.addField, found] at stopped
    | some taken =>
      rw [ClassModel.addField_of_taken found] at stopped
      exact ⟨rfl, (Outcome.stopped.inj stopped).1.symm⟩
  case methods =>
    intro name
    have listed := congrArg (List.filter (·.name == name)) known.methods
    rw [List.filter_map, List.filter_map] at listed
    exact listed
  case fieldRefs =>
    intro field member
    have found := (Required.field?_eq_some_iff known.distinct).mpr ⟨member, rfl⟩
    rw [ClassModel.member?, found, Option.map_some]
  case methodRefs =>
    intro method member
    have named : method ∈ target.methodsNamed method.name := by
      simpa [ClassModel.methodsNamed] using member
    obtain ⟨skipped, placed⟩ := List.mem_iff_getElem?.mp named
    exact ⟨skipped, by rw [ClassModel.member?, placed, Option.map_some]⟩
  case notes => exact known.notes
  case keys =>
    intro ref member there note listed
    have none : (Entries.keys ([] : Entries ParamValue)).Nodup := List.nodup_nil
    rw [written there listed]
    exact Entries.nodup_keys_foldl_put none _
  case order =>
    intro ref member there note listed
    rw [written there listed, Entries.keys_ofPairs]
  case values =>
    intro ref member there note listed key
    rw [written there listed, Entries.get?_ofPairs]

end Step

section Made

open Properties Required

variable {context : RuleContext}

/-- A new member that is documented by a text, unless that is empty, is made by a program. -/
theorem Member.made_documented (name text : String) (modifiers : List String) :
    Member.Made { name, doc := ({} : Doc).appendNonempty text, modifiers } := by
  unfold Doc.appendNonempty
  split
  · exact .new name modifiers
  · exact .appendDoc (.new name modifiers) text

/-- The field of a property is made by a program. -/
theorem made_newField (property : String) (node : Json) :
    (newField context property node).toMember.Made := by
  have documented := Member.made_documented (context.naming.fieldName property (some node))
    (docText node) ["private"]
  unfold newField Metadata.describe
  cases context.metadata with
  | none => exact documented
  | swagger2 =>
    by_cases empty : docText node = ""
    · simp only [empty, if_true] at documented ⊢
      exact documented
    · simp only [empty, if_false]
      exact documented.annotate _ _

/-- The methods of a property are made by a program. -/
theorem made_of_mem_newMethods {className property : String} {node : Json} {method : MethodModel}
    (member : method ∈ newMethods context className property node) : method.toMember.Made := by
  unfold newMethods at member
  rcases List.mem_append.mp member with accessor | added
  · rcases List.mem_cons.mp accessor with rfl | setter
    · exact Member.made_documented _ _ _
    · rw [List.mem_singleton.mp setter]
      exact Member.made_documented _ _ _
  · split at added
    · rw [List.mem_singleton.mp added]
      exact .new _ _
    · simp at added

/-- The steps that record a description add no member. -/
theorem addsMade_of_mem_describeSteps {field description : String} {step : Step}
    (member : step ∈ describeSteps context field description) : step.AddsMade := by
  unfold describeSteps at member
  split at member
  · simp at member
  · split at member
    · simp at member
    · rw [List.mem_singleton.mp member]
      trivial

/-- The steps that record whether a field is required add no member. -/
theorem addsMade_of_mem_recordSteps {field : String} {required : Bool} {step : Step}
    (member : step ∈ recordSteps context field required) : step.AddsMade := by
  unfold recordSteps at member
  split at member
  · simp at member
  · rw [List.mem_singleton.mp member]
    trivial

/-- The steps that mark accessors add no member. -/
theorem addsMade_of_mem_accessorSteps {names before : List String} {methods : List MethodModel}
    {step : Step} (member : step ∈ accessorSteps names before methods) : step.AddsMade := by
  induction methods generalizing before with
  | nil => simp [accessorSteps] at member
  | cons method rest ih =>
    rw [accessorSteps] at member
    rcases List.mem_append.mp member with first | later
    · split at first
      · rw [List.mem_singleton.mp first]
        trivial
      · simp at first
    · exact ih later

/-- What the steps of a rule add is made by a program. -/
theorem Rule.addsMade_of_mem_steps {rule : Rule} {node : Json} {schema : Schema}
    {target : ClassModel} {step : Step} (member : step ∈ rule.steps context node schema target) :
    step.AddsMade := by
  cases rule with
  | properties =>
    rw [Rule.steps] at member
    split at member
    · simp at member
    · obtain ⟨property, _, created⟩ := List.mem_flatMap.mp member
      rcases List.mem_cons.mp created with rfl | accessor
      · exact made_newField property.1 property.2
      · obtain ⟨method, listed, rfl⟩ := List.mem_map.mp accessor
        exact made_of_mem_newMethods listed
  | required =>
    rw [Rule.steps] at member
    split at member
    · rcases List.mem_append.mp member with marks | accessors
      · obtain ⟨entry, _, marking⟩ := List.mem_flatMap.mp marks
        rcases List.mem_append.mp marking with annotated | recorded
        · rcases List.mem_cons.mp annotated with rfl | noted
          · trivial
          · split at noted
            · rw [List.mem_singleton.mp noted]
              trivial
            · simp at noted
        · exact addsMade_of_mem_recordSteps recorded
      · exact addsMade_of_mem_accessorSteps accessors
    · simp at member

/-- What the steps of rules add is made by a program. -/
theorem Rule.addsMade_of_mem_allSteps {schema : Schema} {rules : List Rule} {target : ClassModel}
    {step : Step} (member : step ∈ Rule.allSteps context schema rules target) :
    step.AddsMade := by
  induction rules generalizing target with
  | nil => simp [Rule.allSteps] at member
  | cons rule rest ih =>
    rw [Rule.allSteps] at member
    split at member
    · exact ih member
    · rcases List.mem_append.mp member with first | later
      · exact Rule.addsMade_of_mem_steps first
      · split at later
        · exact ih later
        · simp at later

/-- What the steps of an edit add is made by a program, if the members of the edit are. -/
theorem Edit.addsMade_of_mem_steps {edit : Edit} (made : edit.AddsMade) {target : ClassModel}
    {step : Step} (member : step ∈ edit.steps context target) : step.AddsMade := by
  cases edit with
  | addField field =>
    rw [List.mem_singleton.mp member]
    exact made
  | addMethod method =>
    rw [List.mem_singleton.mp member]
    exact made
  | describe field description => exact addsMade_of_mem_describeSteps member
  | markRequired field required => exact addsMade_of_mem_recordSteps member
  | applyRule rule node schema => exact Rule.addsMade_of_mem_steps member
  | applyAll rules schema => exact Rule.addsMade_of_mem_allSteps member
  | applyByKeyword rules keyword schema =>
    rw [Edit.steps] at member
    split at member
    · simp at member
    · exact Rule.addsMade_of_mem_steps member
  | appendClassDoc part | appendDoc ref part | annotate ref name params =>
    rw [List.mem_singleton.mp member]
    trivial

/-- What the steps of edits in a row add is made by a program, if the members of the edits are. -/
theorem Edit.addsMade_of_mem_allSteps {edits : List Edit} (made : ∀ edit ∈ edits, edit.AddsMade)
    {target : ClassModel} {step : Step} (member : step ∈ Edit.allSteps context edits target) :
    step.AddsMade := by
  induction edits generalizing target with
  | nil => simp [Edit.allSteps] at member
  | cons edit rest ih =>
    rw [Edit.allSteps] at member
    rcases List.mem_append.mp member with first | later
    · exact Edit.addsMade_of_mem_steps (made edit List.mem_cons_self) first
    · exact ih (fun other listed => made other (List.mem_cons_of_mem edit listed)) later

end Made

/-- Nothing is recorded of an empty class. -/
theorem recorded_empty (name package : String) (doc : Doc) :
    Recorded [] [] (fun _ _ => []) { name, package, doc } where
  distinct := List.nodup_nil
  fields _ := rfl
  methods := rfl
  notes ref member found := by cases ref <;> simp [ClassModel.member?, ClassModel.field?,
    ClassModel.methodsNamed] at found
  params ref note := by cases ref <;> rfl

/-- The class that any edits make from an empty one, those that stop included, is the class that
their steps lead to, and is consistent with these steps. -/
theorem consistent_applyEach (context : RuleContext) (name package : String) (doc : Doc)
    {edits : List Edit} (made : ∀ edit ∈ edits, edit.AddsMade) :
    let start : ClassModel := { name, package, doc }
    let steps := Edit.allSteps context edits start
    Edit.applyEach context edits start = Step.applyEach steps start ∧
      Consistent start steps (Edit.applyEach context edits start) := by
  intro start steps
  have reached := Edit.applyEach_eq_applyEach context edits start
  have stepsMade : ∀ step ∈ steps, step.AddsMade := fun step member =>
    Edit.addsMade_of_mem_allSteps made member
  have recorded := (recorded_empty name package doc).applyEach stepsMade
  simp only [List.nil_append] at recorded
  refine ⟨reached, ?_⟩
  rw [reached]
  exact recorded.consistent

/-- A field that is annotated before it is added, added again in vain, described and marked by
rules, one of which stops, and written to between them: its parameters stand in the order of the
first writing, with the values of the last. -/
theorem consistent_applyEach_written_again :
    let context : RuleContext := .ofSettings { swagger2 := true }
    let schema : Schema :=
      { content := [("properties", .object [("age", .object [("title", .string "Age")])]),
          ("required", .array [.string "id", .string "age"])] }
    let note := Metadata.apiModelProperty
    let id : FieldModel :=
      { Member.annotate { name := "id" } note [("position", .int 2)] with type := .longInteger }
    let edits : List Edit := [
      .addField id,
      .addField { name := "id" },
      .applyAll [.properties, .required, .properties] schema,
      .applyByKeyword [.required] "title" schema,
      .applyRule .required (.string "id") schema,
      .annotate (.field "id") note [("hidden", .bool true), ("position", .int 1)],
      .annotate (.field "name") note [("hidden", .bool true)],
      .markRequired "id" false]
    let start : ClassModel := { name := "Person", package := "", doc := {} }
    let steps := Edit.allSteps context edits start
    let result := Edit.applyEach context edits start
    (result.member? (.field "id")).map (·.noteParams note) =
        some [("position", .int 1), ("required", .bool false), ("hidden", .bool true)] ∧
      result = Step.applyEach steps start ∧ Consistent start steps result := by
  intro context schema note id edits start steps result
  refine ⟨by decide, consistent_applyEach context "Person" "" {} fun edit member => ?_⟩
  simp only [edits, List.mem_cons, List.not_mem_nil, or_false] at member
  rcases member with rfl | rfl | rfl | rfl | rfl | rfl | rfl | rfl
  · exact .annotate (.new "id" []) note [("position", .int 2)]
  · exact .new "id" []
  all_goals trivial

end SchemaBeans
