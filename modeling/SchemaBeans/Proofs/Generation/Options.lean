import SchemaBeans.Proofs.Generation.View
import SchemaBeans.Proofs.Properties.Effect

/-!
# Options that only add

Three options of the settings add to a class: annotations of required fields, metadata of fields and
builder methods. Each adds something of its own and leaves all else alone, so a class made with the
option is the class made without it, once what it adds is left out (`generate_options`). In
particular no option makes a difference to whether there is a class.
-/
namespace SchemaBeans

namespace PropertyType

variable {first second : Settings}

/-- Types of scalars depend on two switches of the settings alone. -/
theorem scalar_congr (primitives : first.primitives = second.primitives)
    (longIntegers : first.longIntegers = second.longIntegers) (name : Option String) :
    scalar first name = scalar second name := by
  unfold scalar
  rw [primitives, longIntegers]

mutual

/-- Types of properties depend on two switches of the settings alone. -/
theorem ofNode_congr (primitives : first.primitives = second.primitives)
    (longIntegers : first.longIntegers = second.longIntegers) :
    (node : Json) → ofNode first node = ofNode second node
  | .object entries => by
    rw [ofNode, ofNode, ofItems_congr primitives longIntegers entries,
      scalar_congr primitives longIntegers]
  | .null | .bool _ | .int _ | .float _ | .string _ | .array _ => by simp only [ofNode]

/-- Types of items depend on two switches of the settings alone. -/
theorem ofItems_congr (primitives : first.primitives = second.primitives)
    (longIntegers : first.longIntegers = second.longIntegers) :
    (entries : List (String × Json)) → ofItems first entries = ofItems second entries
  | [] => by simp only [ofItems]
  | (key, value) :: rest => by
    rw [ofItems, ofItems, ofNode_congr primitives longIntegers value,
      ofItems_congr primitives longIntegers rest]

end

end PropertyType

/-- A written annotation does not show among those that are left if its name is dropped. -/
theorem filter_annotateIn_of_dropped {isDropped : String → Bool} {name : String}
    (dropped : isDropped name = true) (params : List (String × ParamValue))
    (notes : List Annotation) :
    (annotateIn name params notes).filter (!isDropped ·.name) =
      notes.filter (!isDropped ·.name) := by
  induction notes with
  | nil => simp [annotateIn, Annotation.name_withParams, dropped]
  | cons note rest ih =>
    by_cases same : note.name = name
    · simp [annotateIn, same, Annotation.name_withParams, dropped]
    · simp only [annotateIn, if_neg same, List.filter_cons, ih]

/-- Annotations of other names can be dropped before one is written. -/
theorem filter_annotateIn_of_kept {isDropped : String → Bool} {name : String}
    (kept : isDropped name = false) (params : List (String × ParamValue))
    (notes : List Annotation) :
    (annotateIn name params notes).filter (!isDropped ·.name) =
      annotateIn name params (notes.filter (!isDropped ·.name)) := by
  induction notes with
  | nil => simp [annotateIn, Annotation.name_withParams, kept]
  | cons note rest ih =>
    by_cases same : note.name = name
    · simp [annotateIn, same, Annotation.name_withParams, kept]
    · simp only [annotateIn, if_neg same, List.filter_cons, ih]
      split
      · rw [annotateIn, if_neg same]
      · rfl

/-- A member without the annotations of some names. -/
def Member.dropNotes (isDropped : String → Bool) (member : Member) : Member :=
  { member with annotations := member.annotations.filter (!isDropped ·.name) }

namespace ClassModel

/-- A class without the annotations of some names. -/
def dropNotes (isDropped : String → Bool) (target : ClassModel) : ClassModel :=
  { target with
    fields := target.fields.map (·.mapMember (.dropNotes isDropped))
    methods := target.methods.map (·.mapMember (.dropNotes isDropped)) }

/-- A class without the methods of some names. -/
def dropMethods (isDropped : String → Bool) (target : ClassModel) : ClassModel :=
  { target with methods := target.methods.filter (!isDropped ·.name) }

end ClassModel

/-- Whether a name is that of an annotation for fields that are not null. -/
def isNotNull (name : String) : Bool :=
  name == Settings.notNullAnnotation { jakarta := false } ||
    name == Settings.notNullAnnotation { jakarta := true }

/-- Whether a name is that of the annotation for metadata. -/
def isMetadata (name : String) : Bool := name == Metadata.apiModelProperty

/-- Whether a name starts as those of builders do. -/
def isBuilder (name : String) : Bool := "with".toList.isPrefixOf name.toList

/-- The annotation that settings choose for fields that are not null is one of these. -/
theorem isNotNull_notNull (settings : Settings) :
    isNotNull settings.notNullAnnotation = true := by
  unfold Settings.notNullAnnotation
  cases settings.jakarta <;> decide

/-- The annotation for metadata is one for metadata. -/
theorem isMetadata_apiModelProperty : isMetadata Metadata.apiModelProperty = true :=
  beq_self_eq_true _

/-- The annotation for metadata is none for fields that are not null. -/
theorem isNotNull_apiModelProperty : isNotNull Metadata.apiModelProperty = false := by decide

/-- The annotation for fields that are not null is none for metadata. -/
theorem isMetadata_notNull (settings : Settings) :
    isMetadata settings.notNullAnnotation = false :=
  beq_eq_false_iff_ne.mpr (Required.notNullAnnotation_ne settings)

namespace Properties

/-- The annotation of a description stays if annotations for metadata do. -/
theorem filter_notesOf_of_kept {isDropped : String → Bool}
    (kept : isDropped Metadata.apiModelProperty = false) (context : RuleContext) (text : String) :
    (notesOf context text).filter (!isDropped ·.name) = notesOf context text := by
  unfold notesOf
  split <;> simp [kept]

/-- The annotation of a description is dropped if annotations for metadata are. -/
theorem filter_notesOf_of_dropped {isDropped : String → Bool}
    (dropped : isDropped Metadata.apiModelProperty = true) (context : RuleContext)
    (text : String) : (notesOf context text).filter (!isDropped ·.name) = [] := by
  unfold notesOf
  split <;> simp [dropped]

end Properties

namespace Required

variable {full plain : RuleContext}

/-- Without annotations for fields that are not null, a required field has the annotations that it
has if settings do not ask for them. -/
theorem filter_requiredNotes_of_notNull (metadata : full.metadata = plain.metadata)
    (asked : full.settings.notNullAnnotations = true)
    (unasked : plain.settings.notNullAnnotations = false) (notes : List Annotation) :
    (requiredNotes full notes).filter (!isNotNull ·.name) =
      requiredNotes plain (notes.filter (!isNotNull ·.name)) := by
  have dropped :=
    filter_annotateIn_of_dropped (isNotNull_notNull full.settings) [] notes
  unfold requiredNotes
  rw [asked, unasked, metadata]
  cases plain.metadata with
  | none => exact dropped
  | swagger2 =>
    exact (filter_annotateIn_of_kept isNotNull_apiModelProperty _ _).trans (congrArg _ dropped)

/-- Without annotations for metadata, a required field has the annotations that it has if no
metadata are recorded. -/
theorem filter_requiredNotes_of_metadata (settings :
      full.settings.notNullAnnotations = plain.settings.notNullAnnotations ∧
        full.settings.notNullAnnotation = plain.settings.notNullAnnotation)
    (recorded : full.metadata = .swagger2) (unrecorded : plain.metadata = .none)
    (notes : List Annotation) :
    (requiredNotes full notes).filter (!isMetadata ·.name) =
      requiredNotes plain (notes.filter (!isMetadata ·.name)) := by
  unfold requiredNotes
  rw [settings.1, settings.2, recorded, unrecorded]
  refine (filter_annotateIn_of_dropped isMetadata_apiModelProperty _ _).trans ?_
  split
  · exact filter_annotateIn_of_kept (isMetadata_notNull plain.settings) _ _
  · rfl

end Required

namespace Naming

/-- The name of a builder is that of a builder. -/
theorem isBuilder_builderName (naming : Naming) (property : String) (node : Option Json) :
    isBuilder (naming.builderName property node) = true := by
  unfold isBuilder builderName accessorName
  rw [List.isPrefixOf_iff_prefix, String.toList_append]
  exact List.prefix_append _ _

/-- A text that starts with another letter than a word does not start with the word. -/
theorem isPrefixOf_of_head {first other : Char} {rest text : List Char}
    (starts : text.head? = some other) (apart : other ≠ first) :
    (first :: rest).isPrefixOf text = false := by
  cases text with
  | nil => cases starts
  | cons c later =>
    obtain rfl : c = other := Option.some.inj starts
    simp [List.isPrefixOf, Ne.symm apart]

/-- The names of builders are told by their first letter. -/
theorem isBuilder_of_head {name : String} {first : Char} (starts : name.toList.head? = some first)
    (other : first ≠ 'w') : isBuilder name = false :=
  isPrefixOf_of_head starts other

/-- The name of a getter is not that of a builder. -/
theorem isBuilder_getterName (naming : Naming) (property : String) (type : TypeRef)
    (node : Option Json) : isBuilder (naming.getterName property type node) = false :=
  isBuilder_of_head (head_getterName naming property type node) (by split <;> decide)

/-- The name of a setter is not that of a builder. -/
theorem isBuilder_setterName (naming : Naming) (property : String) (node : Option Json) :
    isBuilder (naming.setterName property node) = false :=
  isBuilder_of_head (head_setterName naming property node) (by decide)

end Naming

namespace Properties

variable (context : RuleContext) (property : String) (node : Json)

/-- The getter of a property is no builder. -/
theorem isBuilder_newGetter : isBuilder (newGetter context property node).name = false := by
  rw [newGetter, Naming.isBuilder_getterName]

/-- The setter of a property is no builder. -/
theorem isBuilder_newSetter : isBuilder (newSetter context property node).name = false := by
  rw [newSetter, Naming.isBuilder_setterName]

/-- The builder of a property is one. -/
theorem isBuilder_newBuilder (className : String) :
    isBuilder (newBuilder context className property node).name = true := by
  rw [newBuilder, Naming.isBuilder_builderName]

end Properties

namespace ClassView

open Properties Required

/-- Members without the annotations of some names. -/
def withoutNotes (isDropped : String → Bool) : ClassView where
  field := (·.mapMember (.dropNotes isDropped))
  method := some ∘ (·.mapMember (.dropNotes isDropped))

/-- Members without the methods of some names. -/
def withoutMethods (isDropped : String → Bool) : ClassView where
  field := id
  method := Option.guard (!isDropped ·.name)

/-- A class seen without annotations is the class without them. -/
theorem apply_withoutNotes (isDropped : String → Bool) :
    (withoutNotes isDropped).apply = ClassModel.dropNotes isDropped := by
  funext target
  simp only [apply, withoutNotes, List.filterMap_eq_map, ClassModel.dropNotes]

/-- A class seen without methods is the class without them. -/
theorem apply_withoutMethods (isDropped : String → Bool) :
    (withoutMethods isDropped).apply = ClassModel.dropMethods isDropped := by
  funext target
  simp only [apply, withoutMethods, List.map_id, List.filterMap_eq_filter, ClassModel.dropMethods]

/-- Contexts that differ in annotations alone are related by dropping those in which they differ:
the annotations of descriptions and those of required fields. -/
theorem relates_withoutNotes {isDropped : String → Bool} {full plain : RuleContext}
    (naming : full.naming = plain.naming)
    (package : full.settings.targetPackage = plain.settings.targetPackage)
    (builders : full.settings.builders = plain.settings.builders)
    (types : PropertyType.ofNode full.settings = PropertyType.ofNode plain.settings)
    (described : ∀ text, (notesOf full text).filter (!isDropped ·.name) = notesOf plain text)
    (required : ∀ notes, (requiredNotes full notes).filter (!isDropped ·.name) =
      requiredNotes plain (notes.filter (!isDropped ·.name))) :
    (withoutNotes isDropped).Relates full plain where
  naming := naming
  package := package
  fieldName _ := rfl
  fieldType _ := rfl
  newField property node := by
    have made (context : RuleContext) := newField_eq_notesOf context (property, node)
    simp only [made, withoutNotes, FieldModel.mapMember, Member.dropNotes, described, nameOf,
      typeOf, naming, types]
  newMethods className property node := by
    simp only [withoutNotes, List.filterMap_eq_map, newMethods, builders]
    split <;> simp [newGetter, newSetter, newBuilder, newParam, MethodModel.mapMember,
      Member.dropNotes, naming, types]
  markTimes count field := by
    simp only [markTimes, withoutNotes, FieldModel.mapMember, Member.dropNotes]
    split
    · rfl
    · rw [required]
  markMethod names method := by
    have name : (method.mapMember (.dropNotes isDropped)).name = method.name := rfl
    simp only [withoutNotes, Function.comp_apply, Option.map_some, markMethod, name]
    split <;> rfl

/-- Contexts that differ in builders alone are related by dropping these. -/
theorem relates_withoutMethods {full plain : RuleContext}
    (naming : full.naming = plain.naming) (metadata : full.metadata = plain.metadata)
    (package : full.settings.targetPackage = plain.settings.targetPackage)
    (types : PropertyType.ofNode full.settings = PropertyType.ofNode plain.settings)
    (required : requiredNotes full = requiredNotes plain)
    (asked : full.settings.builders = true) (unasked : plain.settings.builders = false) :
    (withoutMethods isBuilder).Relates full plain where
  naming := naming
  package := package
  fieldName _ := rfl
  fieldType _ := rfl
  newField property node := by
    have made (context : RuleContext) := newField_eq_notesOf context (property, node)
    simp only [withoutMethods, id, made, nameOf, typeOf, notesOf, naming, metadata, types]
  newMethods className property node := by
    have getter : newGetter full property node = newGetter plain property node := by
      simp only [newGetter, naming, types]
    have setter : newSetter full property node = newSetter plain property node := by
      simp only [newSetter, newParam, naming, types]
    simp [withoutMethods, newMethods, getter, setter, asked, unasked, isBuilder_newGetter,
      isBuilder_newSetter, isBuilder_newBuilder]
  markTimes count field := by simp only [withoutMethods, id, Required.markTimes, required]
  markMethod names method := by
    simp only [withoutMethods, Option.guard, RuleContext.name_markMethod]
    split <;> rfl

end ClassView

namespace RuleContext

open Properties Required

section Adding

variable (settings : Settings) (naming : Option Naming) (schema : Schema)
  (className package : Option String)

/-- Annotations of required fields are all that the option for them adds, from whichever package
they are. -/
theorem generate_notNullAnnotations (jakarta other : Bool) :
    let full := ofSettings { settings with notNullAnnotations := true, jakarta } naming
    let plain := ofSettings { settings with notNullAnnotations := false, jakarta := other } naming
    (full.generate schema className package).map (.dropNotes isNotNull) =
      plain.generate schema className package := by
  intro full plain
  have related : (ClassView.withoutNotes isNotNull).Relates full plain :=
    ClassView.relates_withoutNotes rfl rfl rfl (funext (PropertyType.ofNode_congr rfl rfl))
      (filter_notesOf_of_kept isNotNull_apiModelProperty full)
      (filter_requiredNotes_of_notNull rfl rfl rfl)
  rw [← ClassView.apply_withoutNotes]
  exact related.generate_map schema className package

/-- Annotations for metadata are all that the option for them adds. -/
theorem generate_swagger2 :
    let full := ofSettings { settings with swagger2 := true } naming
    let plain := ofSettings { settings with swagger2 := false } naming
    (full.generate schema className package).map (.dropNotes isMetadata) =
      plain.generate schema className package := by
  intro full plain
  have unrecorded (text : String) : notesOf plain text = [] := rfl
  have related : (ClassView.withoutNotes isMetadata).Relates full plain :=
    ClassView.relates_withoutNotes rfl rfl rfl (funext (PropertyType.ofNode_congr rfl rfl))
      (fun text => (filter_notesOf_of_dropped isMetadata_apiModelProperty full text).trans
        (unrecorded text).symm)
      (filter_requiredNotes_of_metadata ⟨rfl, rfl⟩ rfl rfl)
  rw [← ClassView.apply_withoutNotes]
  exact related.generate_map schema className package

/-- Builders are all that the option for them adds. -/
theorem generate_builders :
    let full := ofSettings { settings with builders := true } naming
    let plain := ofSettings { settings with builders := false } naming
    (full.generate schema className package).map (.dropMethods isBuilder) =
      plain.generate schema className package := by
  intro full plain
  have related : (ClassView.withoutMethods isBuilder).Relates full plain :=
    ClassView.relates_withoutMethods rfl rfl rfl (funext (PropertyType.ofNode_congr rfl rfl)) rfl
      rfl rfl
  rw [← ClassView.apply_withoutMethods]
  exact related.generate_map schema className package

end Adding

/-- Entries lead to no builder. -/
theorem isBuilder_of_mem_accessorNames {context : RuleContext}
    {properties : Option (Entries Json)} {target : ClassModel} {entry name : String}
    (member : name ∈ accessorNames context properties target entry) : isBuilder name = false := by
  unfold accessorNames at member
  split at member
  · simp at member
  · rcases List.mem_cons.mp member with rfl | member
    · exact Naming.isBuilder_getterName _ _ _ _
    · rw [List.mem_singleton.mp member]
      exact Naming.isBuilder_setterName _ _ _

/-- The name of a builder is not among those that entries lead to. -/
theorem contains_of_isBuilder {context : RuleContext} {properties : Option (Entries Json)}
    {target : ClassModel} {name : String} (builder : isBuilder name = true)
    (entries : List String) :
    (entries.flatMap (accessorNames context properties target)).contains name = false := by
  rw [List.contains_eq_mem, decide_eq_false_iff_not, List.mem_flatMap]
  rintro ⟨entry, _, listed⟩
  simp [isBuilder_of_mem_accessorNames listed] at builder

/-- The builder is the only method of a property with the name of a builder. -/
theorem eq_newBuilder_of_isBuilder {context : RuleContext} {className property : String}
    {node : Json} {method : MethodModel}
    (member : method ∈ newMethods context className property node)
    (builder : isBuilder method.name = true) :
    method = newBuilder context className property node := by
  unfold newMethods at member
  rcases List.mem_append.mp member with accessor | added
  · rcases List.mem_cons.mp accessor with rfl | setter
    · simp [isBuilder_newGetter] at builder
    · rw [List.mem_singleton.mp setter] at builder
      simp [isBuilder_newSetter] at builder
  · split at added
    · exact List.mem_singleton.mp added
    · simp at added

/-- The builders of a generated class are not documented: entries do not mark them. -/
theorem doc_of_isBuilder {context : RuleContext} {schema : Schema}
    {className package : Option String} {result : ClassModel}
    (generated : context.generate schema className package = .ok result) {method : MethodModel}
    (member : method ∈ result.methods) (builder : isBuilder method.name = true) :
    method.doc = {} := by
  obtain ⟨properties, entries, _, _, rfl⟩ := generate_eq_ok_iff.mp generated
  let start := context.emptyClass schema className package
  let target := context.unmarked start (properties.getD [])
  have distinct : (fieldNames target).Nodup := nodup_fieldNames_unmarked context rfl _
  rw [markEntries_eq context properties distinct] at member
  obtain ⟨source, known, rfl⟩ := List.mem_map.mp member
  rw [name_markMethod] at builder
  rw [methods_unmarked context rfl rfl] at known
  obtain ⟨property, _, made⟩ := List.mem_flatMap.mp known
  rw [markMethod, contains_of_isBuilder builder, eq_newBuilder_of_isBuilder made builder]
  rfl

/-- Each of three options only adds to a class: without the annotations for fields that are not
null, without those for metadata or without the builders, and these are not documented, the class
that is generated with the option is the one that is generated without it. Where there is none, the
failure does not depend on the option. -/
theorem generate_options_add (settings : Settings) (naming : Option Naming) (schema : Schema)
    (className package : Option String) :
    let run (settings : Settings) :=
      (ofSettings settings naming).generate schema className package
    (∀ jakarta other,
      (run { settings with notNullAnnotations := true, jakarta }).map (.dropNotes isNotNull) =
        run { settings with notNullAnnotations := false, jakarta := other }) ∧
    (run { settings with swagger2 := true }).map (.dropNotes isMetadata) =
      run { settings with swagger2 := false } ∧
    (run { settings with builders := true }).map (.dropMethods isBuilder) =
      run { settings with builders := false } ∧
    ∀ result, run { settings with builders := true } = .ok result →
      ∀ method ∈ result.methods, isBuilder method.name = true → method.doc = {} := by
  intro run
  refine ⟨?_, ?_, ?_, ?_⟩
  · exact generate_notNullAnnotations settings naming schema className package
  · exact generate_swagger2 settings naming schema className package
  · exact generate_builders settings naming schema className package
  · exact fun result generated method member builder => doc_of_isBuilder generated member builder

/-- With all three options, the builder of a required property is not documented, and without it
there is the class without builders. -/
theorem generate_options_add_builder :
    let settings : Settings := { notNullAnnotations := true, swagger2 := true, builders := true }
    let schema : Schema :=
      { content := [("properties", .object [("name", .object [("title", .string "Name")])]),
          ("required", .array [.string "name"])] }
    ∃ result, (ofSettings settings).generate schema = .ok result ∧
      result.methods.map (fun method => (method.name, method.doc.text)) =
        [("getName", "Name\n(Required)"), ("setName", "Name\n(Required)"), ("withName", "")] ∧
      (ofSettings { settings with builders := false }).generate schema =
        .ok (result.dropMethods isBuilder) ∧
      ∀ method ∈ result.methods, isBuilder method.name = true → method.doc = {} := by
  intro settings schema
  have generated : (ofSettings settings).generate schema = .ok _ :=
    generate_eq_ok_iff.mpr ⟨_, _, rfl, rfl, rfl⟩
  obtain ⟨_, _, builders, undocumented⟩ := generate_options_add settings none schema none none
  have without := congrArg (Except.map (ClassModel.dropMethods isBuilder)) generated
  exact ⟨_, generated, by decide, builders.symm.trans without, undocumented _ generated⟩

end RuleContext

end SchemaBeans
