import SchemaBeans.Proofs.Generation.LegalNames
import SchemaBeans.Proofs.Generation.Marking
import SchemaBeans.Proofs.Report.Lines

/-!
# Generated classes on lines

A schema is any text, but what is made of it and shown beside documentation stands on lines. Names
of members and classes are made of identifier characters, a type is one of a few or a list of such,
and where no metadata is recorded the one annotation is that of fields that are not null. So
creating members keeps a class unbroken and marking them does, and a generated class is unbroken if
what it is given is: its package, and its name if that is not derived (`unbroken_generate`).
-/
namespace SchemaBeans

open Text Properties Required

/-- The class for a type has an unbroken name if the type has one. -/
theorem TypeRef.unbroken_boxed {type : TypeRef} (unbroken : Unbroken type.name) :
    Unbroken type.boxed.name := by
  unfold boxed
  split
  · split
    · decide
    · decide
    · decide
    · decide
    · exact unbroken
  · exact unbroken

/-- A list has an unbroken name if the type of its items has one. -/
theorem TypeRef.unbroken_listOf {item : TypeRef} (unbroken : Unbroken item.name) :
    Unbroken item.listOf.name :=
  unbroken_append.mpr
    ⟨unbroken_append.mpr ⟨by decide, unbroken_simpleName unbroken⟩, by decide⟩

namespace PropertyType

/-- A type that is no list has an unbroken name. -/
theorem unbroken_scalar (settings : Settings) (name : Option String) :
    Unbroken (scalar settings name).name := by
  unfold scalar
  cases settings.primitives <;> cases settings.longIntegers <;> split <;> decide

mutual

/-- The type of a node has an unbroken name. -/
theorem unbroken_ofNode (settings : Settings) :
    (node : Json) → Unbroken (ofNode settings node).name
  | .object entries => by
    rw [ofNode]
    split
    · exact TypeRef.unbroken_listOf (TypeRef.unbroken_boxed (unbroken_ofItems settings entries))
    · exact unbroken_scalar settings _
  | .null | .bool _ | .int _ | .float _ | .string _ | .array _ => by
    simp only [ofNode]
    decide

/-- The type of items has an unbroken name. -/
theorem unbroken_ofItems (settings : Settings) :
    (entries : List (String × Json)) → Unbroken (ofItems settings entries).name
  | [] => by
    simp only [ofItems]
    decide
  | (key, value) :: rest => by
    rw [ofItems]
    split
    · exact unbroken_ofNode settings value
    · exact unbroken_ofItems settings rest

end

end PropertyType

namespace Naming

/-- A legal name is unbroken. -/
theorem unbroken_of_isLegal {name : String} (legal : Identifier.isLegal name.toList = true) :
    Unbroken name :=
  @unbroken_of_forall Identifier.isChar (by decide) name
    fun _ member => Identifier.isChar_of_isLegal legal member

/-- The name of a field is unbroken, be it legal or empty. -/
theorem unbroken_fieldName (naming : Naming) (property : String) (node : Option Json) :
    Unbroken (naming.fieldName property node) := by
  by_cases given : givenName property node = ""
  · rw [fieldName_eq_empty_iff.mpr given]
    decide
  · exact unbroken_of_isLegal (isLegal_fieldName_iff.mpr given)

/-- The name of an accessor is unbroken. -/
theorem unbroken_accessor (naming : Naming) (property : String) (node : Option Json)
    (accessor : Accessor) : Unbroken (accessor.name naming property node) :=
  unbroken_of_isLegal (Accessor.isLegal_name naming property node accessor).1

end Naming

section Members

variable {context : RuleContext}

/-- The parameter of accessors is unbroken. -/
theorem unbroken_newParam (property : String) (node : Json) :
    ∀ param ∈ [newParam context property node], Unbroken param.1 ∧ Unbroken param.2.name := by
  intro param member
  rw [List.mem_singleton.mp member]
  exact ⟨context.naming.unbroken_fieldName property (some node),
    PropertyType.unbroken_ofNode context.settings node⟩

/-- The field of a property is unbroken where no metadata is recorded. -/
theorem unbroken_newField (unrecorded : context.metadata = .none) (property : String)
    (node : Json) : (newField context property node).Unbroken := by
  rw [newField, unrecorded, Metadata.describe]
  constructor
  case name => exact context.naming.unbroken_fieldName property (some node)
  case type => exact PropertyType.unbroken_ofNode context.settings node
  case annotations => exact List.forall_mem_nil _

/-- The methods of a property are unbroken in a class whose full name is. -/
theorem unbroken_newMethods {className : String} (named : Unbroken className) (property : String)
    (node : Json) : ∀ method ∈ newMethods context className property node, method.Unbroken := by
  have getter : (newGetter context property node).Unbroken := {
    name := context.naming.unbroken_accessor property (some node) (.getter _)
    returnType := PropertyType.unbroken_ofNode context.settings node
    params := List.forall_mem_nil _ }
  have setter : (newSetter context property node).Unbroken := {
    name := context.naming.unbroken_accessor property (some node) .setter
    returnType := (by decide : Unbroken TypeRef.void.name)
    params := unbroken_newParam property node }
  have builder : (newBuilder context className property node).Unbroken := {
    name := context.naming.unbroken_accessor property (some node) .builder
    returnType := named
    params := unbroken_newParam property node }
  refine List.forall_mem_append.mpr
    ⟨List.forall_mem_cons.mpr ⟨getter, List.forall_mem_singleton.mpr setter⟩, ?_⟩
  split
  · exact List.forall_mem_singleton.mpr builder
  · exact List.forall_mem_nil _

/-- A class stays unbroken when members of properties are added. -/
theorem ClassModel.Unbroken.withMembers (unrecorded : context.metadata = .none)
    {target : ClassModel} (unbroken : target.Unbroken) (properties : List (String × Json)) :
    (withMembers context target properties).Unbroken where
  fullName := unbroken.fullName
  fields := List.forall_mem_append.mpr ⟨unbroken.fields,
    List.forall_mem_map.mpr fun property _ => unbroken_newField unrecorded property.1 property.2⟩
  methods := by
    refine List.forall_mem_append.mpr ⟨unbroken.methods, fun method member => ?_⟩
    obtain ⟨property, _, known⟩ := List.mem_flatMap.mp member
    exact unbroken_newMethods unbroken.fullName property.1 property.2 method known

/-- A required field has annotations that stand on one line if the ones it had do. -/
theorem unbroken_requiredNotes (unrecorded : context.metadata = .none) {notes : List Annotation}
    (unbroken : ∀ note ∈ notes, Unbroken note.render) :
    ∀ note ∈ requiredNotes context notes, Unbroken note.render := by
  have notNull : Unbroken ({ name := context.settings.notNullAnnotation } : Annotation).render := by
    unfold Settings.notNullAnnotation
    split <;> decide
  have missing : ∀ note ∈ unlessPresent notes { name := context.settings.notNullAnnotation },
      Unbroken note.render := by
    unfold unlessPresent
    split
    · exact List.forall_mem_nil _
    · exact List.forall_mem_singleton.mpr notNull
  rw [requiredNotes, unrecorded]
  simp only []
  split
  · rw [annotateIn_nil]
    exact List.forall_mem_append.mpr ⟨unbroken, missing⟩
  · exact unbroken

/-- Marking keeps a field unbroken. -/
theorem FieldModel.Unbroken.markTimes (unrecorded : context.metadata = .none) {field : FieldModel}
    (unbroken : field.Unbroken) (count : Nat) : (markTimes context count field).Unbroken where
  name := unbroken.name
  type := unbroken.type
  annotations := by
    unfold Required.markTimes
    split
    · exact unbroken.annotations
    · exact unbroken_requiredNotes unrecorded unbroken.annotations

/-- Marking keeps a method unbroken. -/
theorem MethodModel.Unbroken.markMethod {method : MethodModel} (unbroken : method.Unbroken)
    (names : List String) : (markMethod names method).Unbroken := by
  unfold Required.markMethod
  split
  · exact ⟨unbroken.name, unbroken.returnType, unbroken.params⟩
  · exact unbroken

/-- A class stays unbroken when entries of `required` mark its members. -/
theorem ClassModel.Unbroken.markEntries (unrecorded : context.metadata = .none)
    {target : ClassModel} (unbroken : target.Unbroken) (distinct : (fieldNames target).Nodup)
    (properties : Option (Entries Json)) (entries : List String) :
    (markEntries context properties entries target).Unbroken := by
  rw [markEntries_eq context properties distinct]
  constructor
  case fullName => exact unbroken.fullName
  case fields =>
    exact List.forall_mem_map.mpr fun field member =>
      (unbroken.fields field member).markTimes unrecorded _
  case methods =>
    exact List.forall_mem_map.mpr fun method member => (unbroken.methods method member).markMethod _

end Members

namespace RuleContext

variable {context : RuleContext} {className package : Option String}

/-- The name of a class is unbroken, be it given or derived. -/
theorem unbroken_classNameFor (schema : Schema)
    (given : ∀ name, className = some name → Unbroken name) :
    Unbroken (context.classNameFor schema className) := by
  cases known : className.filter (· ≠ "") with
  | none => exact Naming.unbroken_of_isLegal (context.isLegal_classNameFor schema known)
  | some name =>
    rw [classNameFor, known]
    exact given name (Option.filter_eq_some_iff.mp known).1

/-- A class without members is unbroken if its package is, and its name if that is given. -/
theorem unbroken_emptyClass (schema : Schema)
    (placed : Unbroken (package.getD context.settings.targetPackage))
    (given : ∀ name, className = some name → Unbroken name) :
    (context.emptyClass schema className package).Unbroken where
  fullName := by
    have named : Unbroken (context.classNameFor schema className) :=
      unbroken_classNameFor schema given
    unfold ClassModel.fullName
    split
    · exact named
    · exact unbroken_append.mpr ⟨unbroken_append.mpr ⟨placed, by decide⟩, named⟩
  fields := List.forall_mem_nil _
  methods := List.forall_mem_nil _

/-- A class that is generated without metadata is unbroken if its package is, and its name if that
is given. -/
theorem unbroken_generate (unrecorded : context.metadata = .none)
    (placed : Unbroken (package.getD context.settings.targetPackage))
    (given : ∀ name, className = some name → Unbroken name) {schema : Schema} {result : ClassModel}
    (generated : context.generate schema className package = .ok result) : result.Unbroken := by
  obtain ⟨properties, entries, _, _, rfl⟩ := generate_eq_ok_iff.mp generated
  have bare := unbroken_emptyClass schema placed given
  exact (bare.withMembers unrecorded _).markEntries unrecorded
    (nodup_fieldNames_unmarked context rfl _) properties entries

/-- The class of a file is unbroken as that of its schema is. -/
theorem unbroken_generateFile (unrecorded : context.metadata = .none)
    (placed : Unbroken (package.getD context.settings.targetPackage))
    (given : ∀ name, className = some name → Unbroken name) {read : FileReader} {path : String}
    {result : ClassModel}
    (generated : context.generateFile read path className package = .ok result) :
    result.Unbroken := by
  rw [generateFile] at generated
  cases loaded : Schema.load read path with
  | error failure =>
    rw [loaded] at generated
    cases generated
  | ok schema =>
    rw [loaded] at generated
    exact unbroken_generate unrecorded placed given generated

end RuleContext

end SchemaBeans
