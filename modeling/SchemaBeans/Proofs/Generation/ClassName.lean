import SchemaBeans.Proofs.Generation.Options

/-!
# The name of a class

A class is named after its schema unless a name is given. The name shows in two places, as the name
of the class and in what its builders return, and nothing else depends on it: the class with a given
name is the class of the schema under that name (`generate_some_className`), and where there is no
class, the failure does not depend on the name.
-/
namespace SchemaBeans

open Properties Required

/-- A method as it stands in the class of the given full name: only a builder depends on it. -/
def MethodModel.inClass (fullName : String) (method : MethodModel) : MethodModel :=
  if isBuilder method.name then { method with returnType := ⟨fullName, false⟩ } else method

/-- A builder returns its class. -/
theorem MethodModel.inClass_of_isBuilder {method : MethodModel}
    (builder : isBuilder method.name = true) (fullName : String) :
    method.inClass fullName = { method with returnType := ⟨fullName, false⟩ } := if_pos builder

/-- Another method is the same in each class. -/
theorem MethodModel.inClass_of_not_isBuilder {method : MethodModel}
    (other : isBuilder method.name = false) (fullName : String) :
    method.inClass fullName = method := if_neg (Bool.eq_false_iff.mp other)

namespace ClassModel

/-- A class under another simple name. -/
def rename (name : String) (target : ClassModel) : ClassModel :=
  let renamed := { target with name }
  { renamed with methods := target.methods.map (.inClass renamed.fullName) }

end ClassModel

namespace RuleContext

variable (context : RuleContext)

/-- The methods of a property in one class are those in another, but for what builders return. -/
theorem map_inClass_newMethods (className fullName property : String) (node : Json) :
    (newMethods context className property node).map (.inClass fullName) =
      newMethods context fullName property node := by
  rw [newMethods, List.map_append, List.map_cons, List.map_singleton,
    MethodModel.inClass_of_not_isBuilder (isBuilder_newGetter context property node),
    MethodModel.inClass_of_not_isBuilder (isBuilder_newSetter context property node), newMethods]
  cases context.settings.builders with
  | false => rfl
  | true =>
    rw [if_pos rfl, if_pos rfl, List.map_singleton,
      MethodModel.inClass_of_isBuilder (isBuilder_newBuilder context property node className)]
    rfl

/-- Members of properties are created alike under another name. -/
theorem rename_unmarked (name : String) (start : ClassModel) (methods : start.methods = [])
    (properties : Entries Json) :
    (context.unmarked start properties).rename name =
      context.unmarked { start with name } properties := by
  unfold unmarked withMembers ClassModel.rename
  simp only [methods, List.nil_append, List.map_flatMap, map_inClass_newMethods]
  rfl

/-- A method is marked alike in another class. -/
theorem inClass_markMethod (fullName : String) (names : List String) (method : MethodModel) :
    (markMethod names method).inClass fullName = markMethod names (method.inClass fullName) := by
  have name : (method.inClass fullName).name = method.name := by
    unfold MethodModel.inClass
    split <;> rfl
  unfold markMethod
  rw [name]
  cases names.contains method.name with
  | false => rfl
  | true =>
    rw [if_pos rfl, if_pos rfl]
    have kept : (method.mapMember markDoc).name = method.name := rfl
    unfold MethodModel.inClass
    rw [kept]
    split <;> rfl

/-- Entries mark alike under another name. -/
theorem rename_markEntries (name : String) (properties : Option (Entries Json))
    (entries : List String) (target : ClassModel) :
    (markEntries context properties entries target).rename name =
      markEntries context properties entries (target.rename name) := by
  -- Entries find fields, and these do not depend on the name.
  have fields : (entries.foldl (markEntry context properties) target).rename name =
      entries.foldl (markEntry context properties) (target.rename name) :=
    (List.foldl_hom (ClassModel.rename name) fun _ _ => rfl).symm
  have collected : accessorNames context properties (target.rename name) =
      accessorNames context properties target := rfl
  have methods (names : List String) (marked : ClassModel) :
      (markMethods names marked).rename name = markMethods names (marked.rename name) := by
    unfold markMethods ClassModel.rename
    simp only [List.map_map]
    congr 1
    exact List.map_congr_left fun method _ => inClass_markMethod _ names method
  rw [markEntries, methods, fields, markEntries, collected]

/-- A name that is not empty counts as given. -/
theorem filter_some_className {className : String} (given : className ≠ "") :
    (some className).filter (· ≠ "") = some className := by
  simp [Option.filter, given]

/-- A given name is the name of the class. -/
theorem classNameFor_some (schema : Schema) {className : String} (given : className ≠ "") :
    context.classNameFor schema (some className) = className := by
  rw [classNameFor, filter_some_className given, Option.getD_some]

/-- A class with a given name is the class of the schema under that name, and where there is none,
the failure is the same. -/
theorem generate_some_className (schema : Schema) {className : String} (given : className ≠ "")
    (package : Option String) :
    context.generate schema (some className) package =
      (context.generate schema none package).map (.rename className) := by
  let start := context.emptyClass schema none package
  have named : context.emptyClass schema (some className) package =
      { start with name := className } := by
    rw [emptyClass, context.classNameFor_some schema given]
    rfl
  rw [generate, generate, applyAll_standard, applyAll_standard, named]
  cases schema.properties? with
  | error malformed => rfl
  | ok properties =>
    cases schema.requiredEntries with
    | error malformed => rfl
    | ok entries =>
      have made := context.rename_unmarked className start rfl (properties.getD [])
      simp only [Except.map, rename_markEntries, ← made]
      rfl

/-- A class has the name that it starts with. -/
theorem name_of_generate {schema : Schema} {className package : Option String} {target : ClassModel}
    (generated : context.generate schema className package = .ok target) :
    target.name = context.classNameFor schema className := by
  obtain ⟨properties, entries, _, _, rfl⟩ := generate_eq_ok_iff.mp generated
  rw [markEntries_eq context properties (nodup_fieldNames_unmarked context rfl _)]
  rfl

/-- The builders of a class return that class. -/
theorem rename_generate {schema : Schema} {className package : Option String} {target : ClassModel}
    (generated : context.generate schema className package = .ok target) :
    target.rename target.name = target := by
  let start := context.emptyClass schema className package
  have name : target.name = start.name := context.name_of_generate generated
  obtain ⟨properties, entries, _, _, rfl⟩ := generate_eq_ok_iff.mp generated
  rw [name, rename_markEntries, context.rename_unmarked start.name start rfl]

/-- The name that a class has anyway makes no difference. -/
theorem generate_derived_className (schema : Schema) (package : Option String)
    (given : context.classNameFor schema none ≠ "") :
    context.generate schema (some (context.classNameFor schema none)) package =
      context.generate schema none package := by
  rw [generate, emptyClass, context.classNameFor_some schema given]
  rfl

end RuleContext

end SchemaBeans
