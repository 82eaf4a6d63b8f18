import Mathlib.Data.List.Pairwise
import SchemaBeans.Proofs.Generation.Agreement
import SchemaBeans.Proofs.Properties.Effect

/-!
# Overloads of a generated class

A compiler tells the methods of a class apart by their names and the types of their parameters. The
rule for `properties` looks at the names of fields alone, and the names of accessors follow other
rules. So two properties may make two fields and still have a method in common for a compiler, but
only if their names look alike and their types are of one kind (`nameOf_eq_of_mem_overloads`). Where
no two properties clash in this way, all methods of a class can be told apart
(`generate_overloads`).
-/
namespace SchemaBeans

/-- What a compiler tells the methods of a class apart by: the name and the types of the
parameters. -/
def MethodModel.overload (method : MethodModel) : String × List TypeRef :=
  (method.name, method.params.map Prod.snd)

/-- The name of a builder starts with a word that no setter starts with. -/
theorem Naming.setterName_ne_builderName (naming : Naming) (property other : String)
    (node nodeOther : Option Json) :
    naming.setterName property node ≠ naming.builderName other nodeOther := by
  intro alike
  have texts := congrArg String.toList alike
  unfold setterName builderName accessorName at texts
  simp only [] at texts
  split at texts <;> simp at texts

/-- The getters of the pair around `Class` have one name, if neither is that of a truth value. -/
theorem Naming.getterName_eq_of_className {naming : Naming} {property other : String}
    {type typeOther : TypeRef} {node nodeOther : Option Json}
    (bare : capitalize (naming.stem property node) = "Class".toList)
    (guarded : capitalize (naming.stem other nodeOther) = "Class_".toList)
    (word : type.isPrimitiveBoolean = false) (wordOther : typeOther.isPrimitiveBoolean = false) :
    naming.getterName property type node = naming.getterName other typeOther nodeOther := by
  unfold getterName accessorName
  rw [bare, guarded, word, wordOther]
  decide

namespace RuleContext

open Properties Required Naming

variable (context : RuleContext)

/-- Two properties have types of one kind: both are primitive truth values, or neither is. -/
def OfOneKind (first second : String × Json) : Prop :=
  (typeOf context first).isPrimitiveBoolean = (typeOf context second).isPrimitiveBoolean

/-- Two properties clash if their names look alike and their types are of one kind. -/
def Clash (first second : String × Json) : Prop :=
  Confusable (propertyStem context first) (propertyStem context second) ∧
    OfOneKind context first second

instance (first second : String × Json) : Decidable (OfOneKind context first second) :=
  inferInstanceAs (Decidable (_ = _))

-- Names are settled by the names that are made from them, since looking alike has cases over all
-- stems.
instance (first second : String × Json) : Decidable (Clash context first second) :=
  decidable_of_iff' _ (and_congr_left' confusable_iff)

/-- A getter takes no parameters. -/
@[simp]
theorem overload_newGetter (property : String × Json) :
    (newGetter context property.1 property.2).overload =
      (context.naming.getterName property.1 (typeOf context property) (some property.2), []) := by
  simp only [MethodModel.overload, newGetter, typeOf, List.map_nil]

/-- A setter takes the type of its field. -/
@[simp]
theorem overload_newSetter (property : String × Json) :
    (newSetter context property.1 property.2).overload =
      (context.naming.setterName property.1 (some property.2), [typeOf context property]) := by
  simp only [MethodModel.overload, newSetter, newParam, typeOf, List.map_cons, List.map_nil]

/-- A builder takes the type of its field. -/
@[simp]
theorem overload_newBuilder (className : String) (property : String × Json) :
    (newBuilder context className property.1 property.2).overload =
      (context.naming.builderName property.1 (some property.2), [typeOf context property]) := by
  simp only [MethodModel.overload, newBuilder, newParam, typeOf, List.map_cons, List.map_nil]

/-- What the methods of a property in a class of the given name are told apart by. -/
def overloads (className : String) (property : String × Json) : List (String × List TypeRef) :=
  (newMethods context className property.1 property.2).map (·.overload)

/-- The methods of a property are its getter, its setter and its builder. -/
theorem mem_overloads {className : String} {property : String × Json}
    {overload : String × List TypeRef} (member : overload ∈ overloads context className property) :
    overload = (context.naming.getterName property.1 (typeOf context property) (some property.2),
      []) ∨
    overload = (context.naming.setterName property.1 (some property.2),
      [typeOf context property]) ∨
    overload = (context.naming.builderName property.1 (some property.2),
      [typeOf context property]) := by
  unfold overloads newMethods at member
  split at member
  · simpa using member
  · simp only [List.append_nil, List.map_cons, List.map_nil, List.mem_cons, List.not_mem_nil,
      or_false, overload_newGetter, overload_newSetter] at member
    exact member.imp id .inl

/-- The methods of a property can be told apart. -/
theorem nodup_overloads (className : String) (property : String × Json) :
    (overloads context className property).Nodup := by
  have apart := setterName_ne_builderName context.naming property.1 property.1 (some property.2)
    (some property.2)
  unfold overloads newMethods
  split <;> simp [apart]

/-- Two properties that do not clash have one field name if they have a method in common. -/
theorem nameOf_eq_of_mem_overloads {className : String} {first second : String × Json}
    (clear : ¬Clash context first second) {overload : String × List TypeRef}
    (one : overload ∈ overloads context className first)
    (other : overload ∈ overloads context className second) :
    nameOf context first = nameOf context second := by
  have unalike (kinds : OfOneKind context first second) :
      ¬Confusable (propertyStem context first) (propertyStem context second) :=
    fun alike => clear ⟨alike, kinds⟩
  -- Getters take no parameters, and setters and builders are told apart by their names. So what is
  -- in common are two getters, two setters or two builders.
  rcases mem_overloads context one with rfl | rfl | rfl <;>
    rcases mem_overloads context other with same | same | same <;>
    obtain ⟨named, typed⟩ := Prod.mk.inj same
  case inl.inl =>
    have kinds := isPrimitiveBoolean_eq_of_getterName_eq named
    exact ((getterName_eq_iff (unalike kinds)).mp named).1
  case inr.inl.inr.inl =>
    have kinds := congrArg TypeRef.isPrimitiveBoolean (List.cons.inj typed).1
    exact (setterName_eq_iff (unalike kinds)).mp named
  case inr.inr.inr.inr =>
    have kinds := congrArg TypeRef.isPrimitiveBoolean (List.cons.inj typed).1
    exact (fieldName_eq_iff_capitalize_eq (unalike kinds)).mpr
      (capitalize_eq_of_accessorName_eq named)
  case inr.inl.inr.inr => exact absurd named (setterName_ne_builderName _ _ _ _ _)
  case inr.inr.inr.inl => exact absurd named.symm (setterName_ne_builderName _ _ _ _ _)
  all_goals simp at typed

/-- The methods of created properties of which no two clash can be told apart. -/
theorem nodup_flatMap_overloads (className : String) {made : List (String × Json)}
    (distinct : (made.map (nameOf context)).Nodup)
    (clear : made.Pairwise fun first second => ¬Clash context first second) :
    (made.flatMap (overloads context className)).Nodup := by
  rw [List.nodup_flatMap]
  refine ⟨fun property _ => nodup_overloads context className property, ?_⟩
  refine (clear.and (List.pairwise_map.mp distinct)).imp ?_
  rintro first second ⟨unclashing, apart⟩ overload one other
  exact apart (nameOf_eq_of_mem_overloads context unclashing one other)

/-- Only primitive truth values have the type that is asked for. -/
theorem eq_boolean_of_isPrimitiveBoolean {type : TypeRef}
    (truth : type.isPrimitiveBoolean = true) : type = .boolean := by
  obtain ⟨name, primitive⟩ := type
  obtain ⟨rfl, rfl⟩ : primitive = true ∧ name = "boolean" := by
    simpa [TypeRef.isPrimitiveBoolean] using truth
  rfl

/-- Properties named after `Class` and `Class_` have a method in common if their types are of one
kind. -/
theorem exists_common_overload {bare guarded : String × Json}
    (class_ : capitalize (propertyStem context bare) = "Class".toList)
    (underscored : capitalize (propertyStem context guarded) = "Class_".toList)
    (kinds : OfOneKind context bare guarded) (className : String) :
    ∃ overload, overload ∈ overloads context className bare ∧
      overload ∈ overloads context className guarded := by
  have getter (property : String × Json) :
      (context.naming.getterName property.1 (typeOf context property) (some property.2), []) ∈
        overloads context className property := by
    simp [overloads, newMethods]
  have setter (property : String × Json) :
      (context.naming.setterName property.1 (some property.2), [typeOf context property]) ∈
        overloads context className property := by
    simp [overloads, newMethods]
  cases truth : (typeOf context guarded).isPrimitiveBoolean with
  | false =>
    -- The getters of other types are renamed, and take no parameters.
    refine ⟨_, getter bare, ?_⟩
    rw [getterName_eq_of_className class_ underscored (kinds.trans truth) truth]
    exact getter guarded
  | true =>
    -- The getters of truth values are not, but then the setters take one type.
    have types : typeOf context bare = typeOf context guarded := by
      rw [eq_boolean_of_isPrimitiveBoolean (kinds.trans truth),
        eq_boolean_of_isPrimitiveBoolean truth]
    refine ⟨_, setter bare, ?_⟩
    rw [(LookAlike.className_apart class_ underscored).1, types]
    exact setter guarded

/-- The methods of properties cannot all be told apart if two of them are named after `Class` and
`Class_` and have types of one kind. -/
theorem not_nodup_flatMap_overloads {made : List (String × Json)} {bare guarded : String × Json}
    (first : bare ∈ made) (second : guarded ∈ made)
    (class_ : capitalize (propertyStem context bare) = "Class".toList)
    (underscored : capitalize (propertyStem context guarded) = "Class_".toList)
    (kinds : OfOneKind context bare guarded) (className : String) :
    ¬(made.flatMap (overloads context className)).Nodup := by
  obtain ⟨overload, one, other⟩ :=
    exists_common_overload context class_ underscored kinds className
  intro distinct
  have apart : bare ≠ guarded := by
    rintro rfl
    rw [class_] at underscored
    simp at underscored
  have : Std.Symm (Function.onFun List.Disjoint (overloads context className)) :=
    ⟨fun _ _ separate _ one other => separate other one⟩
  exact (List.nodup_flatMap.mp distinct).2.forall first second apart one other

/-- Marking does not show in what methods are told apart by. -/
theorem overload_markEntries {target : ClassModel} (distinct : (fieldNames target).Nodup)
    (properties : Option (Entries Json)) (entries : List String) :
    (markEntries context properties entries target).methods.map (·.overload) =
      target.methods.map (·.overload) := by
  rw [markEntries_eq context properties distinct, List.map_map]
  refine List.map_congr_left fun method _ => ?_
  unfold Function.comp markMethod
  split <;> rfl

/-- The methods of a class are told apart as those of its selected properties. -/
theorem overload_generate {schema : Schema} {className package : Option String}
    {result : ClassModel}
    (generated : context.generate schema className package = .ok result) :
    ∃ properties fullName, schema.properties? = .ok properties ∧
      result.methods.map (·.overload) =
        (selected context [] (properties.getD [])).flatMap (overloads context fullName) := by
  obtain ⟨properties, entries, read, _, rfl⟩ := generate_eq_ok_iff.mp generated
  let start := context.emptyClass schema className package
  have unique : (fieldNames (context.unmarked start (properties.getD []))).Nodup :=
    nodup_fieldNames_unmarked context rfl _
  refine ⟨properties, start.fullName, read, ?_⟩
  rw [overload_markEntries context unique, ← created_eq_selected]
  exact List.map_flatMap

/-- All methods of a class can be told apart if no two of the properties that create them clash.
They cannot be if two of these are named after `Class` and `Class_` and have types of one kind. -/
theorem generate_overloads {context : RuleContext} {schema : Schema}
    {className package : Option String} {result : ClassModel}
    (generated : context.generate schema className package = .ok result) :
    ∃ properties, schema.properties? = .ok properties ∧
      ((selected context [] (properties.getD [])).Pairwise
          (fun first second => ¬Clash context first second) →
        (result.methods.map (·.overload)).Nodup) ∧
      ∀ bare ∈ selected context [] (properties.getD []),
        ∀ guarded ∈ selected context [] (properties.getD []),
          capitalize (propertyStem context bare) = "Class".toList →
          capitalize (propertyStem context guarded) = "Class_".toList →
          OfOneKind context bare guarded → ¬(result.methods.map (·.overload)).Nodup := by
  obtain ⟨properties, fullName, read, told⟩ := overload_generate context generated
  refine ⟨properties, read, ?_, ?_⟩
  · intro clear
    have distinct : ((selected context [] (properties.getD [])).map (nameOf context)).Nodup := by
      rw [← created_eq_selected]
      exact nodup_created context List.nodup_nil _
    rw [told]
    exact nodup_flatMap_overloads context fullName distinct clear
  · intro bare first guarded second class_ underscored kinds
    rw [told]
    exact not_nodup_flatMap_overloads context first second class_ underscored kinds fullName

/-- Names that look alike are told apart by the kinds of their types. -/
theorem generate_overloads_truth_value :
    let context : RuleContext := .ofSettings { primitives := true, wordDelimiters := "-" }
    let properties : Entries Json :=
      [("class", .object [("type", .string "boolean")]), ("class_", .object [])]
    ∃ result,
      context.generate { content := [("properties", .object properties)] } = .ok result ∧
      result.methods.map (·.name) = ["isClass", "setClass_", "getClass_", "setClass_"] ∧
      (result.methods.map (·.overload)).Nodup := by
  intro context properties
  have generated : context.generate { content := [("properties", .object properties)] } =
      .ok _ := generate_eq_ok_iff.mpr ⟨_, _, rfl, rfl, rfl⟩
  obtain ⟨read, declared, clear, _⟩ := generate_overloads generated
  obtain rfl : some properties = read := Except.ok.inj declared
  refine ⟨_, generated, by decide, clear (by decide)⟩

/-- Without the condition some methods cannot be told apart: the getters and the setters of two
properties whose names look alike. -/
theorem not_forall_nodup_overloads :
    ¬∀ (settings : Settings) (schema : Schema) (className package : Option String)
      (result : ClassModel), settings.isValid = true →
      (RuleContext.ofSettings settings).generate schema className package = .ok result →
      (result.methods.map (·.overload)).Nodup := by
  intro apart
  let properties : Entries Json := [("class", .object []), ("class_", .object [])]
  let schema : Schema := { content := [("properties", .object properties)] }
  have generated :
      RuleContext.generate (.ofSettings { wordDelimiters := "-" }) schema none none = .ok _ :=
    generate_eq_ok_iff.mpr ⟨_, _, rfl, rfl, rfl⟩
  have nodup := apart _ schema none none _ (by decide) generated
  revert nodup
  decide

end RuleContext

end SchemaBeans
