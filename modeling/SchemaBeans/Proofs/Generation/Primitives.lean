import SchemaBeans.Proofs.Generation.Options
import SchemaBeans.Proofs.Generation.Overloads
import SchemaBeans.Proofs.Names.Form
import SchemaBeans.Proofs.Types.Nesting

/-!
# Primitive types

Settings ask for primitive types or for the classes that stand for them. The choice shows in the
types of a class and in the getters of truth values, which start with another word. The rule for
`required` finds a getter by its name, and it computes the name from the type of the field that an
entry leads to. If fields and setters have distinct names, that is the field of the getter
(`ToldApart.eq_of_form`), so the getter is found under either name. All else of a class does not
depend on the choice (`generate_primitives`).
-/
namespace SchemaBeans

open Properties Required Naming

/-- A field with the class for its type. -/
def FieldModel.boxed (field : FieldModel) : FieldModel := { field with type := field.type.boxed }

/-- A method and what becomes of it without primitive types. -/
structure MethodModel.BoxedAs (primitive boxed : MethodModel) : Prop where
  /-- The getter of a primitive truth value has the other word before its form, and avoids the
  method of all objects. -/
  truth : primitive.returnType.isPrimitiveBoolean = true →
    ∃ form, primitive.name = "is" ++ form ∧
      boxed.name = if form = "Class" then "getClass_" else "get" ++ form
  /-- Other methods keep their names. -/
  other : primitive.returnType.isPrimitiveBoolean = false → boxed.name = primitive.name
  /-- The documentation is the same. -/
  doc : boxed.doc = primitive.doc
  /-- The annotations are the same. -/
  annotations : boxed.annotations = primitive.annotations
  /-- The modifiers are the same. -/
  modifiers : boxed.modifiers = primitive.modifiers
  /-- The class for the type is returned. -/
  returnType : boxed.returnType = primitive.returnType.boxed
  /-- The classes for the types are taken. -/
  params : boxed.params = primitive.params.map fun param => (param.1, param.2.boxed)

/-- A method is the getter of a field: it returns the type of the field, and a property has the
field and names the method after this type. -/
def IsGetterOf (context : RuleContext) (properties : Entries Json) (field : FieldModel)
    (method : MethodModel) : Prop :=
  method.returnType = field.type ∧ ∃ property ∈ properties,
    field.name = nameOf context property ∧
      method.name = context.naming.getterName property.1 field.type (some property.2)

/-- A class of some properties and what becomes of it without primitive types. -/
structure ClassModel.BoxedAs (primitive : ClassModel) (context : RuleContext)
    (properties : Entries Json) (boxed : ClassModel) : Prop where
  /-- The name is the same. -/
  name : boxed.name = primitive.name
  /-- The package is the same. -/
  package : boxed.package = primitive.package
  /-- The documentation is the same. -/
  doc : boxed.doc = primitive.doc
  /-- The fields are the same but for their types, which are boxed. -/
  fields : boxed.fields = primitive.fields.map (·.boxed)
  /-- The methods correspond one to one. -/
  methods : List.Forall₂ MethodModel.BoxedAs primitive.methods boxed.methods
  /-- The methods that return primitive truth values are the getters of the fields that hold them,
  in order. -/
  truths : List.Forall₂ (IsGetterOf context properties)
    (primitive.fields.filter (·.type.isPrimitiveBoolean))
    (primitive.methods.filter (·.returnType.isPrimitiveBoolean))

/-- Whether a name starts as those of setters do. -/
def isSetter (name : String) : Bool := "set".toList.isPrefixOf name.toList

/-- Items of one list have related images one after the other if each item has. -/
theorem forall₂_flatMap {α β γ : Type} {Related : β → γ → Prop} {first : α → List β}
    {second : α → List γ} {items : List α}
    (each : ∀ item ∈ items, List.Forall₂ Related (first item) (second item)) :
    List.Forall₂ Related (items.flatMap first) (items.flatMap second) := by
  have same : List.Forall₂ (fun item other => item = other ∧ item ∈ items) items items :=
    List.forall₂_same.mpr fun item member => ⟨rfl, member⟩
  refine List.rel_flatMap same ?_
  rintro item _ ⟨rfl, member⟩
  exact each item member

/-- The class for a type is never that of primitive truth values. -/
theorem TypeRef.isPrimitiveBoolean_boxed (type : TypeRef) :
    type.boxed.isPrimitiveBoolean = false := by
  unfold boxed
  cases primitive : type.primitive with
  | false => simp [isPrimitiveBoolean, primitive]
  | true =>
    rw [if_pos rfl]
    split
    case h_5 _ _ _ other => simpa [isPrimitiveBoolean, primitive] using other
    all_goals rfl

namespace Naming

/-- The name of a setter is that of a setter. -/
theorem isSetter_setterName (naming : Naming) (property : String) (node : Option Json) :
    isSetter (naming.setterName property node) = true := by
  unfold isSetter setterName accessorName
  simp only []
  split
  · decide
  · rw [List.isPrefixOf_iff_prefix, String.toList_append]
    exact List.prefix_append _ _

/-- The name of a getter is not that of a setter. -/
theorem isSetter_getterName (naming : Naming) (property : String) (type : TypeRef)
    (node : Option Json) : isSetter (naming.getterName property type node) = false :=
  isPrefixOf_of_head (head_getterName naming property type node) (by split <;> decide)

/-- The name of a builder is not that of a setter. -/
theorem isSetter_builderName (naming : Naming) (property : String) (node : Option Json) :
    isSetter (naming.builderName property node) = false := by
  have head : (naming.builderName property node).toList.head? = some 'w' := by
    simp [builderName, accessorName]
  exact isPrefixOf_of_head head (by decide)

end Naming

namespace RuleContext

/-- What rules share where primitive types are used, or are not. -/
def withPrimitives (used : Bool) (context : RuleContext) : RuleContext :=
  { context with settings := { context.settings with primitives := used } }

/-- Without primitive types the type of a property is the class for its type. -/
theorem typeOf_withPrimitives (context : RuleContext) (property : String × Json) :
    typeOf (context.withPrimitives false) property =
      (typeOf (context.withPrimitives true) property).boxed :=
  (PropertyType.boxed_ofNode (context.withPrimitives true).settings property.2).symm

/-- Properties whose members are told apart by their names: by those of the fields and by those of
the setters. -/
structure ToldApart (context : RuleContext) (made : List (String × Json)) : Prop where
  /-- Fields have distinct names. -/
  fields : (made.map (nameOf context)).Nodup
  /-- Setters have distinct names. -/
  setters : (made.map fun property =>
    context.naming.setterName property.1 (some property.2)).Nodup
  /-- No property has the form that the getter of `Class` is renamed to. -/
  forms : ∀ property node, capitalize (context.naming.stem property node) ≠ "Class_".toList

namespace ToldApart

variable {context : RuleContext} {made : List (String × Json)}

/-- Names do not depend on types. -/
theorem withPrimitives (apart : context.ToldApart made) (used : Bool) :
    (context.withPrimitives used).ToldApart made :=
  ⟨apart.fields, apart.setters, apart.forms⟩

/-- Only the property whose field an entry leads to can have the form of the entry. -/
theorem eq_of_form (apart : context.ToldApart made) {properties : Option (Entries Json)}
    {entry : String} {owner property : String × Json} (known : owner ∈ made)
    (member : property ∈ made)
    (led : nameOf context owner = Required.fieldName context properties entry)
    (form : capitalize (propertyStem context property) =
      capitalize (entryStem context properties entry)) : property = owner := by
  rcases fieldName_eq_or_secondIsCapital form with named | capital
  · exact List.inj_on_of_nodup_map apart.fields member known (named.trans led.symm)
  · have formOwner := capitalize_eq_of_fieldName_eq led capital
    exact List.inj_on_of_nodup_map apart.setters member known
      (setterName_congr (form.trans formOwner.symm))

/-- An entry leads to the getter of a property exactly if it leads to its field and has its
form. -/
theorem leadsToMethod_newGetter_iff (apart : context.ToldApart made)
    (properties : Option (Entries Json)) {target : ClassModel}
    (fields : target.fields = made.map fun property => newField context property.1 property.2)
    {property : String × Json} (member : property ∈ made) (entry : String) :
    LeadsToMethod context properties target entry (newGetter context property.1 property.2).name ↔
      nameOf context property = Required.fieldName context properties entry ∧
        capitalize (propertyStem context property) =
          capitalize (entryStem context properties entry) := by
  unfold LeadsToMethod
  simp only [newGetter, fields]
  constructor
  · rintro ⟨field, known, named, getter | setter⟩
    · obtain ⟨owner, made, rfl⟩ := List.mem_map.mp known
      rw [name_newField] at named
      have form := ((getterName_eq_iff_of_form (apart.forms _ _) (apart.forms _ _)).mp getter).1
      obtain rfl := apart.eq_of_form made member named form
      exact ⟨named, form⟩
    · exact absurd setter.symm (setterName_ne_getterName _ _ _ _ _ _)
  · rintro ⟨named, form⟩
    refine ⟨_, List.mem_map_of_mem member, (name_newField context property).trans named, .inl ?_⟩
    rw [type_newField]
    exact getterName_congr form rfl

end ToldApart

/-- An entry leads to the setter of a property exactly if it leads to a field and has a setter of
that name. -/
theorem leadsToMethod_newSetter_iff (context : RuleContext) (properties : Option (Entries Json))
    (target : ClassModel) (property : String × Json) (entry : String) :
    LeadsToMethod context properties target entry (newSetter context property.1 property.2).name ↔
      LeadsToField context properties target entry ∧
        context.naming.setterName property.1 (some property.2) =
          context.naming.setterName entry (propertyNode properties entry) := by
  simp only [newSetter]
  constructor
  · intro led
    refine ⟨leadsToField_of_leadsToMethod context properties led, ?_⟩
    obtain ⟨field, _, _, getter | setter⟩ := led
    · exact absurd getter (setterName_ne_getterName _ _ _ _ _ _)
    · exact setter
  · rintro ⟨toField, setter⟩
    obtain ⟨field, known, named⟩ := List.mem_map.mp toField
    exact ⟨field, known, named, .inr setter⟩

/-- The names of two methods are both collected or neither is, if each entry leads to both methods
or to neither. -/
theorem contains_accessorNames_congr {first second : RuleContext}
    {properties : Option (Entries Json)} {target targetOther : ClassModel}
    (distinct : (fieldNames target).Nodup) (distinctOther : (fieldNames targetOther).Nodup)
    {method methodOther : String}
    (each : ∀ entry, LeadsToMethod first properties target entry method ↔
      LeadsToMethod second properties targetOther entry methodOther) (entries : List String) :
    (entries.flatMap (accessorNames first properties target)).contains method =
      (entries.flatMap (accessorNames second properties targetOther)).contains methodOther := by
  rw [Bool.eq_iff_iff, contains_accessorNames first properties distinct,
    contains_accessorNames second properties distinctOther]
  exact exists_congr fun entry => and_congr_right fun _ => each entry

/-- The field of a property without primitive types, however often it is marked. -/
theorem markTimes_newField_withPrimitives (context : RuleContext) (property : String × Json)
    (count : Nat) :
    markTimes (context.withPrimitives false) count
        (newField (context.withPrimitives false) property.1 property.2) =
      (markTimes (context.withPrimitives true) count
        (newField (context.withPrimitives true) property.1 property.2)).boxed := by
  rw [newField_eq_notesOf, newField_eq_notesOf, typeOf_withPrimitives]
  rfl

/-- The getter of a property without primitive types. -/
theorem boxedAs_newGetter (context : RuleContext) (property : String × Json) :
    (newGetter (context.withPrimitives true) property.1 property.2).BoxedAs
      (newGetter (context.withPrimitives false) property.1 property.2) := by
  have type := typeOf_withPrimitives context property
  have kind : (typeOf (context.withPrimitives false) property).isPrimitiveBoolean = false := by
    rw [type, TypeRef.isPrimitiveBoolean_boxed]
  constructor
  case truth =>
    intro truth
    exact ⟨_, getterName_of_isPrimitiveBoolean truth, getterName_of_not_isPrimitiveBoolean kind⟩
  case other =>
    intro other
    exact getterName_congr rfl (kind.trans other.symm)
  case returnType => exact type
  all_goals rfl

/-- The parameter of a setter without primitive types. -/
theorem newParam_withPrimitives (context : RuleContext) (property : String × Json) :
    newParam (context.withPrimitives false) property.1 property.2 =
      ((newParam (context.withPrimitives true) property.1 property.2).1,
        (newParam (context.withPrimitives true) property.1 property.2).2.boxed) :=
  Prod.ext rfl (typeOf_withPrimitives context property)

/-- A method changes in its parameters alone if the type that it returns stands for itself. -/
theorem boxedAs_of_params {primitive boxed : MethodModel}
    (other : primitive.returnType.isPrimitiveBoolean = false)
    (settled : primitive.returnType.boxed = primitive.returnType)
    (same : boxed = { primitive with
      params := primitive.params.map fun param => (param.1, param.2.boxed) }) :
    primitive.BoxedAs boxed := by
  subst same
  constructor
  case truth =>
    intro truth
    rw [other] at truth
    cases truth
  case returnType => exact settled.symm
  all_goals simp

/-- The setter of a property without primitive types. -/
theorem boxedAs_newSetter (context : RuleContext) (property : String × Json) :
    (newSetter (context.withPrimitives true) property.1 property.2).BoxedAs
      (newSetter (context.withPrimitives false) property.1 property.2) := by
  refine boxedAs_of_params rfl rfl ?_
  rw [newSetter, newParam_withPrimitives]
  rfl

/-- The builder of a property without primitive types. -/
theorem boxedAs_newBuilder (context : RuleContext) (className : String)
    (property : String × Json) :
    (newBuilder (context.withPrimitives true) className property.1 property.2).BoxedAs
      (newBuilder (context.withPrimitives false) className property.1 property.2) := by
  refine boxedAs_of_params rfl rfl ?_
  rw [newBuilder, newParam_withPrimitives]
  rfl

/-- Marking keeps the type that a method returns. -/
theorem returnType_markMethod (names : List String) (method : MethodModel) :
    (markMethod names method).returnType = method.returnType := by
  unfold markMethod
  split <;> rfl

/-- Methods stay related if both are marked or neither is. -/
theorem boxedAs_markMethod {primitive boxed : MethodModel} (related : primitive.BoxedAs boxed)
    {names namesBoxed : List String}
    (listed : names.contains primitive.name = namesBoxed.contains boxed.name) :
    (markMethod names primitive).BoxedAs (markMethod namesBoxed boxed) := by
  unfold markMethod
  rw [listed]
  split
  · exact { related with doc := congrArg (·.append marker) related.doc }
  · exact related

section Marked

variable (context : RuleContext) (start : ClassModel) (declared : Entries Json)
  (properties : Option (Entries Json)) (entries : List String)

/-- The class of declared properties, with or without primitive types, before it is marked. -/
def madeWith (used : Bool) : ClassModel := (context.withPrimitives used).unmarked start declared

/-- The names of the accessors in it that entries lead to. -/
def namesWith (used : Bool) : List String :=
  entries.flatMap (accessorNames (context.withPrimitives used) properties
    (context.madeWith start declared used))

/-- The same properties are created, with or without primitive types. -/
theorem created_withPrimitives (used : Bool) :
    created (context.withPrimitives used) [] declared = created context [] declared := by
  have naming : (context.withPrimitives used).naming = context.naming := rfl
  exact created_congr naming [] declared

variable {start}

/-- Fields are made of the same properties, with or without primitive types. -/
theorem fields_madeWith (bare : start.fields = []) (used : Bool) :
    (context.madeWith start declared used).fields =
      (created context [] declared).map fun property =>
        newField (context.withPrimitives used) property.1 property.2 := by
  rw [madeWith, fields_unmarked _ bare, created_withPrimitives]

/-- Fields have the same names, with or without primitive types. -/
theorem fieldNames_madeWith (bare : start.fields = []) (used : Bool) :
    fieldNames (context.madeWith start declared used) =
      (created context [] declared).map (nameOf context) := by
  rw [madeWith, fieldNames_unmarked _ bare, created_withPrimitives]
  rfl

/-- Entries lead to the getter of a property with primitive types exactly if they do without
them. -/
theorem contains_newGetter (bare : start.fields = [])
    (apart : context.ToldApart (created context [] declared)) {property : String × Json}
    (member : property ∈ created context [] declared) :
    (context.namesWith start declared properties entries true).contains
        (newGetter (context.withPrimitives true) property.1 property.2).name =
      (context.namesWith start declared properties entries false).contains
        (newGetter (context.withPrimitives false) property.1 property.2).name := by
  refine contains_accessorNames_congr (nodup_fieldNames_unmarked _ bare declared)
    (nodup_fieldNames_unmarked _ bare declared) (fun entry => ?_) entries
  have led (used : Bool) := (apart.withPrimitives used).leadsToMethod_newGetter_iff properties
    (context.fields_madeWith declared bare used) member entry
  exact (led true).trans (led false).symm

/-- Entries lead to the setter of a property with primitive types exactly if they do without
them. -/
theorem contains_newSetter (bare : start.fields = []) (property : String × Json) :
    (context.namesWith start declared properties entries true).contains
        (newSetter (context.withPrimitives true) property.1 property.2).name =
      (context.namesWith start declared properties entries false).contains
        (newSetter (context.withPrimitives false) property.1 property.2).name := by
  refine contains_accessorNames_congr (nodup_fieldNames_unmarked _ bare declared)
    (nodup_fieldNames_unmarked _ bare declared) (fun entry => ?_) entries
  have toField : LeadsToField (context.withPrimitives true) properties
      (context.madeWith start declared true) entry ↔
        LeadsToField (context.withPrimitives false) properties
          (context.madeWith start declared false) entry := by
    unfold LeadsToField
    rw [context.fieldNames_madeWith declared bare, context.fieldNames_madeWith declared bare]
    rfl
  have led (used : Bool) := leadsToMethod_newSetter_iff (context.withPrimitives used) properties
    (context.madeWith start declared used) property entry
  exact ((led true).trans (and_congr_left' toField)).trans (led false).symm

/-- The methods of a property correspond after they were marked. -/
theorem boxedAs_markedMethods (bare : start.fields = [])
    (apart : context.ToldApart (created context [] declared)) {property : String × Json}
    (member : property ∈ created context [] declared) (className : String) :
    List.Forall₂ MethodModel.BoxedAs
      ((newMethods (context.withPrimitives true) className property.1 property.2).map
        (markMethod (context.namesWith start declared properties entries true)))
      ((newMethods (context.withPrimitives false) className property.1 property.2).map
        (markMethod (context.namesWith start declared properties entries false))) := by
  have getter := boxedAs_markMethod (boxedAs_newGetter context property)
    (context.contains_newGetter declared properties entries bare apart member)
  have setter := boxedAs_markMethod (boxedAs_newSetter context property)
    (context.contains_newSetter declared properties entries bare property)
  have unlisted (used : Bool) : (context.namesWith start declared properties entries used).contains
      (newBuilder (context.withPrimitives used) className property.1 property.2).name = false :=
    contains_of_isBuilder (isBuilder_newBuilder _ _ _ _) entries
  have builder := boxedAs_markMethod (boxedAs_newBuilder context className property)
    ((unlisted true).trans (unlisted false).symm)
  have builders : (context.withPrimitives true).settings.builders =
      (context.withPrimitives false).settings.builders := rfl
  unfold newMethods
  rw [builders]
  split
  · exact .cons getter (.cons setter (.cons builder .nil))
  · exact .cons getter (.cons setter .nil)

omit properties entries in
/-- Of the methods of a property, the getter returns a primitive truth value if the field holds one,
and no other does. -/
theorem filter_isPrimitiveBoolean_newMethods (className : String) (property : String × Json)
    (names : List String) :
    ((newMethods context className property.1 property.2).map (markMethod names)).filter
        (·.returnType.isPrimitiveBoolean) =
      if (typeOf context property).isPrimitiveBoolean then
        [markMethod names (newGetter context property.1 property.2)] else [] := by
  have getter : (newGetter context property.1 property.2).returnType = typeOf context property :=
    rfl
  have setter :
      (newSetter context property.1 property.2).returnType.isPrimitiveBoolean = false := rfl
  have builder : (newBuilder context className property.1
      property.2).returnType.isPrimitiveBoolean = false := rfl
  cases truth : (typeOf context property).isPrimitiveBoolean with
  | true =>
    unfold newMethods
    split <;> simp [returnType_markMethod, getter, setter, builder, truth]
  | false =>
    unfold newMethods
    split <;> simp [returnType_markMethod, getter, setter, builder, truth]

/-- Among the methods that return primitive truth values a property has the getter of its field, if
the field holds one, and nothing else. -/
theorem isGetterOf_truths {property : String × Json} (member : property ∈ declared)
    (className : String) (count : Nat) (names : List String) :
    List.Forall₂ (IsGetterOf context declared)
      ([markTimes context count (newField context property.1 property.2)].filter
        (·.type.isPrimitiveBoolean))
      (((newMethods context className property.1 property.2).map (markMethod names)).filter
        (·.returnType.isPrimitiveBoolean)) := by
  have type : (markTimes context count (newField context property.1 property.2)).type =
      typeOf context property := type_newField context property
  have getterOf : IsGetterOf context declared
      (markTimes context count (newField context property.1 property.2))
      (markMethod names (newGetter context property.1 property.2)) := by
    refine ⟨?_, property, member, name_newField context property, ?_⟩
    · rw [returnType_markMethod, type]
      rfl
    · rw [name_markMethod, type]
      rfl
  rw [filter_isPrimitiveBoolean_newMethods, List.filter_singleton, type, Bool.cond_eq_ite]
  split
  · exact .cons getterOf .nil
  · exact .nil

/-- Classes that differ in primitive types correspond after entries have marked them. -/
theorem boxedAs_markEntries (bare : start.fields = []) (empty : start.methods = [])
    (apart : context.ToldApart (created context [] declared)) :
    (markEntries (context.withPrimitives true) properties entries
        (context.madeWith start declared true)).BoxedAs context declared
      (markEntries (context.withPrimitives false) properties entries
        (context.madeWith start declared false)) := by
  have distinct (used : Bool) : (fieldNames (context.madeWith start declared used)).Nodup :=
    nodup_fieldNames_unmarked _ bare declared
  have methods (used : Bool) : (context.madeWith start declared used).methods =
      (created context [] declared).flatMap fun property =>
        newMethods (context.withPrimitives used) start.fullName property.1 property.2 := by
    rw [madeWith, methods_unmarked _ bare empty, created_withPrimitives]
  rw [markEntries_eq _ properties (distinct true), markEntries_eq _ properties (distinct false)]
  constructor
  case name => rfl
  case package => rfl
  case doc => rfl
  case fields =>
    simp only [context.fields_madeWith declared bare, List.map_map]
    refine List.map_congr_left fun property _ => ?_
    simp only [Function.comp_apply, name_newField]
    exact context.markTimes_newField_withPrimitives property _
  case methods =>
    simp only [methods, List.map_flatMap]
    exact forall₂_flatMap fun property member =>
      context.boxedAs_markedMethods declared properties entries bare apart member start.fullName
  case truths =>
    rw [methods, context.fields_madeWith declared bare, List.map_map, List.map_eq_flatMap,
      List.map_flatMap, List.filter_flatMap, List.filter_flatMap]
    refine forall₂_flatMap fun property member => ?_
    have known := (created_sublist context [] declared).subset member
    exact isGetterOf_truths (context.withPrimitives true) declared known start.fullName _ _

end Marked

/-- The setter is the only method of a property with the name of a setter. -/
theorem filter_isSetter_newMethods (context : RuleContext) (className : String)
    (property : String × Json) :
    ((newMethods context className property.1 property.2).map (·.name)).filter isSetter =
      [context.naming.setterName property.1 (some property.2)] := by
  have getter : isSetter (newGetter context property.1 property.2).name = false := by
    rw [newGetter, isSetter_getterName]
  have setter : (newSetter context property.1 property.2).name =
      context.naming.setterName property.1 (some property.2) := by rw [newSetter]
  have builder : isSetter (newBuilder context className property.1 property.2).name = false := by
    rw [newBuilder, isSetter_builderName]
  unfold newMethods
  split <;> simp [getter, setter, builder, isSetter_setterName]

/-- The setters of a class have the names of the setters of the created properties. -/
theorem filter_isSetter_markEntries (context : RuleContext) {start : ClassModel}
    (bare : start.fields = []) (empty : start.methods = []) (declared : Entries Json)
    (properties : Option (Entries Json)) (entries : List String) :
    ((markEntries context properties entries (context.unmarked start declared)).methods.map
        (·.name)).filter isSetter =
      (created context [] declared).map fun property =>
        context.naming.setterName property.1 (some property.2) := by
  have distinct := nodup_fieldNames_unmarked context bare declared
  have kept (names : List String) (methods : List MethodModel) :
      methods.map ((·.name) ∘ markMethod names) = methods.map (·.name) :=
    List.map_congr_left fun method _ => name_markMethod names method
  rw [markEntries_eq context properties distinct, List.map_map, kept,
    methods_unmarked context bare empty, List.map_flatMap, List.filter_flatMap,
    List.map_eq_flatMap]
  exact List.flatMap_congr fun property _ => filter_isSetter_newMethods context _ property

/-- With the default delimiters, properties are told apart by the names of their fields and setters
if the setters of their class are. -/
theorem toldApart_created {context : RuleContext}
    (delimiters : context.naming.delimiters = ({} : Settings).wordDelimiters)
    (declared : Entries Json)
    (setters : ((created context [] declared).map fun property =>
      context.naming.setterName property.1 (some property.2)).Nodup) :
    context.ToldApart (created context [] declared) where
  fields := nodup_created context List.nodup_nil declared
  setters := setters
  forms property node := by
    refine capitalize_stem_ne ?_ ?_ property node
    · rw [separates, delimiters]
      decide
    · rw [separates, delimiters]
      decide

/-- Primitive types change the types of a class and the names of the getters of truth values, and
nothing else, if the delimiters are the default ones and the setters have distinct names. Whether
there is a class does not depend on them. -/
theorem generate_primitives (context : RuleContext)
    (delimiters : context.naming.delimiters = ({} : Settings).wordDelimiters) (schema : Schema)
    (className package : Option String) :
    (∃ failure,
      (context.withPrimitives true).generate schema className package = .error failure ∧
      (context.withPrimitives false).generate schema className package = .error failure) ∨
    ∃ primitive boxed,
      (context.withPrimitives true).generate schema className package = .ok primitive ∧
      (context.withPrimitives false).generate schema className package = .ok boxed ∧
      (((boxed.methods.map (·.name)).filter isSetter).Nodup →
        primitive.BoxedAs context (schema.declared.getD []) boxed) := by
  let start := context.emptyClass schema className package
  have starts (used : Bool) :
      (context.withPrimitives used).emptyClass schema className package = start := rfl
  rw [generate, generate, applyAll_standard, applyAll_standard, starts, starts]
  cases read : schema.properties? with
  | error malformed => exact .inl ⟨_, rfl, rfl⟩
  | ok properties =>
    cases schema.requiredEntries with
    | error malformed => exact .inl ⟨_, rfl, rfl⟩
    | ok entries =>
      refine .inr ⟨_, _, rfl, rfl, fun setters => ?_⟩
      rw [filter_isSetter_markEntries _ rfl rfl, created_withPrimitives] at setters
      rw [← (Schema.properties?_eq_ok_iff.mp read).2]
      exact context.boxedAs_markEntries (properties.getD []) properties entries rfl rfl
        (toldApart_created delimiters _ setters)

/-- The getters of two truth values have the other word, the first of them without the underscore
that keeps it from the method of all objects; an entry by another spelling marks the second in
either class. -/
theorem generate_primitives_truth_values :
    let context : RuleContext :=
      .ofSettings { notNullAnnotations := true, swagger2 := true, builders := true }
    let truth : Json := .object [("type", .string "boolean")]
    let properties : Entries Json := [("class", truth),
      ("is-open", .object [("type", .array [.string "null", .string "boolean"])]),
      ("marks", .object [("type", .string "array"), ("items", truth)])]
    let schema : Schema :=
      { content := [("title", .string "Shop"), ("properties", .object properties),
          ("required", .array [.string "isOpen", .string "absent", .string "marks"])] }
    ∃ primitive boxed,
      (context.withPrimitives true).generate schema = .ok primitive ∧
      (context.withPrimitives false).generate schema = .ok boxed ∧
      ((boxed.methods.map (·.name)).filter isSetter).Nodup ∧
      primitive.BoxedAs context properties boxed ∧
      primitive.methods.map (fun method => (method.name, method.doc.text)) =
        [("isClass", ""), ("setClass_", ""), ("withClass", ""),
          ("isIsOpen", marker), ("setIsOpen", marker), ("withIsOpen", ""),
          ("getMarks", marker), ("setMarks", marker), ("withMarks", "")] := by
  intro context truth properties schema
  let entries := ["isOpen", "absent", "marks"]
  have made (used : Bool) : (context.withPrimitives used).generate schema none none = .ok _ :=
    generate_eq_ok_iff.mpr ⟨some properties, entries, rfl, rfl, rfl⟩
  obtain ⟨failure, failed, _⟩ | ⟨primitive, boxed, generated, generatedBoxed, related⟩ :=
    context.generate_primitives rfl schema none none
  · exact nomatch (made true).symm.trans failed
  · obtain rfl := Except.ok.inj ((made true).symm.trans generated)
    obtain rfl := Except.ok.inj ((made false).symm.trans generatedBoxed)
    exact ⟨_, _, generated, generatedBoxed, by decide, related (by decide), by decide⟩

end RuleContext

end SchemaBeans
