import Mathlib.Data.List.Forall2
import SchemaBeans.Proofs.Names.LookAlike
import SchemaBeans.Proofs.Properties.Created
import SchemaBeans.Proofs.Schema.Shape

/-!
# The effect of the rule for `properties`

The rule decides at each property by the class it has made so far. Its effect can be told without
that: a property is selected (`isSelected`) by the fields that were there before the rule and by the
properties before it, and the selected properties are those whose members are created
(`created_eq_selected`). The rule succeeds and appends their fields and, block by block, their
methods to the class (`apply_appends`).
-/
namespace SchemaBeans.Properties

/-- The first text that is not empty under some keys, or the empty text. -/
def firstText (node : Json) (keys : List String) : String :=
  (keys.findSome? fun key => (node.get? key).bind Json.nonemptyText?).getD ""

/-- A property is documented by the first text among its description and its title. -/
theorem docText_eq (node : Json) : docText node = firstText node ["description", "title"] := by
  unfold docText firstText
  cases described : (node.get? "description").bind Json.nonemptyText? with
  | some text => simp [described]
  | none =>
    cases titled : (node.get? "title").bind Json.nonemptyText? with
    | some text => simp [described, titled]
    | none => simp [described, titled]

/-- Documentation of a text alone, which has no part if the text is empty. -/
def textDoc (text : String) : Doc := ⟨if text = "" then [] else [text]⟩

/-- Documentation is of a text alone after the text was appended to none. -/
theorem appendNonempty_eq (text : String) : ({} : Doc).appendNonempty text = textDoc text := by
  unfold Doc.appendNonempty textDoc
  split <;> rfl

variable (context : RuleContext)

/-- The type of the field of a property. -/
def typeOf (property : String × Json) : TypeRef := PropertyType.ofNode context.settings property.2

/-- The annotations of a property with a text: its description, if metadata is recorded and the
text is not empty. -/
def notesOf (text : String) : List Annotation :=
  if context.metadata = .swagger2 ∧ text ≠ "" then
    [{ name := Metadata.apiModelProperty, params := [("value", .text text)] }]
  else []

/-- The annotations of a description are for metadata alone. -/
theorem find?_notesOf_of_ne (text : String) {name : String}
    (other : name ≠ Metadata.apiModelProperty) :
    (notesOf context text).find? (·.name == name) = none := by
  unfold notesOf
  split
  · simp [other.symm]
  · rfl

/-- Metadata of a description hold its text, unless that is empty. -/
theorem find?_metadata_notesOf (recorded : context.metadata = .swagger2) (text : String) :
    (notesOf context text).find? (·.name == Metadata.apiModelProperty) =
      if text = "" then none
      else some { name := Metadata.apiModelProperty, params := [("value", .text text)] } := by
  unfold notesOf
  by_cases empty : text = ""
  · simp [empty]
  · simp [empty, recorded]

/-- At most one annotation is for a description. -/
theorem nodup_names_notesOf (text : String) : ((notesOf context text).map (·.name)).Nodup := by
  unfold notesOf
  split
  · simp
  · exact List.nodup_nil

/-- The field of a property. -/
structure IsField (property : String × Json) (field : FieldModel) : Prop where
  /-- It has the field name of the property. -/
  name : field.name = nameOf context property
  /-- It has the type of the property. -/
  type : field.type = typeOf context property
  /-- It is private. -/
  modifiers : field.modifiers = ["private"]
  /-- It is documented by the description, or else by the title. -/
  doc : field.doc = textDoc (firstText property.2 ["description", "title"])
  /-- It has no annotation but that of its description. -/
  annotations : field.annotations =
    notesOf context (firstText property.2 ["description", "title"])

/-- A public method without annotations. -/
structure IsMethod (name text : String) (returnType : TypeRef) (params : List (String × TypeRef))
    (method : MethodModel) : Prop where
  /-- It has the given name. -/
  name : method.name = name
  /-- It is documented by the given text. -/
  doc : method.doc = textDoc text
  /-- It has no annotation. -/
  annotations : method.annotations = []
  /-- It is public. -/
  modifiers : method.modifiers = ["public"]
  /-- It returns the given type. -/
  returnType : method.returnType = returnType
  /-- It takes the given parameters. -/
  params : method.params = params

/-- The methods of a property in the class of the given full name. -/
structure IsBlock (className : String) (property : String × Json) (block : List MethodModel) :
    Prop where
  /-- The first is the getter, which returns the type of the field. -/
  getter : ∃ method, block[0]? = some method ∧
    IsMethod (context.naming.getterName property.1 (typeOf context property) (some property.2))
      (firstText property.2 ["description", "title"]) (typeOf context property) [] method
  /-- Its name starts with `is` exactly if the type is that of primitive truth values. -/
  word : "is".toList <+: (context.naming.getterName property.1 (typeOf context property)
    (some property.2)).toList ↔ (typeOf context property).isPrimitiveBoolean = true
  /-- The second is the setter, which takes the field. -/
  setter : ∃ method, block[1]? = some method ∧
    IsMethod (context.naming.setterName property.1 (some property.2))
      (firstText property.2 ["description", "title"]) .void
      [(nameOf context property, typeOf context property)] method
  /-- The third is the builder, if settings ask for it; it takes the field and returns the class. -/
  builder : context.settings.builders = true → ∃ method, block[2]? = some method ∧
    IsMethod (context.naming.builderName property.1 (some property.2)) "" ⟨className, false⟩
      [(nameOf context property, typeOf context property)] method
  /-- There are no others. -/
  length : block.length = if context.settings.builders then 3 else 2

/-- The created field is annotated with the description of the property. -/
theorem newField_eq_notesOf (property : String × Json) :
    newField context property.1 property.2 =
      { name := nameOf context property
        doc := ({} : Doc).appendNonempty (docText property.2)
        annotations := notesOf context (docText property.2)
        modifiers := ["private"]
        type := typeOf context property } := by
  unfold newField Metadata.describe notesOf
  cases context.metadata with
  | none => rfl
  | swagger2 =>
    by_cases empty : docText property.2 = ""
    · simp only [empty, if_true, ne_eq, not_true_eq_false, and_false, if_false]
      rfl
    · simp only [empty, if_false, ne_eq, not_false_eq_true, and_self, if_true]
      rfl

/-- The created field is the field of the property. -/
theorem isField_newField (property : String × Json) :
    IsField context property (newField context property.1 property.2) := by
  rw [newField_eq_notesOf]
  constructor
  case name => rfl
  case type => rfl
  case modifiers => rfl
  case doc => rw [docText_eq, appendNonempty_eq]
  case annotations => rw [docText_eq]

/-- The name of a getter starts with `is` exactly if its type is that of primitive truth values. -/
theorem is_prefix_getterName_iff (naming : Naming) (property : String) (type : TypeRef)
    (node : Option Json) :
    "is".toList <+: (naming.getterName property type node).toList ↔
      type.isPrimitiveBoolean = true := by
  cases truth : type.isPrimitiveBoolean with
  | true =>
    rw [Naming.getterName_of_isPrimitiveBoolean truth, Naming.accessorName, String.toList_append]
    simp
  | false =>
    have head := Naming.head_getterName naming property type node
    rw [truth] at head
    simp only [Bool.false_eq_true, iff_false]
    rintro ⟨rest, spelled⟩
    rw [← spelled] at head
    simp at head

/-- The created methods are the block of the property. -/
theorem isBlock_newMethods (className : String) (property : String × Json) :
    IsBlock context className property (newMethods context className property.1 property.2) := by
  have text : ({} : Doc).appendNonempty (docText property.2) =
      textDoc (firstText property.2 ["description", "title"]) := by
    rw [appendNonempty_eq, docText_eq]
  constructor
  case getter => exact ⟨_, rfl, rfl, text, rfl, rfl, rfl, rfl⟩
  case word => exact is_prefix_getterName_iff _ _ _ _
  case setter =>
    refine ⟨newSetter context property.1 property.2, rfl, ?_⟩
    exact ⟨by simp only [newSetter], text, rfl, rfl, rfl, rfl⟩
  case builder =>
    intro asked
    refine ⟨newBuilder context className property.1 property.2, ?_, rfl, rfl, rfl, rfl, rfl, rfl⟩
    simp [newMethods, asked]
  case length =>
    unfold newMethods
    split <;> rfl

/-- Whether the members of a property are to be created if some field names are taken: it does not
ask to be left out, its field name is not taken, and no property before it that does not ask to be
left out has that name. -/
def isSelected (taken : List String) (before : List (String × Json)) (property : String × Json) :
    Bool :=
  !isExcluded property.2 && !taken.contains (nameOf context property) &&
    before.all fun earlier =>
      isExcluded earlier.2 || nameOf context earlier != nameOf context property

/-- The selected properties in order. -/
def selected (taken : List String) (properties : List (String × Json)) : List (String × Json) :=
  (properties.zipIdx.filter fun placed =>
    isSelected context taken (properties.take placed.2) placed.1).map Prod.fst

/-- Names that are taken when the turn of a property comes: those that were taken before, and those
of the properties before it that do not ask to be left out. -/
def TakenAfter (taken : List String) (before : List (String × Json)) (names : List String) : Prop :=
  ∀ name, name ∈ names ↔ name ∈ taken ∨
    ∃ earlier ∈ before, isExcluded earlier.2 = false ∧ nameOf context earlier = name

variable {context}

/-- A property is selected exactly if it does not ask to be left out, and its name is not taken when
its turn comes. -/
theorem isSelected_iff {taken names : List String} {before : List (String × Json)}
    (known : TakenAfter context taken before names) (property : String × Json) :
    isSelected context taken before property = true ↔
      ¬(isExcluded property.2 = true ∨ nameOf context property ∈ names) := by
  rw [known]
  simp only [isSelected, Bool.and_eq_true, Bool.not_eq_true', List.all_eq_true, Bool.or_eq_true,
    bne_iff_ne, not_or, Bool.not_eq_true, not_exists, not_and, List.contains_eq_mem,
    decide_eq_false_iff_not, and_assoc]
  refine and_congr_right fun _ => and_congr_right fun _ => forall₂_congr fun earlier _ => ?_
  cases isExcluded earlier.2 <;> simp

/-- After a property that is created its name is taken too. -/
theorem TakenAfter.create {taken names : List String} {before : List (String × Json)}
    (known : TakenAfter context taken before names) {property : String × Json}
    (kept : isExcluded property.2 = false) :
    TakenAfter context taken (before ++ [property]) (names ++ [nameOf context property]) := by
  intro name
  simp only [List.mem_append, List.mem_singleton, known name, or_and_right, exists_or,
    exists_eq_left, kept, true_and, or_assoc, @eq_comm _ name]

/-- After a property that is left out the same names are taken. -/
theorem TakenAfter.skip {taken names : List String} {before : List (String × Json)}
    (known : TakenAfter context taken before names) {property : String × Json}
    (left : isExcluded property.2 = true ∨ nameOf context property ∈ names) :
    TakenAfter context taken (before ++ [property]) names := by
  intro name
  have nothing : isExcluded property.2 = false ∧ nameOf context property = name → name ∈ names := by
    rintro ⟨kept, rfl⟩
    exact left.resolve_left (by simp [kept])
  simp only [List.mem_append, List.mem_singleton, or_and_right, exists_or, exists_eq_left,
    ← or_assoc, ← known name]
  exact ⟨.inl, fun either => either.elim id nothing⟩

variable (context)

/-- The members of exactly the selected properties are created. -/
theorem created_eq_selected (taken : List String) (properties : List (String × Json)) :
    created context taken properties = selected context taken properties := by
  -- The induction is over the properties still to come, with those before them as a prefix.
  have later (names : List String) (before rest : List (String × Json))
      (known : TakenAfter context taken before names) :
      created context names rest =
        ((rest.zipIdx before.length).filter fun placed =>
          isSelected context taken ((before ++ rest).take placed.2) placed.1).map Prod.fst := by
    induction rest generalizing names before with
    | nil => rfl
    | cons property rest ih =>
      have decided := isSelected_iff known property
      have place : (before ++ property :: rest).take before.length = before := by simp
      rw [List.zipIdx_cons, List.filter_cons, created]
      simp only [place]
      by_cases left : isExcluded property.2 = true ∨ nameOf context property ∈ names
      · have unselected : ¬isSelected context taken before property = true :=
          fun chosen => decided.mp chosen left
        rw [if_pos left, if_neg unselected, ih names (before ++ [property]) (known.skip left)]
        simp
      · have kept : isExcluded property.2 = false := by simpa using (not_or.mp left).1
        rw [if_neg left, if_pos (decided.mpr left),
          ih _ (before ++ [property]) (known.create kept)]
        simp
  exact later taken [] properties fun name => by simp

/-- A class after the rule: members of properties stand after its own, and nothing else changed. -/
structure Appended (properties : List (String × Json)) (before after : ClassModel) : Prop where
  /-- The name stays. -/
  name : after.name = before.name
  /-- The package stays. -/
  package : after.package = before.package
  /-- The documentation stays. -/
  doc : after.doc = before.doc
  /-- After the fields come those of the properties. -/
  fields : ∃ added, after.fields = before.fields ++ added ∧
    List.Forall₂ (IsField context) properties added
  /-- After the methods come those of the properties, block by block. -/
  methods : ∃ blocks : List (List MethodModel), after.methods = before.methods ++ blocks.flatten ∧
    List.Forall₂ (IsBlock context before.fullName) properties blocks
  /-- Distinct names of fields stay distinct. -/
  distinct : (fieldNames before).Nodup → (fieldNames after).Nodup

/-- Created members stand after those of the class. -/
theorem appended_withMembers (target : ClassModel) (properties : List (String × Json)) :
    Appended context (created context (fieldNames target) properties) target
      (withMembers context target (created context (fieldNames target) properties)) where
  name := rfl
  package := rfl
  doc := rfl
  fields := ⟨_, rfl, List.forall₂_map_right_iff.mpr
    (List.forall₂_same.mpr fun property _ => isField_newField context property)⟩
  methods := ⟨_, rfl, List.forall₂_map_right_iff.mpr
    (List.forall₂_same.mpr fun property _ => isBlock_newMethods context target.fullName property)⟩
  distinct unique := by
    rw [fieldNames_withMembers]
    exact nodup_created context unique properties

/-- The rule succeeds where `properties` is absent, null or an object, and appends the members of
the selected properties to the class. -/
theorem apply_appends {schema : Schema} (shaped : schema.ShapedProperties) (target : ClassModel) :
    ∃ result, apply context schema target = .done result ∧
      Appended context (selected context (fieldNames target) (schema.declared.getD [])) target
        result := by
  have declared := Schema.properties?_eq_ok_iff.mpr ⟨shaped, rfl⟩
  refine ⟨_, apply_of_properties context declared target, ?_⟩
  rw [← created_eq_selected]
  exact appended_withMembers context target _

/-- The effect on a class that has the field of the first property: the second asks to be left out,
the fourth has the field name of the third, and the last is no object. -/
theorem apply_appends_selected :
    let context : RuleContext :=
      .ofSettings { swagger2 := true, primitives := true, builders := true }
    let properties : Entries Json := [
      ("first-name", .object []),
      ("internal", .object [("excludedFromGeneration", .bool true)]),
      ("is-open", .object [("type", .string "boolean"), ("title", .string "Open?")]),
      ("is_open", .object []),
      ("class", .int 3)]
    let schema : Schema := { content := [("properties", .object properties)] }
    let target : ClassModel :=
      { name := "Shop"
        package := "com.example"
        fields := [{ name := "firstName" }]
        methods := [{ name := "getIsOpen" }] }
    (selected context (fieldNames target) properties).map Prod.fst = ["is-open", "class"] ∧
      ∃ result, apply context schema target = .done result ∧
        Appended context (selected context (fieldNames target) (schema.declared.getD [])) target
          result :=
  ⟨by decide, apply_appends _ (by simp [Schema.ShapedProperties, Schema.get?, Entries.get?]) _⟩

end SchemaBeans.Properties
