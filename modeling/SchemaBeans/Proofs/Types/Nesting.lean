import SchemaBeans.Rule.Properties

/-!
# Types of nested arrays

The schema of a property describes so many arrays around an element (`Nested`), or around nothing.
Its type is a list for each array around the class of the element, and what settings say about
primitive types does not show in it (`ofNode_nested`). Without arrays it is the type of the element
itself. That a list only ever holds classes is because boxing the type of a schema gives its type
without primitive types (`boxed_ofNode`).
-/
namespace SchemaBeans

/-- Settings without primitive types. -/
def Settings.boxing (settings : Settings) : Settings := { settings with primitives := false }

namespace TypeRef

/-- A class stands for itself. -/
theorem boxed_of_not_primitive {type : TypeRef} (other : type.primitive = false) :
    type.boxed = type := if_neg (Bool.eq_false_iff.mp other)

/-- A list is a class. -/
theorem boxed_listOf (item : TypeRef) : item.listOf.boxed = item.listOf :=
  boxed_of_not_primitive rfl

/-- What stands for a type stands for itself. -/
theorem boxed_boxed (type : TypeRef) : type.boxed.boxed = type.boxed := by
  have settled : type.boxed = type ∨ type.boxed.primitive = false := by
    unfold boxed
    split
    · split <;> simp [integer, longInteger, number, truth]
    · exact .inl rfl
  rcases settled with same | other
  · rw [same, same]
  · exact boxed_of_not_primitive other

-- Two facts about any texts: a text that is spelled out would be taken apart letter by letter.
/-- A text between two others is spelled between them. -/
theorem toList_around (opening text closing : String) :
    (opening ++ text ++ closing).toList =
      opening.toList ++ (text.toList ++ closing.toList) := by
  rw [String.toList_append, String.toList_append, List.append_assoc]

/-- What stands before a text between two others stands before all of them. -/
theorem append_around {whole before opening : String} (split : whole = before ++ opening)
    (text closing : String) :
    whole ++ text ++ closing = before ++ (opening ++ text ++ closing) := by
  rw [split, String.append_assoc, String.append_assoc, String.append_assoc]

/-- The simple name of a list names its items. -/
theorem simpleName_listOf (item : TypeRef) :
    item.listOf.simpleName = "List<" ++ item.simpleName ++ ">" := by
  have name : item.listOf.name.toList =
      "java.util.List".toList ++ '<' :: (item.simpleName.toList ++ ['>']) := by
    have opening : "java.util.List<".toList = "java.util.List".toList ++ ['<'] := by decide
    have closing : ">".toList = ['>'] := by decide
    have spelled := toList_around "java.util.List<" item.simpleName ">"
    rwa [opening, closing, List.append_assoc, List.singleton_append] at spelled
  have apart : ∀ c ∈ "java.util.List".toList, (c != '<') = true :=
    List.all_eq_true.mp (by decide)
  have before : Text.beforeFirst '<' item.listOf.name.toList = "java.util.List".toList := by
    rw [name, Text.beforeFirst, List.takeWhile_append_of_pos apart]
    simp
  have after : Text.fromFirst '<' item.listOf.name.toList =
      '<' :: (item.simpleName.toList ++ ['>']) := by
    rw [name, Text.fromFirst, List.dropWhile_append_of_pos apart]
    simp
  have package : Text.afterLast '.' "java.util.List".toList = "List".toList := by decide
  apply String.toList_inj.mp
  rw [simpleName, before, after, package]
  simp

/-- The name of a list is its simple name in its package. -/
theorem name_listOf (item : TypeRef) :
    item.listOf.name = "java.util." ++ item.listOf.simpleName := by
  have package : "java.util.List<" = "java.util." ++ "List<" := by decide
  rw [simpleName_listOf]
  exact append_around package item.simpleName ">"

end TypeRef

namespace PropertyType

/-- The class for a scalar is its type without primitive types. -/
theorem boxed_scalar (settings : Settings) (name : Option String) :
    (scalar settings name).boxed = scalar settings.boxing name := by
  unfold scalar Settings.boxing
  cases settings.primitives <;> cases settings.longIntegers <;> split <;> rfl

/-- Without primitive types a scalar is a class. -/
theorem primitive_scalar_boxing (settings : Settings) (name : Option String) :
    (scalar settings.boxing name).primitive = false := by
  unfold scalar Settings.boxing
  cases settings.longIntegers <;> split <;> rfl

mutual

/-- The class for the type of a node is its type without primitive types. -/
theorem boxed_ofNode (settings : Settings) :
    (node : Json) → (ofNode settings node).boxed = ofNode settings.boxing node
  | .object entries => by
    rw [ofNode, ofNode, ← boxed_ofItems settings entries, TypeRef.boxed_boxed]
    split
    · exact TypeRef.boxed_listOf _
    · exact boxed_scalar settings _
  | .null | .bool _ | .int _ | .float _ | .string _ | .array _ => by simp only [ofNode]; rfl

/-- The class for the type of items is their type without primitive types. -/
theorem boxed_ofItems (settings : Settings) :
    (entries : List (String × Json)) →
      (ofItems settings entries).boxed = ofItems settings.boxing entries
  | [] => by simp only [ofItems]; rfl
  | (key, value) :: rest => by
    rw [ofItems, ofItems]
    split
    · exact boxed_ofNode settings value
    · exact boxed_ofItems settings rest

end

/-- The type of items is that of the node under `items`. -/
theorem ofItems_eq (settings : Settings) (entries : Entries Json) :
    ofItems settings entries = ((entries.get? "items").map (ofNode settings)).getD .object := by
  induction entries with
  | nil => simp only [ofItems, Entries.get?, List.lookup_nil, Option.map_none, Option.getD_none]
  | cons entry rest ih =>
    obtain ⟨key, value⟩ := entry
    unfold Entries.get? at ih ⊢
    rw [ofItems, List.lookup_cons]
    by_cases same : key = "items"
    · simp [same]
    · have apart : ("items" == key) = false := beq_eq_false_iff_ne.mpr (Ne.symm same)
      rw [if_neg same, apart, ih]

end PropertyType

/-- A node has a type of the given name: its `type` is the name, or an array whose only item other
than the text `null` is the name. -/
def HasType (node : Json) (name : String) : Prop :=
  node.get? "type" = some (.string name) ∨
    ∃ before after, node.get? "type" = some (.array (before ++ .string name :: after)) ∧
      name ≠ "null" ∧ ∀ item ∈ before ++ after, item = .string "null"

/-- A value is the given text exactly if it is that text value. -/
theorem Json.isText_iff {value : Json} {text : String} :
    value.isText text = true ↔ value = .string text := by
  cases value <;> simp [isText, text?]

namespace PropertyType

/-- An array names a type if one text is the only item other than the text `null`. -/
theorem effectiveName?_of_array {entries : Entries Json} {items : List Json}
    (found : entries.get? "type" = some (.array items)) {name : String} :
    effectiveName? entries = some name ↔
      items.filter (!·.isText "null") = [.string name] := by
  unfold effectiveName?
  rw [found]
  simp only []
  split
  · rename_i value only
    rw [only]
    cases value <;> simp [Json.text?]
  · rename_i several
    simp only [reduceCtorEq, false_iff]
    exact several _

/-- The effective name of a node is that of its type. -/
theorem effectiveName?_eq_some_iff {entries : Entries Json} {name : String} :
    effectiveName? entries = some name ↔ HasType (.object entries) name := by
  have read : (Json.object entries).get? "type" = entries.get? "type" := rfl
  unfold HasType
  rw [read]
  cases found : entries.get? "type" with
  | none => simp [effectiveName?, found]
  | some value =>
    cases value with
    | array items =>
      rw [effectiveName?_of_array found, List.filter_eq_cons_iff]
      simp only [List.filter_eq_nil_iff, Bool.not_eq_true', Bool.eq_false_iff, ne_eq,
        Classical.not_not, Json.isText_iff, List.forall_mem_append, Option.some.injEq,
        Json.array.injEq, Json.string.injEq, reduceCtorEq, false_or]
      refine exists₂_congr fun before after => and_congr_right fun _ => ?_
      exact ⟨fun ⟨first, own, later⟩ => ⟨own, first, later⟩,
        fun ⟨own, first, later⟩ => ⟨first, own, later⟩⟩
    | string text => simp [effectiveName?, found, Json.text?]
    | _ => simp [effectiveName?, found, Json.text?]

end PropertyType

/-- A node is so many arrays around an element, or around nothing. Arrays are counted from the node
on, by what stands under `items` as long as that is an object. -/
inductive Nested : Json → Nat → Option Json → Prop
  /-- A node that is no array is the element. -/
  | element {node : Json} (other : ¬HasType node "array") : Nested node 0 (some node)
  /-- An array without a node under `items` is one around nothing. -/
  | bare {node : Json} (array : HasType node "array")
    (missing : ∀ entries, node.get? "items" ≠ some (.object entries)) : Nested node 1 none
  /-- An array is around what its items are around. -/
  | array {node : Json} {items : Entries Json} {levels : Nat} {element : Option Json}
    (array : HasType node "array") (found : node.get? "items" = some (.object items))
    (inner : Nested (.object items) levels element) : Nested node (levels + 1) element

/-- A node is some number of arrays around something in one way. -/
theorem Nested.unique {node : Json} {levels other : Nat} {element elementOther : Option Json}
    (first : Nested node levels element) (second : Nested node other elementOther) :
    other = levels ∧ elementOther = element := by
  induction first generalizing other elementOther with
  | element outside =>
    cases second with
    | element => exact ⟨rfl, rfl⟩
    | bare array => exact absurd array outside
    | array array => exact absurd array outside
  | bare array missing =>
    cases second with
    | element outside => exact absurd array outside
    | bare => exact ⟨rfl, rfl⟩
    | array _ found => exact absurd found (missing _)
  | array array found inner ih =>
    cases second with
    | element outside => exact absurd array outside
    | bare _ missing => exact absurd found (missing _)
    | array _ foundOther innerOther =>
      obtain rfl := Json.object.inj (Option.some.inj (found.symm.trans foundOther))
      obtain ⟨rfl, rfl⟩ := ih innerOther
      exact ⟨rfl, rfl⟩

/-- A node that is no object is no array. -/
theorem not_hasType_of_entries?_eq_none {node : Json} (other : node.entries? = none)
    (name : String) : ¬HasType node name := by
  have missing : node.get? "type" = none := by rw [Json.get?, other, Option.bind_none]
  unfold HasType
  simp [missing]

/-- A node is some number of arrays around something if what stands under `items` is. -/
theorem exists_nested_of_items {entries : Entries Json}
    (inner : ∀ items, entries.get? "items" = some (.object items) →
      ∃ levels element, Nested (.object items) levels element) :
    ∃ levels element, Nested (.object entries) levels element := by
  by_cases array : HasType (.object entries) "array"
  · by_cases found : ∃ items, entries.get? "items" = some (.object items)
    · obtain ⟨items, found⟩ := found
      obtain ⟨levels, element, nested⟩ := inner items found
      exact ⟨levels + 1, element, .array array found nested⟩
    · exact ⟨1, none, .bare array fun items same => found ⟨items, same⟩⟩
  · exact ⟨0, _, .element array⟩

mutual

/-- Each node is some number of arrays around something. -/
theorem exists_nested : (node : Json) → ∃ levels element, Nested node levels element
  | .object entries => exists_nested_of_items (exists_nested_items entries)
  | .null | .bool _ | .int _ | .float _ | .string _ | .array _ =>
    ⟨0, _, .element (not_hasType_of_entries?_eq_none rfl "array")⟩

/-- The node under `items` is some number of arrays around something. -/
theorem exists_nested_items : (entries : List (String × Json)) →
    ∀ items, Entries.get? entries "items" = some (.object items) →
      ∃ levels element, Nested (.object items) levels element
  | [] => fun _ found => by simp [Entries.get?] at found
  | (key, value) :: rest => fun items found => by
    unfold Entries.get? at found
    rw [List.lookup_cons] at found
    split at found
    · rw [← Option.some.inj found]
      exact exists_nested value
    · exact exists_nested_items rest items found

end

namespace PropertyType

/-- The type of what is no array: what settings choose for its type, and any object if it has none
or if there is nothing. -/
inductive IsScalar (settings : Settings) : Option Json → TypeRef → Prop
  /-- A node with a type. -/
  | named {node : Json} {name : String} (known : HasType node name) :
    IsScalar settings (some node) (scalar settings (some name))
  /-- A node without a type. -/
  | unnamed {node : Json} (unknown : ∀ name, ¬HasType node name) :
    IsScalar settings (some node) .object
  /-- Nothing. -/
  | nothing : IsScalar settings none .object

/-- Without primitive types what is no array is a class. -/
theorem IsScalar.primitive {settings : Settings} {element : Option Json} {type : TypeRef}
    (chosen : IsScalar settings.boxing element type) : type.primitive = false := by
  cases chosen with
  | named known => exact primitive_scalar_boxing settings _
  | unnamed => rfl
  | nothing => rfl

variable (settings : Settings)

/-- A node that is no object has the type of any object. -/
theorem ofNode_of_entries?_eq_none {node : Json} (other : node.entries? = none) :
    ofNode settings node = .object := by
  cases node with
  | object entries => simp [Json.entries?] at other
  | _ => simp only [ofNode]

/-- A node that is no array has the type that settings choose. -/
theorem isScalar_ofNode {node : Json} (outside : ¬HasType node "array") :
    IsScalar settings (some node) (ofNode settings node) := by
  cases read : node.entries? with
  | none =>
    rw [ofNode_of_entries?_eq_none settings read]
    exact .unnamed (not_hasType_of_entries?_eq_none read)
  | some entries =>
    obtain rfl : node = .object entries := by
      cases node <;> simp_all [Json.entries?]
    rw [← effectiveName?_eq_some_iff] at outside
    rw [ofNode, if_neg outside]
    cases named : effectiveName? entries with
    | none =>
      refine .unnamed fun name known => ?_
      simp [effectiveName?_eq_some_iff.mpr known] at named
    | some name => exact .named (effectiveName?_eq_some_iff.mp named)

/-- An array has the type of lists of the classes for its items. -/
theorem ofNode_array {node : Json} (array : HasType node "array") :
    ofNode settings node =
      (((node.get? "items").map (ofNode settings)).getD .object).boxed.listOf := by
  cases read : node.entries? with
  | none => exact absurd array (not_hasType_of_entries?_eq_none read "array")
  | some entries =>
    obtain rfl : node = .object entries := by
      cases node <;> simp_all [Json.entries?]
    rw [ofNode, if_pos (effectiveName?_eq_some_iff.mpr array), ofItems_eq]
    rfl

/-- The type of an array does not depend on whether there are primitive types. -/
theorem ofNode_array_boxing {node : Json} (array : HasType node "array") :
    ofNode settings node = ofNode settings.boxing node := by
  rw [← boxed_ofNode, ofNode_array settings array, TypeRef.boxed_listOf]

/-- The simple name of lists in each other around an item of a simple name. -/
def nestedList (levels : Nat) (item : String) : String :=
  String.join (List.replicate levels "List<") ++ item ++ String.join (List.replicate levels ">")

/-- One more list is around the others. -/
theorem nestedList_succ (levels : Nat) (item : String) :
    nestedList (levels + 1) item = "List<" ++ nestedList levels item ++ ">" := by
  have opening : List.replicate (levels + 1) "List<" = ["List<"] ++ List.replicate levels "List<" :=
    List.replicate_succ
  have closing : List.replicate (levels + 1) ">" = List.replicate levels ">" ++ [">"] :=
    List.replicate_succ'
  have alone (text : String) : String.join [text] = text := by simp
  unfold nestedList
  rw [opening, closing, String.join_append, String.join_append, alone, alone]
  simp only [String.append_assoc]

/-- Without primitive types, a node that is arrays around an element has the type of as many lists
around the class of the element. -/
theorem exists_simpleName_boxing {node : Json} {levels : Nat} {element : Option Json}
    (nested : Nested node levels element) :
    ∃ item, IsScalar settings.boxing element item ∧
      (ofNode settings.boxing node).simpleName = nestedList levels item.simpleName := by
  induction nested with
  | element outside =>
    exact ⟨_, isScalar_ofNode settings.boxing outside, by simp [nestedList]⟩
  | @bare node array missing =>
    have nothing : ((node.get? "items").map (ofNode settings.boxing)).getD .object = .object := by
      cases found : node.get? "items" with
      | none => rfl
      | some value =>
        cases value with
        | object entries => exact absurd found (missing entries)
        | _ => simp only [Option.map_some, Option.getD_some, ofNode]
    refine ⟨.object, .nothing, ?_⟩
    rw [ofNode_array settings.boxing array, nothing, TypeRef.simpleName_listOf, nestedList_succ]
    simp [nestedList]
    rfl
  | @array node items levels element array found inner ih =>
    obtain ⟨item, chosen, name⟩ := ih
    have settled : (ofNode settings.boxing (.object items)).boxed =
        ofNode settings.boxing (.object items) := boxed_ofNode settings.boxing (.object items)
    refine ⟨item, chosen, ?_⟩
    rw [ofNode_array settings.boxing array, found, Option.map_some, Option.getD_some, settled,
      TypeRef.simpleName_listOf, name, nestedList_succ]

/-- A node is arrays around an element in one way. Without arrays it has the type that settings
choose for the element. Otherwise it has the type of as many lists around the class of the element,
in their package, and whether there are primitive types does not show. -/
theorem ofNode_nested (settings : Settings) (node : Json) :
    ∃ levels element, Nested node levels element ∧
      (∀ other elementOther, Nested node other elementOther →
        other = levels ∧ elementOther = element) ∧
      (levels = 0 → IsScalar settings element (ofNode settings node)) ∧
      (0 < levels →
        (∃ item, IsScalar settings.boxing element item ∧ item.primitive = false ∧
          ofNode settings node = ⟨"java.util." ++ nestedList levels item.simpleName, false⟩ ∧
          (ofNode settings node).simpleName = nestedList levels item.simpleName) ∧
        ∀ primitives, ofNode { settings with primitives } node = ofNode settings node) := by
  obtain ⟨levels, element, nested⟩ := exists_nested node
  refine ⟨levels, element, nested, fun _ _ => nested.unique, ?_, ?_⟩
  · rintro rfl
    cases nested with
    | element outside => exact isScalar_ofNode settings outside
  · intro some
    have array : HasType node "array" := by
      cases nested with
      | element => exact absurd some (Nat.lt_irrefl 0)
      | bare array => exact array
      | array array => exact array
    obtain ⟨item, chosen, name⟩ := exists_simpleName_boxing settings nested
    rw [← ofNode_array_boxing settings array] at name
    refine ⟨⟨item, chosen, chosen.primitive, ?_, name⟩, fun primitives => ?_⟩
    · rw [← name, ofNode_array settings array, ← TypeRef.name_listOf]
      rfl
    · exact (ofNode_array_boxing { settings with primitives } array).trans
        (ofNode_array_boxing settings array).symm

/-- Two arrays around an integer, one of them perhaps null, are two lists around its class. -/
example :
    let inner : Json := .object
      [("items", .object [("type", .string "integer")]), ("type", .string "array")]
    let outer : Json := .object
      [("type", .array [.string "null", .string "array"]), ("items", inner)]
    ofNode { primitives := true } outer = ⟨"java.util.List<List<Integer>>", false⟩ := by
  decide

end PropertyType

end SchemaBeans
