import Mathlib.Algebra.Ring.Nat
import Mathlib.Data.List.Forall2
import SchemaBeans.Proofs.Text.Parts
import SchemaBeans.Report.Class

/-!
# The layout of reports as lines

What is shown as lines is one text, with a line feed after each line. The lines of a report have a
layout (`LaysOutRun`): three for each class, one for each of its members, one more for each member
whose documentation is not empty, and two at the end; the number of lines follows from it
(`LaysOutRun.length_eq`). Where nothing that is shown of a class but its documentation holds a line
feed, no line does (`unbroken_runLines`), and the text is cut at its line feeds into just these
lines (`splitOn_unlines`).
-/
namespace SchemaBeans

open Text

/-- What is shown of a field beside its documentation stands on one line. -/
structure FieldModel.Unbroken (field : FieldModel) : Prop where
  /-- The name does. -/
  name : Text.Unbroken field.name
  /-- The name of the type does. -/
  type : Text.Unbroken field.type.name
  /-- Each annotation does. -/
  annotations : ∀ note ∈ field.annotations, Text.Unbroken note.render

/-- What is shown of a method beside its documentation stands on one line. -/
structure MethodModel.Unbroken (method : MethodModel) : Prop where
  /-- The name does. -/
  name : Text.Unbroken method.name
  /-- The name of the type of the result does. -/
  returnType : Text.Unbroken method.returnType.name
  /-- The name of each parameter and that of its type do. -/
  params : ∀ param ∈ method.params, Text.Unbroken param.1 ∧ Text.Unbroken param.2.name

/-- What is shown of a class beside the documentation of its members stands on one line. -/
structure ClassModel.Unbroken (target : ClassModel) : Prop where
  /-- The full name does. -/
  fullName : Text.Unbroken target.fullName
  /-- What is shown of each field does. -/
  fields : ∀ field ∈ target.fields, field.Unbroken
  /-- What is shown of each method does. -/
  methods : ∀ method ∈ target.methods, method.Unbroken

/-- The simple name of a type is made of characters of its name. -/
theorem TypeRef.unbroken_simpleName {type : TypeRef} (unbroken : Text.Unbroken type.name) :
    Text.Unbroken type.simpleName := by
  refine unbroken.mono ?_
  rw [simpleName, String.toList_ofList]
  refine List.append_subset.mpr ⟨fun c member => ?_, (List.dropWhile_sublist _).subset⟩
  exact (List.takeWhile_sublist _).subset (afterLast_subset '.' _ member)

/-- The signature of a method shows nothing but its names and types. -/
theorem MethodModel.Unbroken.signature {method : MethodModel} (unbroken : method.Unbroken) :
    Text.Unbroken method.signature := by
  have params : ∀ text ∈ method.params.map renderParam, Text.Unbroken text := by
    intro text member
    obtain ⟨param, known, rfl⟩ := List.mem_map.mp member
    obtain ⟨name, type⟩ := unbroken.params param known
    exact unbroken_append.mpr
      ⟨unbroken_append.mpr ⟨TypeRef.unbroken_simpleName type, by decide⟩, name⟩
  simp only [MethodModel.signature, unbroken_append]
  exact ⟨⟨⟨⟨⟨TypeRef.unbroken_simpleName unbroken.returnType, by decide⟩, unbroken.name⟩,
    by decide⟩, unbroken_intercalate (by decide) params⟩, by decide⟩

/-- The lines of a member that shows itself as `own`: that line, and one more for documentation that
is not empty. -/
inductive LaysOutMember (own : String) (doc : Doc) : List String → Prop where
  /-- Without documentation the line stands alone. -/
  | plain : doc.text = "" → LaysOutMember own doc [own]
  /-- The words of documentation stand after nine blanks, with a blank between any two of them. -/
  | documented {words : List (List Char)} : doc.text ≠ "" →
    CutInto isBlank doc.text.toList words →
    LaysOutMember own doc [own, "         " ++ " ".intercalate (words.map String.ofList)]

/-- How a field shows itself: by its annotations, its type and its name. -/
def FieldModel.shown (field : FieldModel) : String :=
  "  " ++ String.join (field.annotations.map (·.render ++ " ")) ++ field.type.simpleName ++ " " ++
    field.name

/-- The lines of a class: an empty one, a header, a rule, and those of its members in order. -/
def LaysOutClass (path : String) (target : ClassModel) (lines : List String) : Prop :=
  ∃ fields methods,
    List.Forall₂ (fun field => LaysOutMember field.shown field.doc) target.fields fields ∧
    List.Forall₂ (fun method => LaysOutMember ("  " ++ method.signature) method.doc) target.methods
      methods ∧
    lines = ["", "[" ++ target.fullName ++ "] (" ++ path ++ ")", Report.rule] ++ fields.flatten ++
      methods.flatten

/-- The lines of a run: those of its classes in order, an empty one and its counts. -/
def LaysOutRun (result : BatchResult) (lines : List String) : Prop :=
  ∃ classes,
    List.Forall₂ (fun entry => LaysOutClass entry.1 entry.2) result.classes classes ∧
    lines = classes.flatten ++
      ["", s!"Generated {result.classes.length} class(es), {result.errors.length} error(s)"]

/-- The number of the lines of a class. -/
def ClassModel.lineCount (target : ClassModel) : Nat :=
  3 + target.fields.length + target.methods.length +
    target.fields.countP (·.doc.text ≠ "") + target.methods.countP (·.doc.text ≠ "")

/-- A member has a line, and one more if it has documentation. -/
theorem LaysOutMember.length_eq {own : String} {doc : Doc} {lines : List String}
    (laid : LaysOutMember own doc lines) :
    lines.length = 1 + if doc.text ≠ "" then 1 else 0 := by
  cases laid with
  | plain empty => simp [empty]
  | documented nonempty _ => simp [nonempty]

/-- Members have a line each, and one more for each of them that has documentation. -/
theorem length_flatten_members {α : Type} {own : α → String} {doc : α → Doc} {members : List α}
    {shown : List (List String)}
    (laid : List.Forall₂ (fun member => LaysOutMember (own member) (doc member)) members shown) :
    shown.flatten.length =
      members.length + members.countP fun member => (doc member).text ≠ "" := by
  induction laid with
  | nil => rfl
  | cons first _ ih =>
    rw [List.flatten_cons, List.length_append, first.length_eq, ih, List.length_cons,
      List.countP_cons]
    simp only [decide_eq_true_eq]
    omega

/-- A class has as many lines as its members ask for. -/
theorem LaysOutClass.length_eq {path : String} {target : ClassModel} {lines : List String}
    (laid : LaysOutClass path target lines) : lines.length = target.lineCount := by
  obtain ⟨fields, methods, fieldsLaid, methodsLaid, rfl⟩ := laid
  simp only [List.length_append, length_flatten_members fieldsLaid,
    length_flatten_members methodsLaid, ClassModel.lineCount, List.length_cons, List.length_nil]
  omega

/-- Classes have their own numbers of lines together. -/
theorem length_flatten_classes {classes : Entries ClassModel} {shown : List (List String)}
    (laid : List.Forall₂ (fun entry => LaysOutClass entry.1 entry.2) classes shown) :
    shown.flatten.length = (classes.map fun entry => entry.2.lineCount).sum := by
  induction laid with
  | nil => rfl
  | cons first _ ih =>
    rw [List.flatten_cons, List.length_append, first.length_eq, ih, List.map_cons, List.sum_cons]

/-- A run has the lines of its classes and two more. -/
theorem LaysOutRun.length_eq {result : BatchResult} {lines : List String}
    (laid : LaysOutRun result lines) :
    lines.length = (result.classes.map fun entry => entry.2.lineCount).sum + 2 := by
  obtain ⟨classes, classesLaid, rfl⟩ := laid
  rw [List.length_append, length_flatten_classes classesLaid]
  rfl

/-- Texts with a separator between any two and one more at the end have one after each. -/
theorem Text.intercalate_append_self (between : String) {texts : List String}
    (nonempty : texts ≠ []) :
    between.intercalate texts ++ between = String.join (texts.map (· ++ between)) := by
  induction texts with
  | nil => exact absurd rfl nonempty
  | cons first rest ih =>
    cases rest with
    | nil => simp
    | cons second rest =>
      have later := ih (List.cons_ne_nil second rest)
      rw [String.intercalate_cons_cons, String.append_assoc, later]
      exact String.join_cons.symm

/-- The written form of an annotation is not empty. -/
theorem Annotation.render_ne_empty (note : Annotation) : note.render ≠ "" := by
  unfold render
  split <;> simp

namespace Report

/-- The text of lines starts with the first of them. -/
theorem unlines_cons (line : String) (rest : List String) :
    unlines (line :: rest) = line ++ "\n" ++ unlines rest := by
  simp [unlines]

/-- The text of lines is that of some of them and then of the others. -/
theorem unlines_append (first second : List String) :
    unlines (first ++ second) = unlines first ++ unlines second := by
  simp [unlines]

/-- The text of the lines of items is the texts of the items one after the other. -/
theorem unlines_flatMap {α : Type} (items : List α) (linesOf : α → List String) :
    unlines (items.flatMap linesOf) =
      String.join (items.map fun item => unlines (linesOf item)) := by
  induction items with
  | nil => rfl
  | cons item rest ih =>
    rw [List.flatMap_cons, unlines_append, ih, List.map_cons, String.join_cons]

/-- The text of lines is made of them and of the empty text after the last line feed. -/
theorem toList_unlines (lines : List String) :
    (unlines lines).toList = ['\n'].intercalate (lines.map String.toList ++ [[]]) := by
  rw [unlines, String.toList_join, List.flatMap_map]
  induction lines with
  | nil => rfl
  | cons line rest ih =>
    rw [List.flatMap_cons, ih]
    cases rest <;> simp

/-- The text of unbroken lines is cut at its line feeds into these lines, and nothing stands after
the last of them. -/
theorem splitOn_unlines {lines : List String} (unbroken : ∀ line ∈ lines, Unbroken line) :
    (unlines lines).toList.splitOn '\n' = lines.map String.toList ++ [[]] := by
  rw [toList_unlines]
  refine List.splitOn_intercalate '\n' (fun line member => ?_) (by simp)
  rcases List.mem_append.mp member with known | last
  · obtain ⟨text, listed, rfl⟩ := List.mem_map.mp known
    exact unbroken text listed
  · rw [List.mem_singleton.mp last]
    exact List.not_mem_nil

/-- Words on one line stand on one line, whatever stood between them. -/
theorem unbroken_oneLine (text : String) : Unbroken (oneLine text) := by
  refine unbroken_intercalate (by decide) fun word member => ?_
  obtain ⟨chars, known, rfl⟩ := List.mem_map.mp member
  rw [Unbroken, String.toList_ofList]
  intro inside
  have clean := not_separator_of_mem_words known inside
  cases clean

/-- Documentation has lines on which it stands alone. -/
theorem unbroken_docLines (doc : Doc) : ∀ line ∈ docLines doc, Unbroken line := by
  unfold docLines
  split
  · exact List.forall_mem_nil _
  · rw [List.forall_mem_singleton, unbroken_append]
    exact ⟨by decide, unbroken_oneLine doc.text⟩

/-- The lines of a field are unbroken if what they show is. -/
theorem unbroken_fieldLines {field : FieldModel} (unbroken : field.Unbroken) :
    ∀ line ∈ fieldLines field, Unbroken line := by
  have notes : Unbroken (" ".intercalate (field.annotations.map Annotation.render)) :=
    unbroken_intercalate (by decide) (List.forall_mem_map.mpr unbroken.annotations)
  refine List.forall_mem_cons.mpr ⟨?_, unbroken_docLines field.doc⟩
  simp only [unbroken_append]
  refine ⟨⟨⟨⟨by decide, ?_⟩, TypeRef.unbroken_simpleName unbroken.type⟩, by decide⟩,
    unbroken.name⟩
  split
  · decide
  · exact unbroken_append.mpr ⟨notes, by decide⟩

/-- The lines of a method are unbroken if what they show is. -/
theorem unbroken_methodLines {method : MethodModel} (unbroken : method.Unbroken) :
    ∀ line ∈ methodLines method, Unbroken line :=
  List.forall_mem_cons.mpr
    ⟨unbroken_append.mpr ⟨by decide, unbroken.signature⟩, unbroken_docLines method.doc⟩

/-- The lines of a class are unbroken if what they show is. -/
theorem unbroken_classLines {source : String} (named : Unbroken source) {target : ClassModel}
    (unbroken : target.Unbroken) : ∀ line ∈ classLines source target, Unbroken line := by
  have header : Unbroken ("[" ++ target.fullName ++ "] (" ++ source ++ ")") := by
    simp only [unbroken_append]
    exact ⟨⟨⟨⟨by decide, unbroken.fullName⟩, by decide⟩, named⟩, by decide⟩
  intro line member
  simp only [classLines, List.mem_append, List.mem_cons, List.not_mem_nil, or_false,
    List.mem_flatMap] at member
  rcases member with ((rfl | rfl | rfl) | ⟨field, known, shown⟩) | ⟨method, known, shown⟩
  · decide
  · exact header
  · decide
  · exact unbroken_fieldLines (unbroken.fields field known) line shown
  · exact unbroken_methodLines (unbroken.methods method known) line shown

/-- A numeral stands on one line. -/
theorem unbroken_toString (number : Nat) : Unbroken (toString number) := by
  refine @unbroken_of_forall Char.isDigit (by decide) _ fun c member => ?_
  rw [Nat.toString_eq_repr, Nat.toList_repr] at member
  exact Nat.isDigit_of_mem_toDigits (by decide) (by decide) member

/-- The lines of a run are unbroken if what they show of its classes and their paths is. -/
theorem unbroken_runLines {result : BatchResult}
    (unbroken : ∀ entry ∈ result.classes, Unbroken entry.1 ∧ entry.2.Unbroken) :
    ∀ line ∈ runLines result, Unbroken line := by
  intro line member
  simp only [runLines, List.mem_append, List.mem_flatMap, List.mem_cons, List.not_mem_nil,
    or_false] at member
  rcases member with ⟨entry, known, shown⟩ | rfl | rfl
  · exact unbroken_classLines (unbroken entry known).1 (unbroken entry known).2 line shown
  · decide
  · simp only [unbroken_append]
    exact ⟨⟨⟨⟨by decide, unbroken_toString _⟩, by decide⟩, unbroken_toString _⟩, by decide⟩

/-- A member and its documentation are laid out as it asks for. -/
theorem laysOut_cons_docLines (own : String) (doc : Doc) :
    LaysOutMember own doc (own :: docLines doc) := by
  unfold docLines Doc.isEmpty
  by_cases empty : doc.text = ""
  · rw [empty]
    exact .plain empty
  · rw [if_neg (by simpa using empty)]
    exact .documented empty (cutInto_iff.mpr rfl)

/-- Annotations stand before the type, each with a blank after it. -/
theorem lead_fieldLines (notes : List Annotation) :
    (if " ".intercalate (notes.map Annotation.render) = "" then ""
      else " ".intercalate (notes.map Annotation.render) ++ " ") =
      String.join (notes.map (·.render ++ " ")) := by
  cases notes with
  | nil => rfl
  | cons first rest =>
    have shown : " ".intercalate ((first :: rest).map Annotation.render) ≠ "" := by
      cases rest <;> simp [first.render_ne_empty]
    rw [if_neg shown, Text.intercalate_append_self " " (by simp), List.map_map]
    rfl

/-- The lines of a field are laid out. -/
theorem laysOut_fieldLines (field : FieldModel) :
    LaysOutMember field.shown field.doc (fieldLines field) := by
  unfold FieldModel.shown
  rw [← lead_fieldLines]
  exact laysOut_cons_docLines _ _

/-- The lines of a class are laid out. -/
theorem laysOut_classLines (path : String) (target : ClassModel) :
    LaysOutClass path target (classLines path target) := by
  refine ⟨target.fields.map fieldLines, target.methods.map methodLines, ?_, ?_, ?_⟩
  · rw [List.forall₂_map_right_iff, List.forall₂_same]
    exact fun field _ => laysOut_fieldLines field
  · rw [List.forall₂_map_right_iff, List.forall₂_same]
    exact fun method _ => laysOut_cons_docLines _ _
  · rw [classLines, List.flatMap_def, List.flatMap_def]

/-- The lines of a run are laid out. -/
theorem laysOut_runLines (result : BatchResult) : LaysOutRun result (runLines result) := by
  refine ⟨result.classes.map fun entry => classLines entry.1 entry.2, ?_, ?_⟩
  · rw [List.forall₂_map_right_iff, List.forall₂_same]
    exact fun entry _ => laysOut_classLines entry.1 entry.2
  · rw [runLines, List.flatMap_def]

end Report

end SchemaBeans
