import SchemaBeans.Model.Annotation
import SchemaBeans.Model.TypeRef
import SchemaBeans.Text.Parts

/-!
# Members of a class

Fields and methods have a name, documentation, annotations and modifiers. A member carries each
annotation at most once: annotating it again writes parameters to the annotation that is there.

Documentation grows by parts at its end. The parts are kept apart, and its text is their
concatenation: appending a part appends its text (`Doc.text_append`).
-/
namespace SchemaBeans

/-- Documentation in parts. -/
structure Doc where
  /-- The parts in the order in which they were appended. -/
  parts : List String := []
deriving DecidableEq, Repr, Inhabited

namespace Doc

/-- Append a part. -/
def append (doc : Doc) (part : String) : Doc := ⟨doc.parts ++ [part]⟩

/-- Append a part that is not empty. -/
def appendNonempty (doc : Doc) (part : String) : Doc := if part = "" then doc else doc.append part

/-- The whole text. -/
def text (doc : Doc) : String := String.join doc.parts

/-- Whether the text is empty, however many parts there are. -/
def isEmpty (doc : Doc) : Bool := doc.text.isEmpty

/-- Whether a text occurs in the documentation, across parts too. -/
def contains (doc : Doc) (part : String) : Bool := Text.occursIn part.toList doc.text.toList

/-- The text of an appended part stands at the end. -/
@[simp] theorem text_append (doc : Doc) (part : String) :
    (doc.append part).text = doc.text ++ part := by
  simp [text, append]

end Doc

/-- What fields and methods have in common. -/
structure Member where
  /-- The name. -/
  name : String
  /-- The documentation. -/
  doc : Doc := {}
  /-- The annotations in the order in which they were added. -/
  annotations : List Annotation := []
  /-- The modifiers. -/
  modifiers : List String := []
deriving DecidableEq, Repr, Inhabited

/-- Write parameters to the annotation of a name, which is added if it is missing. -/
def annotateIn (name : String) (params : List (String × ParamValue)) :
    List Annotation → List Annotation
  | [] => [.withParams { name } params]
  | annotation :: rest =>
    if annotation.name = name then annotation.withParams params :: rest
    else annotation :: annotateIn name params rest

namespace Member

/-- The annotation of a name. -/
def annotation? (member : Member) (name : String) : Option Annotation :=
  member.annotations.find? (·.name == name)

/-- Whether there is an annotation of a name. -/
def hasAnnotation (member : Member) (name : String) : Bool := (member.annotation? name).isSome

/-- Annotate the member and write parameters to the annotation. -/
def annotate (member : Member) (name : String) (params : List (String × ParamValue) := []) :
    Member :=
  { member with annotations := annotateIn name params member.annotations }

/-- Append to the documentation. -/
def appendDoc (member : Member) (part : String) : Member :=
  { member with doc := member.doc.append part }

end Member

/-- A field. -/
structure FieldModel extends Member where
  /-- The type. -/
  type : TypeRef := .object
deriving DecidableEq, Repr, Inhabited

/-- A method, without its body. -/
structure MethodModel extends Member where
  /-- The type of the result. -/
  returnType : TypeRef := .void
  /-- The names and types of the parameters. -/
  params : List (String × TypeRef) := []
deriving DecidableEq, Repr, Inhabited

/-- Change what a field has in common with methods. -/
def FieldModel.mapMember (change : Member → Member) (field : FieldModel) : FieldModel :=
  { field with toMember := change field.toMember }

/-- Change what a method has in common with fields. -/
def MethodModel.mapMember (change : Member → Member) (method : MethodModel) : MethodModel :=
  { method with toMember := change method.toMember }

/-- The written form of a parameter of a method. -/
def MethodModel.renderParam (param : String × TypeRef) : String :=
  param.2.simpleName ++ " " ++ param.1

/-- The signature as it is shown: the simple names of the types and the names of the parameters. -/
def MethodModel.signature (method : MethodModel) : String :=
  method.returnType.simpleName ++ " " ++ method.name ++ "(" ++
    ", ".intercalate (method.params.map renderParam) ++ ")"

end SchemaBeans
