import SchemaBeans.Batch
import SchemaBeans.Json.Printer
import SchemaBeans.Model.Class
import SchemaBeans.Text.Parts

/-!
# Reports

A report as JSON lists the members of a class with their names, types, documentation and rendered
annotations, in the order of the class; a report of a run lists its classes and its errors.

In a report as lines a class is shown by a header, a rule and a line for each member, with a further
line for documentation that is not empty. Documentation is shown on one line: its words, each
separated from the next by one space.
-/
namespace SchemaBeans.Report

/-- The report of a field. -/
def ofField (field : FieldModel) : Json :=
  .object [("name", .string field.name), ("type", .string field.type.name),
    ("doc", .string field.doc.text),
    ("annotations", .array (field.annotations.map fun annotation => .string annotation.render))]

/-- The report of a method. -/
def ofMethod (method : MethodModel) : Json :=
  .object [("name", .string method.name), ("signature", .string method.signature),
    ("doc", .string method.doc.text)]

/-- The report of a class from the given source. -/
def ofClass (target : ClassModel) (source : Option String := none) : Json :=
  .object [("fqn", .string target.fullName),
    ("source", match source with | none => .null | some path => .string path),
    ("doc", .string target.doc.text),
    ("fields", .array (target.fields.map ofField)),
    ("methods", .array (target.methods.map ofMethod))]

/-- The report of a run: its classes under their sources and its errors. -/
def ofRun (classes : Entries ClassModel) (errors : Entries String) : Json :=
  .object [("classes", .array (classes.map fun entry => ofClass entry.2 (some entry.1))),
    ("errors", .object (errors.map fun entry => (entry.1, .string entry.2)))]

/-- The words of a text on one line. -/
def oneLine (text : String) : String :=
  " ".intercalate ((Text.words Text.isBlank text.toList).map String.ofList)

/-- The line for documentation, unless that is empty. -/
def docLines (doc : Doc) : List String :=
  if doc.isEmpty then [] else ["         " ++ oneLine doc.text]

/-- The lines for a field: its annotations, type and name, and its documentation. -/
def fieldLines (field : FieldModel) : List String :=
  let annotations := " ".intercalate (field.annotations.map Annotation.render)
  let lead := if annotations = "" then "" else annotations ++ " "
  ("  " ++ lead ++ field.type.simpleName ++ " " ++ field.name) :: docLines field.doc

/-- The lines for a method: its signature and its documentation. -/
def methodLines (method : MethodModel) : List String :=
  ("  " ++ method.signature) :: docLines method.doc

/-- The rule under the header of a class. -/
def rule : String := String.ofList (List.replicate 60 '-')

/-- The texts of a class that a report shows and that the schema can choose freely. The other texts
are names and types, and the documentation of the class is shown as JSON alone. -/
def schemaTexts (json : Bool) (target : ClassModel) : List String :=
  (if json then [target.doc.text] else []) ++
    target.fields.flatMap (fun field =>
      field.doc.text :: field.annotations.map Annotation.render) ++
    target.methods.map (·.doc.text)

/-- The lines for a class from the given source. -/
def classLines (source : String) (target : ClassModel) : List String :=
  ["", "[" ++ target.fullName ++ "] (" ++ source ++ ")", rule] ++
    target.fields.flatMap fieldLines ++ target.methods.flatMap methodLines

/-- The lines for a run: its classes and its counts. -/
def runLines (result : BatchResult) : List String :=
  result.classes.flatMap (fun entry => classLines entry.1 entry.2) ++
    ["", s!"Generated {result.classes.length} class(es), {result.errors.length} error(s)"]

/-- The lines for the errors of a run. -/
def errorLines (result : BatchResult) : List String :=
  result.errors.map fun entry => "[ERROR] " ++ entry.1 ++ ": " ++ entry.2

/-- Lines with a line feed after each. -/
def unlines (lines : List String) : String := String.join (lines.map (· ++ "\n"))

end SchemaBeans.Report
