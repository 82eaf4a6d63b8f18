import SchemaBeans.Rule.Pipeline
import SchemaBeans.Schema.Load

/-!
# Generating a class

A class is generated from a schema by the standard rules. Its name is given, or derived from the
title of the schema or the name of its file; its package is given, or that of the settings.
-/
namespace SchemaBeans.RuleContext

/-- The name of a class for which nothing gives a name. -/
def defaultClassName : String := "GeneratedType"

/-- The name of a file without its directories and without what follows the first point. -/
def fileStem (path : String) : String :=
  let slashed := path.toList.map fun c => if c = '\\' then '/' else c
  String.ofList (Text.beforeFirst '.' (Text.afterLast '/' slashed))

/-- What a class is named after: the title, the file, or the default, whichever is first not
empty. -/
def classNameBase (schema : Schema) : String :=
  let fromFile := schema.source.map fileStem
  ((schema.title?.filter (· ≠ "")) <|> (fromFile.filter (· ≠ ""))).getD defaultClassName

/-- The name of the class for a schema; an empty name counts as not given. -/
def classNameFor (context : RuleContext) (schema : Schema) (given : Option String) : String :=
  (given.filter (· ≠ "")).getD (context.naming.className (classNameBase schema) none)

/-- The class of a schema before any rule is applied. -/
def emptyClass (context : RuleContext) (schema : Schema) (className package : Option String) :
    ClassModel where
  name := context.classNameFor schema className
  package := package.getD context.settings.targetPackage
  doc := ({} : Doc).appendNonempty (schema.description?.getD "")

/-- The class of a schema. -/
def generate (context : RuleContext) (schema : Schema) (className : Option String := none)
    (package : Option String := none) : Except Failure ClassModel :=
  (Rule.applyAll context Rule.standard schema
    (context.emptyClass schema className package)).toExcept

/-- What happens while the class of a schema is generated. -/
def generationEvents (context : RuleContext) (schema : Schema)
    (className : Option String := none) (package : Option String := none) : List Event :=
  let start := context.emptyClass schema className package
  Rule.allEvents context start.name schema Rule.standard start ++
    match context.generate schema className package with
    | .ok target =>
      [.classGenerated target.fullName target.fields.length target.methods.length]
    | .error _ => []

/-- The class of the schema in the file under a path. -/
def generateFile (context : RuleContext) (read : FileReader) (path : String)
    (className : Option String := none) (package : Option String := none) :
    Except Failure ClassModel := do
  let schema ← Schema.load read path
  context.generate schema className package

/-- What happens while the class of a file is generated. -/
def fileEvents (context : RuleContext) (read : FileReader) (path : String)
    (className : Option String := none) (package : Option String := none) : List Event :=
  match Schema.load read path with
  | .ok schema =>
    .schemaLoaded (Path.normalize path) schema.content.keys ::
      context.generationEvents schema className package
  | .error _ => []

end SchemaBeans.RuleContext
