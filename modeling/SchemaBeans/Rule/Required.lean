import SchemaBeans.Log.Event
import SchemaBeans.Model.Class
import SchemaBeans.Rule.Context

/-!
# The rule for `required`

Each entry of `required` marks the field of the property it names, once for each entry; an entry
without a field is skipped. The accessors of the marked fields are found by their names and are
marked once, however many entries lead to them. The documentation grows with each application;
annotations do not.
-/
namespace SchemaBeans.Required

/-- What is appended to the documentation of required members. -/
def marker : String := "\n(Required)"

/-- The schema of the property that an entry names, if it is declared. -/
def propertyNode (properties : Option (Entries Json)) (entry : String) : Option Json :=
  properties.bind (·.get? entry)

/-- The name of the field that an entry leads to. -/
def fieldName (context : RuleContext) (properties : Option (Entries Json)) (entry : String) :
    String :=
  context.naming.fieldName entry (propertyNode properties entry)

/-- Mark a member in its documentation. -/
def markDoc (member : Member) : Member := member.appendDoc marker

/-- Annotate a field as not null, if settings ask for it. -/
def annotateNotNull (settings : Settings) (field : FieldModel) : FieldModel :=
  if settings.notNullAnnotations then field.mapMember (·.annotate settings.notNullAnnotation)
  else field

/-- Mark a field as required. -/
def markField (context : RuleContext) (field : FieldModel) : FieldModel :=
  context.metadata.markRequired true
    (annotateNotNull context.settings (field.mapMember markDoc))

/-- Mark the field that an entry leads to. -/
def markEntry (context : RuleContext) (properties : Option (Entries Json)) (target : ClassModel)
    (entry : String) : ClassModel :=
  target.modifyField (fieldName context properties entry) (markField context)

/-- The names of the accessors that an entry leads to: none without a field. -/
def accessorNames (context : RuleContext) (properties : Option (Entries Json))
    (target : ClassModel) (entry : String) : List String :=
  match target.field? (fieldName context properties entry) with
  | none => []
  | some field =>
    let node := propertyNode properties entry
    [context.naming.getterName entry field.type node, context.naming.setterName entry node]

/-- Mark the methods whose name is listed. -/
def markMethods (names : List String) (target : ClassModel) : ClassModel :=
  { target with
    methods := target.methods.map fun method =>
      if names.contains method.name then method.mapMember markDoc else method }

/-- Mark what the entries lead to: first the fields, then the accessors of those found. -/
def markEntries (context : RuleContext) (properties : Option (Entries Json))
    (entries : List String) (target : ClassModel) : ClassModel :=
  markMethods (entries.flatMap (accessorNames context properties target))
    (entries.foldl (markEntry context properties) target)

/-- Mark what the entries of a node lead to. -/
def apply (context : RuleContext) (node : Json) (schema : Schema) (target : ClassModel) :
    Outcome :=
  match requiredNames node schema.source with
  | .error malformed => .stopped target (.malformed malformed)
  | .ok entries =>
    match schema.properties? with
    | .error malformed => .stopped target (.malformed malformed)
    | .ok properties => .done (markEntries context properties entries target)

/-- What happens at an entry. -/
def entryEvents (context : RuleContext) (properties : Option (Entries Json))
    (target : ClassModel) (entry : String) : List Event :=
  match target.field? (fieldName context properties entry) with
  | none => [.requiredWithoutField target.fullName entry]
  | some field =>
    match context.metadata with
    | .none => []
    | .swagger2 => [.requiredRecorded field.name]

/-- What happens while the rule is applied to a node of the given name. -/
def events (context : RuleContext) (nodeName : String) (node : Json) (schema : Schema)
    (target : ClassModel) : List Event :=
  match requiredNames node schema.source, schema.properties? with
  | .ok entries, .ok properties =>
    let accessors := (entries.flatMap (accessorNames context properties target)).eraseDups
    entries.flatMap (entryEvents context properties target) ++
      [.requiredMarked target.fullName nodeName entries.length accessors.length]
  | _, _ => []

end SchemaBeans.Required
