import SchemaBeans.Json.Basic
import SchemaBeans.Log.Event
import SchemaBeans.Model.Class
import SchemaBeans.Model.TypeRef
import SchemaBeans.Rule.Context
import SchemaBeans.Settings.Basic

/-!
# The rule for `properties`

Every declared property gets a private field, a getter, a setter and, if settings ask for it, a
builder. A property may ask to be left out, and of two properties with one field name the first
wins.

The schema of a property names a JSON type, alone or in a union with null; settings choose the
Java type for it. An array is a list of the type of its items, to any depth.
-/
namespace SchemaBeans.PropertyType

/-- The JSON type that entries name: the text under `type`, or the only item of an array under
`type` that is not the text `null`. -/
def effectiveName? (entries : Entries Json) : Option String :=
  match entries.get? "type" with
  | some (.array items) =>
    match items.filter (!·.isText "null") with
    | [only] => only.text?
    | _ => none
  | some value => value.text?
  | none => none

/-- The Java type for a JSON type that is no array; an unknown name stands for any object. -/
def scalar (settings : Settings) (name : Option String) : TypeRef :=
  match name with
  | some "string" => .string
  | some "integer" =>
    if settings.longIntegers then
      if settings.primitives then .long else .longInteger
    else if settings.primitives then .int else .integer
  | some "number" => if settings.primitives then .double else .number
  | some "boolean" => if settings.primitives then .boolean else .truth
  | _ => .object

mutual

/-- The Java type for the schema of a property. -/
def ofNode (settings : Settings) : Json → TypeRef
  | .object entries =>
    let name := effectiveName? entries
    if name = some "array" then (ofItems settings entries).boxed.listOf else scalar settings name
  | _ => .object

/-- The Java type for the schema under `items`. -/
def ofItems (settings : Settings) : List (String × Json) → TypeRef
  | [] => .object
  | (key, value) :: rest => if key = "items" then ofNode settings value else ofItems settings rest

end

end SchemaBeans.PropertyType

namespace SchemaBeans.Properties

/-- Whether the schema of a property asks to leave it out. -/
def isExcluded (node : Json) : Bool :=
  match node.get? "excludedFromGeneration" with
  | some (.bool true) => true
  | _ => false

/-- The documentation of a property: the first text that is not empty among its description and
its title, or the empty text. -/
def docText (node : Json) : String :=
  let description := (node.get? "description").bind Json.nonemptyText?
  let title := (node.get? "title").bind Json.nonemptyText?
  (description <|> title).getD ""

/-- The field of a property. -/
def newField (context : RuleContext) (property : String) (node : Json) : FieldModel :=
  let text := docText node
  context.metadata.describe text
    { name := context.naming.fieldName property (some node)
      doc := ({} : Doc).appendNonempty text
      modifiers := ["private"]
      type := PropertyType.ofNode context.settings node }

/-- The getter of a property. -/
def newGetter (context : RuleContext) (property : String) (node : Json) : MethodModel :=
  let type := PropertyType.ofNode context.settings node
  { name := context.naming.getterName property type (some node)
    doc := ({} : Doc).appendNonempty (docText node)
    modifiers := ["public"]
    returnType := type }

/-- The parameter of the setter and of the builder of a property: its field. -/
def newParam (context : RuleContext) (property : String) (node : Json) : String × TypeRef :=
  (context.naming.fieldName property (some node), PropertyType.ofNode context.settings node)

/-- The setter of a property. -/
def newSetter (context : RuleContext) (property : String) (node : Json) : MethodModel :=
  { name := context.naming.setterName property (some node)
    doc := ({} : Doc).appendNonempty (docText node)
    modifiers := ["public"]
    params := [newParam context property node] }

/-- The builder of a property in the class of the given full name. -/
def newBuilder (context : RuleContext) (className property : String) (node : Json) :
    MethodModel :=
  { name := context.naming.builderName property (some node)
    modifiers := ["public"]
    returnType := ⟨className, false⟩
    params := [newParam context property node] }

/-- The methods of a property in the class of the given full name. -/
def newMethods (context : RuleContext) (className property : String) (node : Json) :
    List MethodModel :=
  [newGetter context property node, newSetter context property node] ++
    if context.settings.builders then [newBuilder context className property node] else []

/-- What is done with a property. -/
inductive Decision where
  /-- It is left out as it asks. -/
  | exclude
  /-- It is left out because a field has its field name. -/
  | collide (field : String)
  /-- Its members are created. -/
  | create
deriving DecidableEq, Repr

/-- What is done with a property in a class. -/
def decide (context : RuleContext) (property : String × Json) (target : ClassModel) : Decision :=
  if isExcluded property.2 then .exclude
  else
    let field := context.naming.fieldName property.1 (some property.2)
    if (target.field? field).isSome then .collide field else .create

/-- Create the members of a property unless it is left out. -/
def addProperty (context : RuleContext) (property : String × Json) (target : ClassModel) :
    Outcome :=
  match decide context property target with
  | .exclude | .collide _ => .done target
  | .create =>
    (target.addField (newField context property.1 property.2)).andThen fun extended =>
      .done (extended.addMethods
        (newMethods context extended.fullName property.1 property.2))

/-- Create the members of all declared properties. -/
def apply (context : RuleContext) (schema : Schema) (target : ClassModel) : Outcome :=
  match schema.properties? with
  | .error malformed => .stopped target (.malformed malformed)
  | .ok properties => Outcome.forEach (addProperty context) (properties.getD []) target

/-- What happens at a property. -/
def propertyEvents (context : RuleContext) (property : String × Json) (target : ClassModel) :
    List Event :=
  match decide context property target with
  | .exclude => [.propertyExcluded target.fullName property.1]
  | .collide field => [.propertyCollides target.fullName property.1 field]
  | .create => []

/-- What happens at properties in order. -/
def eventsOf (context : RuleContext) : List (String × Json) → ClassModel → List Event
  | [], _ => []
  | property :: rest, target =>
    propertyEvents context property target ++
      eventsOf context rest (addProperty context property target).target

/-- What happens while the rule is applied. -/
def events (context : RuleContext) (schema : Schema) (target : ClassModel) : List Event :=
  match schema.properties? with
  | .error _ => []
  | .ok properties => eventsOf context (properties.getD []) target

end SchemaBeans.Properties
