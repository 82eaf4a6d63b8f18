import SchemaBeans.Rule.Pipeline

/-!
# Edits of a class

The operations by which a class grows, each with its outcome. An edit of a member that is not there
changes nothing. A sequence of edits goes on after one that stops, from the class as that one left
it.
-/
namespace SchemaBeans

/-- An operation on a class under construction. -/
inductive Edit where
  /-- Add a field. -/
  | addField (field : FieldModel)
  /-- Add a method. -/
  | addMethod (method : MethodModel)
  /-- Append to the documentation of the class. -/
  | appendClassDoc (part : String)
  /-- Append to the documentation of a member. -/
  | appendDoc (member : MemberRef) (part : String)
  /-- Annotate a member and write parameters to the annotation. -/
  | annotate (member : MemberRef) (name : String) (params : List (String × ParamValue))
  /-- Record the description of a field. -/
  | describe (field description : String)
  /-- Record whether a field is required. -/
  | markRequired (field : String) (required : Bool)
  /-- Apply a rule to a node. -/
  | applyRule (rule : Rule) (node : Json) (schema : Schema)
  /-- Apply rules in order. -/
  | applyAll (rules : List Rule) (schema : Schema)
  /-- Apply the rule for a keyword. -/
  | applyByKeyword (rules : List Rule) (keyword : String) (schema : Schema)

namespace Edit

/-- Make an edit. -/
def apply (context : RuleContext) (edit : Edit) (target : ClassModel) : Outcome :=
  match edit with
  | addField field => target.addField field
  | addMethod method => .done (target.addMethods [method])
  | appendClassDoc part => .done (target.appendDoc part)
  | appendDoc member part => .done (target.modifyMember (·.appendDoc part) member)
  | annotate member name params => .done (target.modifyMember (·.annotate name params) member)
  | describe field description =>
    .done (target.modifyField field (context.metadata.describe description))
  | markRequired field required =>
    .done (target.modifyField field (context.metadata.markRequired required))
  | applyRule rule node schema => rule.apply context node schema target
  | applyAll rules schema => Rule.applyAll context rules schema target
  | applyByKeyword rules keyword schema =>
    Rule.applyByKeyword context rules keyword schema target

/-- The class after a sequence of edits. -/
def applyEach (context : RuleContext) (edits : List Edit) (target : ClassModel) : ClassModel :=
  edits.foldl (fun target edit => (edit.apply context target).target) target

end Edit

end SchemaBeans
