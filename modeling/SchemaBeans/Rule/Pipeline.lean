import SchemaBeans.Rule.Properties
import SchemaBeans.Rule.Required

/-!
# Rules in order

A rule handles one keyword. A list of rules is applied in order, each to the value of its keyword
if the schema has it. If a rule stops, the ones after it are not applied and what the ones before
it did stays.
-/
namespace SchemaBeans

/-- A rule for a keyword. -/
inductive Rule where
  /-- Create the members of declared properties. -/
  | properties
  /-- Mark required properties. -/
  | required
deriving DecidableEq, Repr

namespace Rule

/-- The keyword that a rule handles. -/
def keyword : Rule → String
  | properties => "properties"
  | required => "required"

/-- What a rule does. -/
def description : Rule → String
  | properties => "Generate fields, getters and setters for declared properties"
  | required => "Mark required properties in field and accessor docs, with optional @NotNull"

/-- The rules in the order in which they are applied: members are created before they are
marked. -/
def standard : List Rule := [properties, required]

/-- Apply a rule to the value of its keyword. -/
def apply (context : RuleContext) (rule : Rule) (node : Json) (schema : Schema)
    (target : ClassModel) : Outcome :=
  match rule with
  | properties => Properties.apply context schema target
  | required => Required.apply context node schema target

/-- What happens while a rule is applied to a node of the given name. -/
def events (context : RuleContext) (rule : Rule) (nodeName : String) (node : Json)
    (schema : Schema) (target : ClassModel) : List Event :=
  match rule with
  | properties => Properties.events context schema target
  | required => Required.events context nodeName node schema target

/-- Apply a rule if the schema has its keyword. -/
def applyIfPresent (context : RuleContext) (schema : Schema) (rule : Rule)
    (target : ClassModel) : Outcome :=
  match schema.get? rule.keyword with
  | none => .done target
  | some node => rule.apply context node schema target

/-- Apply rules in order. -/
def applyAll (context : RuleContext) (rules : List Rule) (schema : Schema)
    (target : ClassModel) : Outcome :=
  Outcome.forEach (applyIfPresent context schema) rules target

/-- What happens while rules are applied in order to a node of the given name. -/
def allEvents (context : RuleContext) (nodeName : String) (schema : Schema) :
    List Rule → ClassModel → List Event
  | [], _ => []
  | rule :: rest, target =>
    match schema.get? rule.keyword with
    | none => allEvents context nodeName schema rest target
    | some node =>
      rule.events context nodeName node schema target ++
        match rule.apply context node schema target with
        | .done changed => allEvents context nodeName schema rest changed
        | .stopped _ _ => []

/-- Apply the first of some rules that handles a keyword, whether the schema has it or not. -/
def applyByKeyword (context : RuleContext) (rules : List Rule) (keyword : String)
    (schema : Schema) (target : ClassModel) : Outcome :=
  match rules.find? (·.keyword == keyword) with
  | none => .stopped target (.unknownRule keyword)
  | some rule => rule.apply context ((schema.get? keyword).getD .null) schema target

end Rule

end SchemaBeans
