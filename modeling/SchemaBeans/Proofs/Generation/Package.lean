import SchemaBeans.Batch
import SchemaBeans.Proofs.Generation.Options

/-!
# The package that is given and that of the settings

No rule asks for the package of the settings: it only stands in for one that is not given. So a
package that is given makes what the same package makes in the settings: the class of a schema, the
class of a file, and what happens on the way (`generate_inPackage`, `generationEvents_inPackage`).
-/
namespace SchemaBeans

namespace RuleContext

/-- What rules share, with another package in the settings. -/
def inPackage (package : String) (context : RuleContext) : RuleContext :=
  { context with settings := { context.settings with targetPackage := package } }

/-- The package of the classes: the one that is given, or that of the settings. -/
def packageOf (context : RuleContext) (package : Option String) : String :=
  package.getD context.settings.targetPackage

variable (context : RuleContext) (package : String)

/-- Types do not depend on the package of the settings. -/
theorem ofNode_inPackage :
    PropertyType.ofNode (context.inPackage package).settings =
      PropertyType.ofNode context.settings :=
  funext (PropertyType.ofNode_congr rfl rfl)

end RuleContext

namespace Properties

variable (context : RuleContext) (package : String)

/-- Fields do not depend on the package of the settings. -/
theorem newField_inPackage : newField (context.inPackage package) = newField context := by
  funext property node
  simp only [newField, context.ofNode_inPackage package]
  rfl

/-- Methods do not depend on the package of the settings. -/
theorem newMethods_inPackage : newMethods (context.inPackage package) = newMethods context := by
  funext className property node
  simp only [newMethods, newGetter, newSetter, newBuilder, newParam,
    context.ofNode_inPackage package]
  rfl

/-- The members of a property do not depend on the package of the settings. -/
theorem addProperty_inPackage :
    addProperty (context.inPackage package) = addProperty context := by
  funext property target
  simp only [addProperty, newField_inPackage, newMethods_inPackage]
  rfl

/-- What happens at properties does not depend on the package of the settings. -/
theorem eventsOf_inPackage (properties : List (String × Json)) (target : ClassModel) :
    eventsOf (context.inPackage package) properties target =
      eventsOf context properties target := by
  induction properties generalizing target with
  | nil => rfl
  | cons property rest ih =>
    rw [eventsOf, eventsOf, ih, addProperty_inPackage]
    rfl

end Properties

namespace Rule

variable (context : RuleContext) (package : String)

/-- What a rule makes does not depend on the package of the settings. -/
theorem apply_inPackage (rule : Rule) (node : Json) (schema : Schema) (target : ClassModel) :
    rule.apply (context.inPackage package) node schema target =
      rule.apply context node schema target := by
  cases rule with
  | properties => simp only [apply, Properties.apply, Properties.addProperty_inPackage]
  | required => rfl

/-- What happens while a rule is applied does not depend on the package of the settings. -/
theorem events_inPackage (rule : Rule) (nodeName : String) (node : Json) (schema : Schema)
    (target : ClassModel) :
    rule.events (context.inPackage package) nodeName node schema target =
      rule.events context nodeName node schema target := by
  cases rule with
  | properties => simp only [events, Properties.events, Properties.eventsOf_inPackage]
  | required => rfl

/-- What rules make in order does not depend on the package of the settings. -/
theorem applyAll_inPackage (rules : List Rule) (schema : Schema) (target : ClassModel) :
    applyAll (context.inPackage package) rules schema target =
      applyAll context rules schema target := by
  have one : applyIfPresent (context.inPackage package) schema = applyIfPresent context schema := by
    funext rule target
    simp only [applyIfPresent, apply_inPackage]
  rw [applyAll, applyAll, one]

/-- What happens while rules are applied in order does not depend on the package of the
settings. -/
theorem allEvents_inPackage (nodeName : String) (schema : Schema) (rules : List Rule)
    (target : ClassModel) :
    allEvents (context.inPackage package) nodeName schema rules target =
      allEvents context nodeName schema rules target := by
  induction rules generalizing target with
  | nil => rfl
  | cons rule rest ih => simp only [allEvents, apply_inPackage, events_inPackage, ih]

end Rule

namespace RuleContext

variable (context : RuleContext) (schema : Schema) (read : FileReader) (path : String)
  (className package : Option String)

/-- A class starts in the package that is given as in that of the settings. -/
theorem emptyClass_inPackage :
    (context.inPackage (context.packageOf package)).emptyClass schema className none =
      context.emptyClass schema className package := rfl

/-- The class of a schema is the same for a package that is given as for that of the settings. -/
theorem generate_inPackage :
    (context.inPackage (context.packageOf package)).generate schema className none =
      context.generate schema className package := by
  rw [generate, generate, Rule.applyAll_inPackage, emptyClass_inPackage]

/-- What happens while a class is made is the same for a package that is given as for that of the
settings. -/
theorem generationEvents_inPackage :
    (context.inPackage (context.packageOf package)).generationEvents schema className none =
      context.generationEvents schema className package := by
  simp only [generationEvents, generate_inPackage, emptyClass_inPackage, Rule.allEvents_inPackage]

/-- The class of a file is the same for a package that is given as for that of the settings. -/
theorem generateFile_inPackage :
    (context.inPackage (context.packageOf package)).generateFile read path className none =
      context.generateFile read path className package := by
  simp only [generateFile, generate_inPackage]

/-- What happens while the class of a file is made is the same for a package that is given as for
that of the settings. -/
theorem fileEvents_inPackage :
    (context.inPackage (context.packageOf package)).fileEvents read path className none =
      context.fileEvents read path className package := by
  simp only [fileEvents, generationEvents_inPackage]

end RuleContext

namespace Batch

variable (context : RuleContext) (read : FileReader) (paths : List String)
  (package : Option String)

/-- What a run counts and gives depends on the number of workers and on what the files give. -/
theorem runFinishing_congr {first second : Batch} {finished : List String} {other : Option String}
    (workers : first.workers = second.workers)
    (outcomes : ∀ path, first.context.generateFile read path none package =
      second.context.generateFile read path none other) :
    let one := first.runFinishing finished read paths package
    let two := second.runFinishing finished read paths other
    one.1.stats = two.1.stats ∧ one.2 = two.2 := by
  intro one two
  simp only [one, two, runFinishing, outcomes, workers]
  split
  · simp only [and_self]
  · split
    · simp only [and_self]
    · split <;> simp only [and_self]

/-- A batch counts and gives the same for a package that is given as for that of the settings. -/
theorem run_inPackage :
    let settled := (Batch.new (context.inPackage (context.packageOf package))).run read paths none
    let given := (Batch.new context).run read paths package
    settled.1.stats = given.1.stats ∧ settled.2 = given.2 :=
  runFinishing_congr read paths none rfl fun path =>
    context.generateFile_inPackage read path none package

/-- What happens in a batch is the same for a package that is given as for that of the settings. -/
theorem events_inPackage :
    (Batch.new (context.inPackage (context.packageOf package))).events read paths none =
      (Batch.new context).events read paths package := by
  have job (path : String) :
      (Batch.new (context.inPackage (context.packageOf package))).jobEvents read path none =
        (Batch.new context).jobEvents read path package := by
    simp only [jobEvents, Batch.new, RuleContext.fileEvents_inPackage,
      RuleContext.generateFile_inPackage]
  simp only [events, job, (run_inPackage context read paths package).1]

end Batch

end SchemaBeans
