import SchemaBeans.Text.Printable

/-!
# Events of a run

What a run reports beside its results. An event has a level, a logger and a wording, all three
fixed by what happened. A surrogate without its partner in a name shows in a wording as its
stand-in.
-/
namespace SchemaBeans

/-- How important an event is. -/
inductive LogLevel where
  /-- For those who follow the rules at work. -/
  | debug
  /-- A step that is done. -/
  | info
  /-- Something was left out that might be missed. -/
  | warning
  /-- A file failed. -/
  | error
deriving DecidableEq, Repr

namespace LogLevel

/-- The rank of a level among those that can be set. -/
def rank : LogLevel → Nat
  | debug => 10
  | info => 20
  | warning => 30
  | error => 40

/-- The name of a level. -/
def name : LogLevel → String
  | debug => "DEBUG"
  | info => "INFO"
  | warning => "WARNING"
  | error => "ERROR"

end LogLevel

/-- Who noticed that a file failed. -/
inductive FailureReporter where
  /-- A batch of files. -/
  | batch
  /-- The command for a single file. -/
  | command
deriving DecidableEq, Repr

/-- What happened. -/
inductive Event where
  /-- A schema with the given keywords was loaded. -/
  | schemaLoaded (path : String) (keywords : List String)
  /-- A property asks to be left out. -/
  | propertyExcluded (className property : String)
  /-- A property has the field name of an earlier one. -/
  | propertyCollides (className property field : String)
  /-- A required property has no field. -/
  | requiredWithoutField (className property : String)
  /-- The metadata of a field says that it is required. -/
  | requiredRecorded (field : String)
  /-- The required names of a class were marked. -/
  | requiredMarked (className node : String) (names accessors : Nat)
  /-- A class is complete. -/
  | classGenerated (className : String) (fields methods : Nat)
  /-- A file failed. -/
  | fileFailed (reporter : FailureReporter) (path message : String)
  /-- A batch is complete. -/
  | batchComplete (succeeded failed : Nat)
deriving DecidableEq, Repr

namespace Event

/-- The level of an event. -/
def level : Event → LogLevel
  | schemaLoaded .. | propertyExcluded .. | requiredWithoutField .. | requiredRecorded ..
  | requiredMarked .. => .debug
  | classGenerated .. | batchComplete .. => .info
  | propertyCollides .. => .warning
  | fileFailed .. => .error

/-- The logger of an event. -/
def logger : Event → String
  | schemaLoaded .. => "loom_core.schema"
  | propertyExcluded .. | propertyCollides .. => "loom_rules.properties"
  | requiredWithoutField .. | requiredMarked .. => "loom_rules.required_array"
  | requiredRecorded .. => "loom_rules.annotators.swagger2"
  | classGenerated .. => "loom_rules.factory"
  | fileFailed .batch .. | batchComplete .. => "loom_rules.batch"
  | fileFailed .command .. => "loom_cli.main"

/-- The wording of an event. -/
def message : Event → String
  | schemaLoaded path keywords =>
    s!"Loaded schema {path} with keywords {Text.quotedList (keywords.mergeSort (· ≤ ·))}"
  | propertyExcluded className property =>
    s!"{className}: property '{property}' excluded from generation"
  | propertyCollides className property field =>
    s!"{className}: property '{property}' collides with field '{field}', skipping"
  | requiredWithoutField className property =>
    s!"{className}: no field for required property '{property}', skipping"
  | requiredRecorded field => s!"ApiModelProperty(required=True) on field {field}"
  | requiredMarked className node names accessors =>
    s!"{className} ({node}): {names} required name(s), {accessors} accessor name(s) resolved"
  | classGenerated className fields methods =>
    s!"Generated {className}: {fields} field(s), {methods} method(s)"
  | fileFailed _ path message => s!"Failed to generate {path}: {message}"
  | batchComplete succeeded failed =>
    s!"Generation complete: {succeeded} succeeded, {failed} failed"

end Event

end SchemaBeans
