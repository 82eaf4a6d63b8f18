import SchemaBeans.Entries
import SchemaBeans.Settings.Basic
import SchemaBeans.Text.Case
import SchemaBeans.Text.Numerals

/-!
# Settings from the environment

Every setting has a variable. A switch is on if its variable holds one of a few words, in any case
and with blanks around it. A number of workers that cannot be read counts as zero, which validation
reports. Values given otherwise, as on a command line, take precedence.
-/
namespace SchemaBeans

/-- The variables of a process with their values. -/
abbrev Environment := Entries String

/-- Values that take precedence over the environment. -/
structure SettingsOverrides where
  /-- The value for `Settings.notNullAnnotations`. -/
  notNullAnnotations : Option Bool := none
  /-- The value for `Settings.jakarta`. -/
  jakarta : Option Bool := none
  /-- The value for `Settings.swagger2`. -/
  swagger2 : Option Bool := none
  /-- The value for `Settings.primitives`. -/
  primitives : Option Bool := none
  /-- The value for `Settings.longIntegers`. -/
  longIntegers : Option Bool := none
  /-- The value for `Settings.builders`. -/
  builders : Option Bool := none
  /-- The value for `Settings.wordDelimiters`. -/
  wordDelimiters : Option String := none
  /-- The value for `Settings.targetPackage`. -/
  targetPackage : Option String := none
  /-- The value for `Settings.maxWorkers`. -/
  maxWorkers : Option Int := none
deriving DecidableEq, Repr, Inhabited

namespace Environment

/-- The variables that make settings. -/
def variableNames : List String := [
  "SCHEMALOOM_INCLUDE_JSR303_ANNOTATIONS", "SCHEMALOOM_USE_JAKARTA_VALIDATION",
  "SCHEMALOOM_INCLUDE_SWAGGER2_ANNOTATIONS", "SCHEMALOOM_USE_PRIMITIVES",
  "SCHEMALOOM_USE_LONG_INTEGERS", "SCHEMALOOM_GENERATE_BUILDERS",
  "SCHEMALOOM_PROPERTY_WORD_DELIMITERS", "SCHEMALOOM_TARGET_PACKAGE", "SCHEMALOOM_MAX_WORKERS"]

/-- The words that turn a switch on. -/
def trueWords : List String := ["1", "true", "yes", "on"]

/-- Whether a text turns a switch on. -/
def isTrueWord (text : String) : Bool :=
  trueWords.contains (String.ofList ((Text.trim Text.isBlank text.toList).flatMap Text.lower))

/-- Whether a variable turns a switch on. -/
def flag (environment : Environment) (name : String) : Bool :=
  (environment.get? name).any isTrueWord

/-- The text of a variable. -/
def text (environment : Environment) (name : String) (default : String) : String :=
  (environment.get? name).getD default

/-- The integer of a variable: the default without a text, and zero for a text that is none. -/
def integer (environment : Environment) (name : String) (default : Int) : Int :=
  match environment.get? name with
  | none | some "" => default
  | some text => (Text.integer? text).getD 0

/-- The settings that the variables make. -/
def settings (environment : Environment) : Settings where
  notNullAnnotations := environment.flag "SCHEMALOOM_INCLUDE_JSR303_ANNOTATIONS"
  jakarta := environment.flag "SCHEMALOOM_USE_JAKARTA_VALIDATION"
  swagger2 := environment.flag "SCHEMALOOM_INCLUDE_SWAGGER2_ANNOTATIONS"
  primitives := environment.flag "SCHEMALOOM_USE_PRIMITIVES"
  longIntegers := environment.flag "SCHEMALOOM_USE_LONG_INTEGERS"
  builders := environment.flag "SCHEMALOOM_GENERATE_BUILDERS"
  wordDelimiters :=
    environment.text "SCHEMALOOM_PROPERTY_WORD_DELIMITERS" ({} : Settings).wordDelimiters
  targetPackage := environment.text "SCHEMALOOM_TARGET_PACKAGE" ({} : Settings).targetPackage
  maxWorkers := environment.integer "SCHEMALOOM_MAX_WORKERS" ({} : Settings).maxWorkers

end Environment

namespace Settings

/-- Settings with the values that take precedence. -/
def override (settings : Settings) (overrides : SettingsOverrides) : Settings where
  notNullAnnotations := overrides.notNullAnnotations.getD settings.notNullAnnotations
  jakarta := overrides.jakarta.getD settings.jakarta
  swagger2 := overrides.swagger2.getD settings.swagger2
  primitives := overrides.primitives.getD settings.primitives
  longIntegers := overrides.longIntegers.getD settings.longIntegers
  builders := overrides.builders.getD settings.builders
  wordDelimiters := overrides.wordDelimiters.getD settings.wordDelimiters
  targetPackage := overrides.targetPackage.getD settings.targetPackage
  maxWorkers := overrides.maxWorkers.getD settings.maxWorkers

/-- The settings that the environment makes, with the values that take precedence. -/
def ofEnvironment (environment : Environment) (overrides : SettingsOverrides := {}) : Settings :=
  environment.settings.override overrides

end Settings

end SchemaBeans
