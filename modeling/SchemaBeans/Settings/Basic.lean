/-!
# Settings of a run

What a run generates is set by switches, by the characters that separate words, by the package and
by the number of workers. Settings are data: any values can be held, and `problems` says which
values cannot be used.
-/
namespace SchemaBeans

/-- The settings that all rules of a run share. -/
structure Settings where
  /-- Annotate required fields as not null. -/
  notNullAnnotations : Bool := false
  /-- Take validation annotations from the jakarta packages. -/
  jakarta : Bool := false
  /-- Record metadata of properties in annotations of Swagger 2. -/
  swagger2 : Bool := false
  /-- Use primitive types where there are some. -/
  primitives : Bool := false
  /-- Use the long type for integers. -/
  longIntegers : Bool := false
  /-- Add builder methods. -/
  builders : Bool := false
  /-- The characters that separate words in names of properties. -/
  wordDelimiters : String := "- _"
  /-- The package of generated classes. -/
  targetPackage : String := ""
  /-- The number of workers of a batch. -/
  maxWorkers : Int := 4
deriving DecidableEq, Repr, Inhabited

/-- Why settings cannot be used. -/
inductive SettingsProblem where
  /-- There is no worker. -/
  | workersNotPositive
  /-- No character separates words. -/
  | noDelimiters
deriving DecidableEq, Repr

/-- The wording of a problem. -/
def SettingsProblem.message : SettingsProblem → String
  | workersNotPositive => "SCHEMALOOM_MAX_WORKERS must be a positive integer"
  | noDelimiters => "SCHEMALOOM_PROPERTY_WORD_DELIMITERS must not be empty"

namespace Settings

/-- The full name of the annotation for fields that are not null. -/
def notNullAnnotation (settings : Settings) : String :=
  if settings.jakarta then "jakarta.validation.constraints.NotNull"
  else "javax.validation.constraints.NotNull"

/-- The values that cannot be used. -/
def problems (settings : Settings) : List SettingsProblem :=
  (if settings.maxWorkers < 1 then [.workersNotPositive] else []) ++
    (if settings.wordDelimiters = "" then [.noDelimiters] else [])

/-- Whether all values can be used. -/
def isValid (settings : Settings) : Bool := settings.problems.isEmpty

/-- Settings are valid when there is a worker and a delimiter. -/
theorem isValid_iff (settings : Settings) :
    settings.isValid = true ↔ 1 ≤ settings.maxWorkers ∧ settings.wordDelimiters ≠ "" := by
  by_cases workers : settings.maxWorkers < 1
  · have none : ¬1 ≤ settings.maxWorkers := by omega
    simp [isValid, problems, workers, none]
  · have some : 1 ≤ settings.maxWorkers := by omega
    by_cases delimiters : settings.wordDelimiters = "" <;>
      simp [isValid, problems, workers, some, delimiters]

end Settings

end SchemaBeans
