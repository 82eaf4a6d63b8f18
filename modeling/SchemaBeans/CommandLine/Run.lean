import SchemaBeans.CommandLine.Options
import SchemaBeans.Log.Record
import SchemaBeans.Report.Class

/-!
# Running the program

A run maps arguments, environment and files to an exit code, two texts and a log. The code is zero
for success, one if a file failed, and two if the arguments or the settings cannot be used. A class
with a given name is generated on its own and any other file in a batch; both report alike.

A report that shows a surrogate without its partner cannot be printed: the run fails, and what it
prints before that is left out. A surrogate that the standard output takes all the same shows in the
text of the output as its stand-in.
-/
namespace SchemaBeans.CommandLine

/-- What a run of the program gives. -/
structure RunResult where
  /-- The exit code. -/
  code : Nat
  /-- The text of the standard output. -/
  output : String := ""
  /-- The text of the standard error stream. -/
  errors : String := ""
  /-- The records of the log. -/
  log : List String := []
deriving DecidableEq, Repr

/-- What a run gives that ends before a command. -/
def Refusal.result : Refusal → RunResult
  | help topic => { code := 0, output := Report.unlines topic.helpLines }
  | usage topic error =>
    { code := 2
      errors := Report.unlines (topic.usageLines ++ [s!"{topic.name}: error: {error.message}"]) }

/-- Lines that list the rules. -/
def ruleLines : List String :=
  Rule.standard.zipIdx.map fun (rule, index) =>
    let padding := String.ofList (List.replicate (12 - rule.keyword.length) ' ')
    s!"  {index + 1}. {rule.keyword}{padding} {rule.description}"

/-- What the command for a single file gives, with what happens. -/
def generateSingle (context : RuleContext) (read : FileReader) (path : String)
    (className package : Option String) : Except Failure BatchResult × List Event :=
  let events := context.fileEvents read path className package
  match context.generateFile read path className package with
  | .ok target => (.ok { classes := [(path, target)] }, events)
  | .error failure =>
    if failure.isReported then
      (.ok { errors := [(path, failure.message)] },
        events ++ [.fileFailed .command path failure.message])
    else (.error failure, events)

/-- What the command for files gives, with what happens. -/
def generateResult (context : RuleContext) (read : FileReader) (options : GenerateOptions) :
    Except Failure BatchResult × List Event :=
  match options.schemas, options.className.filter (· ≠ "") with
  | [path], some className => generateSingle context read path (some className) options.package
  | paths, _ =>
    let batch := Batch.new context
    ((batch.run read paths options.package).2, batch.events read paths options.package)

/-- The text of a result: its report and the lines for its errors. -/
def showResult (result : BatchResult) (json : Bool) : String × String :=
  if json then
    ((Report.ofRun result.classes result.errors).render (.indented 2) ++ "\n", "")
  else (Report.unlines (Report.runLines result), Report.unlines (Report.errorLines result))

/-- What the command gives for a result of files. -/
def resultOf (log : LogSettings) (events : List Event) (json : Bool) (result : BatchResult) :
    RunResult :=
  let shown := showResult result json
  { code := if result.success then 0 else 1
    output := shown.1
    errors := shown.2
    log := log.records events }

/-- Whether the standard output takes what a report shows of a class, given the surrogates in its
schema that are without their partners. JSON takes none of them. -/
def Platform.takesClass (platform : Platform) (json : Bool) (unpaired : List (Nat × Char))
    (target : ClassModel) : Bool :=
  unpaired.all fun (unit, standIn) =>
    (!json && platform.takesUnit unit) ||
      (Report.schemaTexts json target).all (!·.toList.contains standIn)

/-- Whether the standard output takes the report of a result. -/
def Platform.takesReport (platform : Platform) (read : FileReader) (json : Bool)
    (result : BatchResult) : Bool :=
  result.classes.all fun entry =>
    platform.takesClass json (Schema.unpaired read entry.1) entry.2

/-- Run the command that generates classes. A number of workers that was dropped is missed once the
settings are to be used. -/
def runGenerate (log : LogSettings) (environment : Environment) (read : FileReader)
    (options : GenerateOptions) (platform : Platform := {}) : Except Failure RunResult :=
  let settings := Settings.ofEnvironment environment options.overrides
  if options.className.any (· ≠ "") && 1 < options.schemas.length then
    .ok { code := 2, errors := "--class-name can only be used with a single schema\n" }
  else if options.workersDropped then .error .missingWorkers
  else if settings.isValid then
    let (result, events) := generateResult (.ofSettings settings) read options
    result.bind fun result =>
      if platform.takesReport read options.json result then
        .ok (resultOf log events options.json result)
      else .error .unpairedSurrogate
  else
    let problems := "; ".intercalate (settings.problems.map (·.message))
    .ok { code := 2, errors := s!"Invalid configuration: {problems}\n" }

/-- The least rank of the events that a log keeps. -/
def LogOptions.threshold (log : LogOptions) : Except Failure Nat :=
  match log.level with
  | some name => thresholdOf name
  | none => .error .missingLogLevel

/-- Run a command. -/
def runInvocation (environment : Environment) (read : FileReader) (invocation : Invocation)
    (platform : Platform := {}) : Except Failure RunResult := do
  let threshold ← invocation.log.threshold
  match invocation.command with
  | .overview => return { code := 0, output := Report.unlines Topic.program.helpLines }
  | .rules => return { code := 0, output := Report.unlines ruleLines }
  | .generate options =>
    runGenerate ⟨threshold, invocation.log.json⟩ environment read options platform

/-- Run the program. -/
def run (arguments : List String) (environment : Environment) (read : FileReader)
    (platform : Platform := {}) : Except Failure RunResult :=
  match readInvocation arguments platform with
  | .error refusal => .ok refusal.result
  | .ok invocation => runInvocation environment read invocation platform

end SchemaBeans.CommandLine
