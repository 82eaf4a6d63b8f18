import SchemaBeans.CommandLine.Run
import SchemaBeans.Proofs.CommandLine.Reading
import SchemaBeans.Proofs.Entries
import SchemaBeans.Proofs.Generation.Package
import SchemaBeans.Proofs.Text.Numerals

/-!
# Options and variables are interchangeable

Seven options of the command for files have a variable each. A run depends on its options and on the
environment through its settings, among which the package that is given counts as that of the
settings (`runGenerate_congr`). An option that is withdrawn while its variable gets its value leaves
these settings as they were (`settings_move`), and so does any number of options
(`Moved.settings_eq`): the run is the same (`run_moved`).
-/
namespace SchemaBeans

namespace Environment

variable (environment : Environment) (name other text : String)

/-- A switch after a variable was set. -/
theorem flag_put :
    flag (Entries.put name text environment) other =
      if other = name then isTrueWord text else environment.flag other := by
  rw [flag, Entries.get?_put]
  split
  · rw [Option.any_some]
  · rfl

/-- A text after a variable was set. -/
theorem text_put (default : String) :
    Environment.text (Entries.put name text environment) other default =
      if other = name then text else environment.text other default := by
  rw [Environment.text, Entries.get?_put]
  split
  · rw [Option.getD_some]
  · rfl

/-- An integer after a variable was set. -/
theorem integer_put (default : Int) :
    integer (Entries.put name text environment) other default =
      if other = name then if text = "" then default else (Text.integer? text).getD 0
      else environment.integer other default := by
  unfold integer
  rw [Entries.get?_put]
  by_cases same : other = name
  · rw [if_pos same, if_pos same]
    by_cases empty : text = ""
    · simp only [empty, if_true]
    · simp only [if_neg empty]
  · rw [if_neg same, if_neg same]

end Environment

namespace CommandLine

/-- An option that turns a setting on and has a variable. -/
inductive Switch where
  /-- The option `--jsr303`. -/
  | notNullAnnotations
  /-- The option `--jakarta`. -/
  | jakarta
  /-- The option `--swagger2`. -/
  | swagger2
  /-- The option `--primitives`. -/
  | primitives
  /-- The option `--builders`. -/
  | builders
deriving DecidableEq, Repr

namespace Switch

/-- The variable of a switch. -/
def variableName : Switch → String
  | notNullAnnotations => "SCHEMALOOM_INCLUDE_JSR303_ANNOTATIONS"
  | jakarta => "SCHEMALOOM_USE_JAKARTA_VALIDATION"
  | swagger2 => "SCHEMALOOM_INCLUDE_SWAGGER2_ANNOTATIONS"
  | primitives => "SCHEMALOOM_USE_PRIMITIVES"
  | builders => "SCHEMALOOM_GENERATE_BUILDERS"

/-- The value of a switch, if it is given. -/
def given? (overrides : SettingsOverrides) : Switch → Option Bool
  | notNullAnnotations => overrides.notNullAnnotations
  | jakarta => overrides.jakarta
  | swagger2 => overrides.swagger2
  | primitives => overrides.primitives
  | builders => overrides.builders

/-- What is given besides a switch. -/
def withdraw (overrides : SettingsOverrides) : Switch → SettingsOverrides
  | notNullAnnotations => { overrides with notNullAnnotations := none }
  | jakarta => { overrides with jakarta := none }
  | swagger2 => { overrides with swagger2 := none }
  | primitives => { overrides with primitives := none }
  | builders => { overrides with builders := none }

end Switch

/-- An option that has a variable. -/
inductive SharedOption where
  /-- An option that turns a setting on. -/
  | flag (switch : Switch)
  /-- The option `--workers`. -/
  | workers
  /-- The option `--package`. -/
  | package
deriving DecidableEq, Repr

namespace SharedOption

/-- The variable of an option. -/
def variableName : SharedOption → String
  | flag switch => switch.variableName
  | workers => "SCHEMALOOM_MAX_WORKERS"
  | package => "SCHEMALOOM_TARGET_PACKAGE"

/-- What is given besides an option. -/
def withdraw (options : GenerateOptions) : SharedOption → GenerateOptions
  | flag switch => { options with overrides := switch.withdraw options.overrides }
  | workers => { options with overrides := { options.overrides with maxWorkers := none } }
  | package => { options with package := none }

/-- An option is given, and its variable holds the value with a text. -/
inductive HeldBy (options : GenerateOptions) : SharedOption → String → Prop where
  /-- A word that turns it on holds a switch. -/
  | flag {switch : Switch} {text : String} (given : switch.given? options.overrides = some true)
    (word : Environment.isTrueWord text = true) : HeldBy options (.flag switch) text
  /-- A decimal numeral holds the number of workers. -/
  | workers {count : Int} {text : String} (given : options.overrides.maxWorkers = some count)
    (decimal : Text.Decimal count text.toList) : HeldBy options .workers text
  /-- The package is held as it is, even if it is empty. -/
  | package {text : String} (given : options.package = some text) : HeldBy options .package text

end SharedOption

/-- Some options of a run were moved to the environment, where they replace what was there. -/
inductive Moved (environment : Environment) (options : GenerateOptions) :
    Environment → GenerateOptions → Prop where
  /-- No option was moved. -/
  | none : Moved environment options environment options
  /-- One more option was moved. -/
  | more {changed : Environment} {left : GenerateOptions} {option : SharedOption} {text : String}
    (moved : Moved environment options changed left) (held : option.HeldBy left text) :
    Moved environment options (Entries.put option.variableName text changed) (option.withdraw left)

/-- The settings of a run, in which the package that is given is that of the classes. -/
def GenerateOptions.settings (options : GenerateOptions) (environment : Environment) : Settings :=
  let settings := Settings.ofEnvironment environment options.overrides
  { settings with targetPackage := options.package.getD settings.targetPackage }

/-- An option that is moved leaves the settings as they were. -/
theorem settings_move {options : GenerateOptions} (plain : options.NoPackage)
    (environment : Environment) {option : SharedOption} {text : String}
    (held : option.HeldBy options text) :
    (option.withdraw options).settings (Entries.put option.variableName text environment) =
      options.settings environment := by
  unfold GenerateOptions.NoPackage at plain
  simp only [GenerateOptions.settings, Settings.ofEnvironment, Settings.override,
    Environment.settings, Environment.flag_put, Environment.text_put, Environment.integer_put]
  cases held with
  | @flag switch _ given word =>
    cases switch <;>
    · rw [Switch.given?] at given
      simp [SharedOption.withdraw, SharedOption.variableName, Switch.withdraw, Switch.variableName,
        given, word]
  | workers given decimal =>
    simp [SharedOption.withdraw, SharedOption.variableName, given, decimal.ne_empty,
      decimal.integer?_eq]
  | package given => simp [SharedOption.withdraw, SharedOption.variableName, given, plain]

/-- Options differ at most in the settings that they give. -/
structure Alike (left options : GenerateOptions) : Prop where
  /-- The files are the same. -/
  schemas : left.schemas = options.schemas
  /-- The name of the class is the same. -/
  className : left.className = options.className
  /-- The form of the report is the same. -/
  json : left.json = options.json
  /-- A number of workers was dropped from both or from neither. -/
  workersDropped : left.workersDropped = options.workersDropped

/-- Options that are like others are like those that the others are like. -/
theorem Alike.trans {first second third : GenerateOptions} (before : Alike first second)
    (after : Alike second third) : Alike first third where
  schemas := before.schemas.trans after.schemas
  className := before.className.trans after.className
  json := before.json.trans after.json
  workersDropped := before.workersDropped.trans after.workersDropped

/-- An option that is withdrawn leaves all but the settings, and puts no package among them. -/
theorem alike_withdraw (options : GenerateOptions) (option : SharedOption) :
    Alike (option.withdraw options) options ∧
      (options.NoPackage → (option.withdraw options).NoPackage) := by
  cases option with
  | flag switch => cases switch <;> exact ⟨⟨rfl, rfl, rfl, rfl⟩, id⟩
  | workers => exact ⟨⟨rfl, rfl, rfl, rfl⟩, id⟩
  | package => exact ⟨⟨rfl, rfl, rfl, rfl⟩, id⟩

/-- Options that are moved leave the settings and the rest as they were. -/
theorem Moved.keeps {environment changed : Environment} {options left : GenerateOptions}
    (plain : options.NoPackage) (moved : Moved environment options changed left) :
    left.NoPackage ∧ Alike left options ∧ left.settings changed = options.settings environment := by
  induction moved with
  | none => exact ⟨plain, ⟨rfl, rfl, rfl, rfl⟩, rfl⟩
  | @more changed left option text moved held ih =>
    obtain ⟨noPackage, alike, same⟩ := ih
    obtain ⟨again, kept⟩ := alike_withdraw left option
    have unmoved := settings_move noPackage changed held
    exact ⟨kept noPackage, again.trans alike, unmoved.trans same⟩

/-- The command for files gives the same for a package that is given as for that of the
settings. -/
theorem generateResult_inPackage (context : RuleContext) (read : FileReader)
    (options : GenerateOptions) :
    generateResult (context.inPackage (context.packageOf options.package)) read
        { options with package := none } =
      generateResult context read options := by
  unfold generateResult
  simp only []
  split
  · simp only [generateSingle, RuleContext.generateFile_inPackage, RuleContext.fileEvents_inPackage]
  · simp only [Batch.events_inPackage, (Batch.run_inPackage context read _ options.package).2]

/-- What the command for files gives depends on its settings, its files and the name of the
class. -/
theorem generateResult_congr {environment changed : Environment} {options left : GenerateOptions}
    (alike : Alike left options) (same : left.settings changed = options.settings environment)
    (read : FileReader) :
    generateResult (.ofSettings (Settings.ofEnvironment changed left.overrides)) read left =
      generateResult (.ofSettings (Settings.ofEnvironment environment options.overrides)) read
        options := by
  have settled (environment : Environment) (options : GenerateOptions) :
      generateResult (.ofSettings (Settings.ofEnvironment environment options.overrides)) read
          options =
        generateResult (.ofSettings (options.settings environment)) read
          { options with package := none } :=
    (generateResult_inPackage
      (.ofSettings (Settings.ofEnvironment environment options.overrides)) read options).symm
  rw [settled, settled, same]
  simp only [generateResult, alike.schemas, alike.className]

/-- A run depends on its settings, its files, the name of the class and the form of the report. -/
theorem runGenerate_congr (log : LogSettings) {environment changed : Environment}
    {options left : GenerateOptions} (alike : Alike left options)
    (same : left.settings changed = options.settings environment) (read : FileReader)
    (platform : Platform) :
    runGenerate log changed read left platform =
      runGenerate log environment read options platform := by
  -- No problem is one of the package.
  have problems : (Settings.ofEnvironment changed left.overrides).problems =
      (Settings.ofEnvironment environment options.overrides).problems := by
    have whole : (left.settings changed).problems = (options.settings environment).problems := by
      rw [same]
    exact whole
  simp only [runGenerate, Settings.isValid, problems, generateResult_congr alike same read,
    alike.schemas, alike.className, alike.json, alike.workersDropped]
  rfl

/-- Options and variables are interchangeable. A run with some of its options moved to the
environment, where they replace what was there, is the run with these options; and so is the run of
any arguments that give the other options. -/
theorem run_moved {arguments : List String} {environment changed : Environment} {log : LogOptions}
    {options left : GenerateOptions} {platform : Platform}
    (understood : readInvocation arguments platform = .ok ⟨log, .generate options⟩)
    (moved : Moved environment options changed left) (read : FileReader) :
    runInvocation changed read ⟨log, .generate left⟩ platform =
        run arguments environment read platform ∧
      ∀ fewer, readInvocation fewer platform = .ok ⟨log, .generate left⟩ →
        run fewer changed read platform = run arguments environment read platform := by
  obtain ⟨_, alike, same⟩ := moved.keeps (noPackage_of_read understood)
  have interchanged : runInvocation changed read ⟨log, .generate left⟩ platform =
      run arguments environment read platform := by
    simp only [run, understood, runInvocation, runGenerate_congr _ alike same read platform]
  refine ⟨interchanged, fun fewer others => ?_⟩
  rw [← interchanged, run, others]

/-- Less than one worker is refused alike, and an empty package replaces another alike, whether they
are options or variables. -/
theorem run_moved_workers_and_package :
    let environment : Environment :=
      [("SCHEMALOOM_TARGET_PACKAGE", "org.sample"), ("SCHEMALOOM_MAX_WORKERS", "8")]
    let changed (workers : String) : Environment :=
      [("SCHEMALOOM_TARGET_PACKAGE", ""), ("SCHEMALOOM_MAX_WORKERS", workers),
        ("SCHEMALOOM_INCLUDE_JSR303_ANNOTATIONS", " Yes ")]
    let arguments (workers : String) :=
      ["generate", "--jsr303", "--workers", workers, "--package", "", "user.json"]
    let fewer := ["generate", "user.json"]
    let schema := "\x7b\"required\": [\"id\"], \"properties\": \x7b\"id\": \x7b\x7d\x7d\x7d"
    let bytes := schema.toList.map fun c => UInt8.ofNat c.toNat
    let read : FileReader := (Tree.addFile {} "user.json" bytes).read
    let outcome (workers : String) :=
      (run (arguments workers) environment read).toOption.map fun shown =>
        (shown.code, shown.errors)
    run fewer (changed "-1") read = run (arguments "-1") environment read ∧
      run fewer (changed "+02") read = run (arguments "2") environment read ∧
      outcome "-1" = some (2,
        "Invalid configuration: SCHEMALOOM_MAX_WORKERS must be a positive integer\n") ∧
      outcome "2" = some (0, "") := by
  intro environment changed arguments fewer schema bytes read outcome
  let options (count : Int) : GenerateOptions :=
    { schemas := ["user.json"], package := some ""
      overrides := { notNullAnnotations := some true, maxWorkers := some count } }
  let left : GenerateOptions := { schemas := ["user.json"] }
  -- The variables are set one after the other, and each option is withdrawn with its variable.
  have moved {count : Int} {workers : String} (decimal : Text.Decimal count workers.toList) :
      Moved environment (options count) (changed workers) left := by
    have package : Moved environment (options count) _ _ := Moved.none.more (.package rfl)
    have numbered := package.more (.workers rfl decimal)
    have word : Environment.isTrueWord " Yes " = true := by decide +kernel
    exact numbered.more (@SharedOption.HeldBy.flag _ .notNullAnnotations _ rfl word)
  have minus : Text.Decimal (-1) "-1".toList :=
    @Text.Decimal.minus ['1'] ⟨by decide, List.all_eq_true.mp rfl, by decide⟩
  have plus : Text.Decimal 2 "+02".toList :=
    @Text.Decimal.plus ['0', '2'] ⟨by decide, List.all_eq_true.mp rfl, by decide⟩
  have negative : readInvocation (arguments "-1") = .ok ⟨{}, .generate (options (-1))⟩ := rfl
  have positive : readInvocation (arguments "2") = .ok ⟨{}, .generate (options 2)⟩ := rfl
  have others : readInvocation fewer = .ok ⟨{}, .generate left⟩ := rfl
  refine ⟨?_, ?_, by decide +kernel, by decide +kernel⟩
  · exact (run_moved negative (moved minus) read).2 fewer others
  · exact (run_moved positive (moved plus) read).2 fewer others

end CommandLine

end SchemaBeans
