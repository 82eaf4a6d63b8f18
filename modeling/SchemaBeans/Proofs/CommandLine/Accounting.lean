import SchemaBeans.Proofs.Batch.Scheduling
import SchemaBeans.Proofs.CommandLine.ClassName
import SchemaBeans.Proofs.CommandLine.Reading
import SchemaBeans.Proofs.Report.Lines
import SchemaBeans.Proofs.Report.ReadBack

/-!
# Accounting for files

The command for files refuses one name for several classes and settings that cannot be used. In any
other case its result accounts for its files, which may be given more than once: each distinct path
is that of one class or of one message (`BatchResult.AccountsFor`). Both ways in which a report is
printed show the two counts, and the exit code says whether there is a message (`Accounts`). Besides
a file that escapes, two things keep a run from this: a level of the log that is the name of
something else, and a class whose report the standard output does not take (`run_accounts_iff`). The
latter shows a surrogate without its partner, and there is none in a schema of Unicode text
(`printable_of_unpaired_eq_nil`). An argument parser that drops values adds a third: a level or a
number of workers that it leaves without a value.
-/
namespace SchemaBeans

open BatchProgress

/-- A result accounts for paths whose files have the given outcomes. -/
structure BatchResult.AccountsFor (result : BatchResult) (paths : List String)
    (outcome : String → Except Failure ClassModel) : Prop where
  /-- The classes are those of the distinct paths that have one, in the order of the paths. -/
  classes : result.classes.keys =
    paths.eraseDups.filter fun path => (class? (outcome path)).isSome
  /-- The messages are those of the distinct paths that failed, in the order of the paths. -/
  errors : result.errors.keys =
    paths.eraseDups.filter fun path => (message? (outcome path)).isSome
  /-- A class is that of its path. -/
  ownClass : ∀ path target, (path, target) ∈ result.classes → outcome path = .ok target
  /-- A message is that of its path. -/
  ownMessage : ∀ path message, (path, message) ∈ result.errors →
    ∃ failure, outcome path = .error failure ∧ failure.message = message
  /-- Each distinct path has one of both. -/
  once : (result.classes.keys ++ result.errors.keys).Perm paths.eraseDups
  /-- There are as many of both as there are distinct paths. -/
  counted : result.classes.length + result.errors.length = paths.eraseDups.length

/-- The classes in the result of outcomes are those of paths that have one. -/
theorem Batch.mem_classes_resultOf {outcome : String → Except Failure ClassModel}
    {paths : List String} {path : String} {target : ClassModel} :
    (path, target) ∈ (resultOf outcome paths).classes ↔
      path ∈ paths ∧ outcome path = .ok target :=
  Entries.mem_ofKeys.trans (and_congr_right' class?_eq_some_iff)

/-- The result of outcomes accounts for the paths. -/
theorem Batch.accountsFor_resultOf (outcome : String → Except Failure ClassModel)
    (paths : List String) : (resultOf outcome paths).AccountsFor paths outcome := by
  have classes : (resultOf outcome paths).classes.keys =
      paths.eraseDups.filter fun path => (class? (outcome path)).isSome :=
    Entries.keys_ofKeys _ paths
  have errors : (resultOf outcome paths).errors.keys =
      paths.eraseDups.filter fun path => (message? (outcome path)).isSome :=
    Entries.keys_ofKeys _ paths
  have others : (paths.eraseDups.filter fun path => (message? (outcome path)).isSome) =
      paths.eraseDups.filter fun path => !(class? (outcome path)).isSome :=
    List.filter_congr fun path _ => Bool.eq_iff_iff.mpr (by simp [isSome_message?_iff])
  have once : ((resultOf outcome paths).classes.keys ++ (resultOf outcome paths).errors.keys).Perm
      paths.eraseDups := by
    rw [classes, errors, others]
    exact List.filter_append_perm _ _
  constructor
  case classes => exact classes
  case errors => exact errors
  case ownClass => exact fun path target member => (mem_classes_resultOf.mp member).2
  case ownMessage =>
    intro path message member
    have said : message? (outcome path) = some message := (Entries.mem_ofKeys.mp member).2
    cases ended : outcome path with
    | ok target =>
      rw [ended] at said
      cases said
    | error failure =>
      rw [ended] at said
      exact ⟨failure, rfl, Option.some.inj said⟩
  case once => exact once
  case counted => simpa [Entries.keys] using once.length_eq

/-- A single file has a result exactly if it does not stop a run, and then that of its outcome. -/
theorem BatchResult.ofOutcome_eq_ok_iff {outcome : String → Except Failure ClassModel}
    {path : String} {result : BatchResult} :
    ofOutcome path (outcome path) = .ok result ↔
      ¬Stopping (outcome path) ∧ result = Batch.resultOf outcome [path] := by
  have alone {α : Type} (value? : String → Option α) :
      Entries.ofKeys value? [path] = ((value? path).map (path, ·)).toList := by
    cases given : value? path <;> simp [Entries.ofKeys, List.eraseDups_cons, given]
  rw [Batch.resultOf, alone, alone]
  cases outcome path with
  | ok target =>
    have calm : ¬Stopping (.ok target) := by simp [Stopping]
    simp [ofOutcome, calm, class?, message?, @eq_comm _ result]
  | error failure =>
    cases reported : failure.isReported with
    | true =>
      have calm : ¬Stopping (.error failure) := by simp [Stopping, reported]
      simp [ofOutcome, reported, calm, class?, message?, @eq_comm _ result]
    | false =>
      have stops : Stopping (.error failure) := ⟨failure, rfl, reported⟩
      simp [ofOutcome, reported, stops]

namespace CommandLine

section Command

variable {environment : Environment} {read : FileReader} {options : GenerateOptions}
  {platform : Platform}

/-- The outcome of the file under a path, as options ask for it. -/
def GenerateOptions.outcome (options : GenerateOptions) (environment : Environment)
    (read : FileReader) (path : String) : Except Failure ClassModel :=
  (RuleContext.ofSettings (Settings.ofEnvironment environment options.overrides)).generateFile read
    path (options.className.filter (· ≠ "")) options.package

/-- Options that give one name to the classes of several files. -/
def GenerateOptions.NamesSeveral (options : GenerateOptions) : Prop :=
  (∃ className, options.className = some className ∧ className ≠ "") ∧ 1 < options.schemas.length

/-- Options that are refused: they give one name to several classes, or there is no worker or no
delimiter in the settings that they make with the environment. -/
def GenerateOptions.Refused (options : GenerateOptions) (environment : Environment) : Prop :=
  options.NamesSeveral ∨
    let settings := Settings.ofEnvironment environment options.overrides
    settings.maxWorkers < 1 ∨ settings.wordDelimiters = ""

/-- Options that miss a number of workers that was dropped, because nothing is refused before it is
looked at. -/
def GenerateOptions.MissesWorkers (options : GenerateOptions) : Prop :=
  options.workersDropped = true ∧ ¬options.NamesSeveral

/-- The standard output takes what the report that options ask for shows of each class. -/
def GenerateOptions.Printable (options : GenerateOptions) (environment : Environment)
    (read : FileReader) (platform : Platform) : Prop :=
  ∀ path ∈ options.schemas, ∀ target, options.outcome environment read path = .ok target →
    platform.takesClass options.json (Schema.unpaired read path) target = true

/-- Schemas of Unicode text, which hold no surrogate without its partner, keep no class from being
printed. -/
theorem printable_of_unpaired_eq_nil
    (unicode : ∀ path ∈ options.schemas, Schema.unpaired read path = []) :
    options.Printable environment read platform := by
  intro path given target _
  rw [unicode path given]
  rfl

/-- The texts that lines show of a class are shown as JSON too. -/
theorem schemaTexts_subset (target : ClassModel) :
    Report.schemaTexts false target ⊆ Report.schemaTexts true target := by
  simp only [Report.schemaTexts, List.append_assoc, Bool.false_eq_true, if_false, if_true,
    List.nil_append]
  exact List.subset_append_right _ _

/-- The standard output takes the lines of a class if it takes its JSON. -/
theorem takesClass_false_of_true {unpaired : List (Nat × Char)} {target : ClassModel}
    (taken : platform.takesClass true unpaired target = true) :
    platform.takesClass false unpaired target = true := by
  simp only [Platform.takesClass, List.all_eq_true, Bool.not_true, Bool.false_and, Bool.false_or]
    at taken
  simp only [Platform.takesClass, List.all_eq_true, Bool.or_eq_true]
  intro surrogate member
  exact .inr fun text shown => taken surrogate member text (schemaTexts_subset target shown)

/-- Lines can be printed where JSON can. -/
theorem printable_false_of_true
    (printable : { options with json := true }.Printable environment read platform) :
    { options with json := false }.Printable environment read platform :=
  fun path given target made => takesClass_false_of_true (printable path given target made)

/-- The standard output takes a report exactly if its classes can be printed. -/
theorem takesReport_iff :
    platform.takesReport read options.json
        (Batch.resultOf (options.outcome environment read) options.schemas) = true ↔
      options.Printable environment read platform := by
  simp only [Platform.takesReport, List.all_eq_true, Prod.forall, Batch.mem_classes_resultOf,
    and_imp]
  exact ⟨fun taken path given target made => taken path target given made,
    fun printable path target given made => printable path given target made⟩

/-- The command looks for a name that is given to several classes. -/
theorem namesSeveral_iff :
    (options.className.any (· ≠ "") && decide (1 < options.schemas.length)) = true ↔
      options.NamesSeveral := by
  unfold GenerateOptions.NamesSeveral
  cases options.className <;> simp

/-- Settings are not valid exactly if there is no worker or no delimiter. -/
theorem not_isValid_iff {settings : Settings} :
    ¬settings.isValid = true ↔ settings.maxWorkers < 1 ∨ settings.wordDelimiters = "" := by
  rw [settings.isValid_iff, not_and_or, Int.not_le, ne_eq, not_not]

/-- The command for files has a result exactly if no file stops it, and then that of the outcomes of
its files, whichever way it takes. -/
theorem generateResult_eq_ok_iff {result : BatchResult}
    (valid : (Settings.ofEnvironment environment options.overrides).isValid = true)
    (single : ¬options.NamesSeveral) :
    let context := RuleContext.ofSettings (Settings.ofEnvironment environment options.overrides)
    (generateResult context read options).1 = .ok result ↔
      (∀ path ∈ options.schemas, ¬Stopping (options.outcome environment read path)) ∧
        result = Batch.resultOf (options.outcome environment read) options.schemas := by
  intro context
  have working : 1 ≤ context.settings.maxWorkers := ((Settings.isValid_iff _).mp valid).1
  by_cases alone : ∃ path, options.schemas = [path]
  · obtain ⟨path, alone⟩ := alone
    rw [fst_generateResult working read alone, alone, List.forall_mem_singleton]
    exact @BatchResult.ofOutcome_eq_ok_iff (options.outcome environment read) path result
  · have batch : (generateResult context read options).1 =
        ((Batch.new context).run read options.schemas options.package).2 := by
      unfold generateResult
      split
      · rename_i path _ given _
        exact absurd ⟨path, given⟩ alone
      · rfl
    rw [batch]
    cases named : options.className.filter (· ≠ "") with
    | none =>
      have same : options.outcome environment read =
          (Batch.new context).outcome read options.package := by
        funext path
        rw [GenerateOptions.outcome, named]
        rfl
      rw [same]
      exact Batch.runFinishing_eq_ok_iff working (List.Perm.refl options.schemas)
    | some className =>
      -- A name is given for a single file only, so there is no file here.
      have none : options.schemas = [] := by
        obtain ⟨given, nonempty⟩ := Option.filter_eq_some_iff.mp named
        rcases paths : options.schemas with _ | ⟨first, _ | ⟨second, rest⟩⟩
        · rfl
        · exact absurd ⟨first, paths⟩ alone
        · exact absurd ⟨⟨className, given, by simpa using nonempty⟩, by simp [paths]⟩ single
      rw [none]
      simp [Batch.run, Batch.runFinishing, Batch.resultOf, Entries.ofKeys, @eq_comm _ result]

/-- The texts that show a result as lines. -/
structure PrintsText (result : BatchResult) (shown : RunResult) : Prop where
  /-- There is a block for each class, which starts with its name and its path, and after the blocks
  a line with both counts. -/
  output : ∃ blocks, List.Forall₂ (fun entry block => ∃ members,
      block = "\n" ++ "[" ++ entry.2.fullName ++ "] (" ++ entry.1 ++ ")" ++ "\n" ++ members)
      result.classes blocks ∧
    shown.output = String.join blocks ++ "\n" ++
      s!"Generated {result.classes.length} class(es), {result.errors.length} error(s)" ++ "\n"
  /-- There is a line for each message, which starts with its path. -/
  errors : shown.errors =
    String.join (result.errors.map fun entry => "[ERROR] " ++ entry.1 ++ ": " ++ entry.2 ++ "\n")

/-- The texts that show a result as JSON. -/
structure PrintsJson (result : BatchResult) (shown : RunResult) : Prop where
  /-- A value is read that shows the result, and its two parts are as long as those of the
  result. -/
  output : ∃ value classes errors, Json.read shown.output = .ok value ∧
    Report.ShowsRun result value ∧
    value.get? "classes" = some (.array classes) ∧ classes.length = result.classes.length ∧
    value.get? "errors" = some (.object errors) ∧ errors.length = result.errors.length
  /-- Nothing is shown beside it. -/
  errors : shown.errors = ""

/-- The lines of a result show it. -/
theorem printsText_reportOf (result : BatchResult) :
    PrintsText result (reportOf false result) where
  output := by
    refine ⟨result.classes.map fun entry => Report.unlines (Report.classLines entry.1 entry.2),
      ?_, ?_⟩
    · rw [List.forall₂_map_right_iff, List.forall₂_same]
      rintro ⟨path, target⟩ _
      refine ⟨Report.unlines (Report.rule :: (target.fields.flatMap Report.fieldLines ++
        target.methods.flatMap Report.methodLines)), ?_⟩
      simp only [Report.classLines, List.cons_append, List.nil_append, Report.unlines_cons,
        String.empty_append, String.append_assoc]
    · rw [← Report.unlines_flatMap]
      simp [reportOf, showResult, Report.runLines, Report.unlines, String.append_assoc]
  errors := by
    simp [reportOf, showResult, Report.unlines, Report.errorLines, Function.comp_def]

/-- The JSON of a result shows it, if there is one message for each path. -/
theorem printsJson_reportOf {result : BatchResult} (distinct : result.errors.keys.Nodup) :
    PrintsJson result (reportOf true result) where
  output := by
    have textual := Report.textual_ofRun distinct
    have blank : Json.Blank "\n".toList := by simp [Json.Blank, Json.isSpace]
    refine ⟨_, _, _, Json.read_render (Report.readable_layout (some 2)) textual blank,
      Report.showsRun_ofRun result, rfl, ?_, rfl, ?_⟩
    · exact List.length_map _
    · exact List.length_map _
  errors := rfl

/-- A run of the command for files refuses its options or accounts for its files. -/
structure Accounts (environment : Environment) (read : FileReader) (options : GenerateOptions)
    (shown : RunResult) : Prop where
  /-- The code is 2 without any output exactly if the options are refused. -/
  refused : shown.code = 2 ∧ shown.output = "" ↔ options.Refused environment
  /-- Otherwise a result is shown that accounts for the files, in the form that is asked for, and
  the code says whether it has a message. -/
  reported : ¬options.Refused environment → ∃ result : BatchResult,
    result.AccountsFor options.schemas (options.outcome environment read) ∧
      (options.json = false → PrintsText result shown) ∧
      (options.json = true → PrintsJson result shown) ∧
      shown.code = if result.errors = [] then 0 else 1

/-- A number of workers that is missed stops the command. -/
theorem runGenerate_of_missesWorkers (log : LogSettings) (missed : options.MissesWorkers) :
    runGenerate log environment read options platform = .error .missingWorkers := by
  simp only [runGenerate, if_neg (mt namesSeveral_iff.mp missed.2), missed.1, if_true]

/-- Where the command for files ends, no number of workers is missed. -/
theorem not_missesWorkers_of_runGenerate {log : LogSettings} {shown : RunResult}
    (ended : runGenerate log environment read options platform = .ok shown) :
    ¬options.MissesWorkers := by
  intro missed
  cases (runGenerate_of_missesWorkers log missed).symm.trans ended

/-- Options that are refused end with code 2 and without output, unless a number of workers is
missed before. -/
theorem runGenerate_of_refused (log : LogSettings) (counted : ¬options.MissesWorkers)
    (refused : options.Refused environment) :
    ∃ errors,
      runGenerate log environment read options platform = .ok { code := 2, errors } := by
  unfold runGenerate
  simp only []
  split
  · exact ⟨_, rfl⟩
  · rename_i single
    have alone := mt namesSeveral_iff.mpr single
    rw [if_neg fun dropped => counted ⟨dropped, alone⟩]
    rcases refused with several | useless
    · exact absurd several alone
    · rw [if_neg (not_isValid_iff.mpr useless)]
      exact ⟨_, rfl⟩

/-- Options that are not refused are run with the settings that they make, unless a number of
workers is missed. -/
theorem runGenerate_of_usable (log : LogSettings) (counted : ¬options.MissesWorkers)
    (usable : ¬options.Refused environment) :
    let settings := Settings.ofEnvironment environment options.overrides
    settings.isValid = true ∧ ¬options.NamesSeveral ∧
      runGenerate log environment read options platform =
        let made := generateResult (.ofSettings settings) read options
        made.1.bind fun result =>
          if platform.takesReport read options.json result then
            .ok (resultOf log made.2 options.json result)
          else .error .unpairedSurrogate := by
  intro settings
  obtain ⟨single, useful⟩ := not_or.mp usable
  have valid : settings.isValid = true := by
    by_contra invalid
    exact useful (not_isValid_iff.mp invalid)
  have several := mt namesSeveral_iff.mp single
  have known : ¬options.workersDropped = true := fun dropped => counted ⟨dropped, single⟩
  refine ⟨valid, single, ?_⟩
  simp only [runGenerate, if_neg several, if_neg known, settings, valid, if_true]

/-- What is shown for a result that accounts for the files says so. -/
theorem accounts_resultOf (log : LogSettings) (events : List Event) {result : BatchResult}
    (usable : ¬options.Refused environment)
    (accounts : result.AccountsFor options.schemas (options.outcome environment read)) :
    Accounts environment read options (resultOf log events options.json result) where
  refused := by
    refine iff_of_false (fun ended => ?_) usable
    have code : (if result.success then 0 else 1) = 2 := ended.1
    split at code <;> cases code
  reported _ := by
    have distinct : result.errors.keys.Nodup := by
      rw [accounts.errors]
      exact (Entries.nodup_eraseDups options.schemas).filter _
    refine ⟨result, accounts, fun asText => ?_, fun asJson => ?_, ?_⟩
    · rw [asText]
      exact ⟨(printsText_reportOf result).output, (printsText_reportOf result).errors⟩
    · rw [asJson]
      exact ⟨(printsJson_reportOf distinct).output, (printsJson_reportOf distinct).errors⟩
    · simp [resultOf, BatchResult.success]

/-- Unless it misses a number of workers or refuses its options, the command for files ends exactly
if no file stops it and the standard output takes its report, and then it shows the result of the
outcomes of its files. -/
theorem runGenerate_eq_ok_iff (log : LogSettings) (counted : ¬options.MissesWorkers)
    (usable : ¬options.Refused environment) {shown : RunResult} :
    let settings := Settings.ofEnvironment environment options.overrides
    runGenerate log environment read options platform = .ok shown ↔
      (∀ path ∈ options.schemas, ¬Stopping (options.outcome environment read path)) ∧
        options.Printable environment read platform ∧
        shown = resultOf log (generateResult (.ofSettings settings) read options).2 options.json
          (Batch.resultOf (options.outcome environment read) options.schemas) := by
  intro settings
  obtain ⟨valid, single, ran⟩ :=
    @runGenerate_of_usable environment read options platform log counted usable
  rw [ran]
  constructor
  · intro ended
    cases made : (generateResult (.ofSettings settings) read options).1 with
    | error failure =>
      simp only [settings, made] at ended
      cases ended
    | ok result =>
      obtain ⟨calm, rfl⟩ := (generateResult_eq_ok_iff valid single).mp made
      simp only [settings, made, Except.bind] at ended
      split at ended
      · rename_i taken
        exact ⟨calm, takesReport_iff.mp taken, (Except.ok.inj ended).symm⟩
      · cases ended
  · rintro ⟨calm, printable, rfl⟩
    have made := (generateResult_eq_ok_iff valid single).mpr ⟨calm, rfl⟩
    simp only [settings, made, Except.bind, takesReport_iff.mpr printable, if_true]

/-- The command for files ends exactly if no number of workers is missed and it refuses its options,
or no file stops it and the standard output takes its report. -/
theorem exists_runGenerate_iff (log : LogSettings) :
    (∃ shown, runGenerate log environment read options platform = .ok shown) ↔
      ¬options.MissesWorkers ∧ (options.Refused environment ∨
        (∀ path ∈ options.schemas, ¬Stopping (options.outcome environment read path)) ∧
          options.Printable environment read platform) := by
  by_cases missed : options.MissesWorkers
  · exact iff_of_false (fun ⟨_, ended⟩ => not_missesWorkers_of_runGenerate ended missed)
      fun ends => ends.1 missed
  by_cases refused : options.Refused environment
  · obtain ⟨errors, ended⟩ := runGenerate_of_refused log missed refused
    exact iff_of_true ⟨_, ended⟩ ⟨missed, .inl refused⟩
  · simp only [runGenerate_eq_ok_iff log missed refused, refused, false_or]
    exact ⟨fun ⟨_, calm, printable, _⟩ => ⟨missed, calm, printable⟩,
      fun ⟨_, calm, printable⟩ => ⟨_, calm, printable, rfl⟩⟩

/-- Where the command for files ends, it accounts for them or refuses its options. -/
theorem accounts_of_runGenerate {log : LogSettings} {shown : RunResult}
    (ended : runGenerate log environment read options platform = .ok shown) :
    Accounts environment read options shown := by
  have counted := not_missesWorkers_of_runGenerate ended
  by_cases refused : options.Refused environment
  · obtain ⟨errors, ran⟩ := runGenerate_of_refused log counted refused
    obtain rfl := Except.ok.inj (ran.symm.trans ended)
    exact ⟨iff_of_true ⟨rfl, rfl⟩ refused, fun usable => absurd refused usable⟩
  · obtain ⟨_, _, rfl⟩ := (runGenerate_eq_ok_iff log counted refused).mp ended
    exact accounts_resultOf log _ refused (Batch.accountsFor_resultOf _ _)

/-- Two runs of the command that end have the same code, whatever the forms of their reports. -/
theorem code_runGenerate_json {log : LogSettings} {json : Bool} {shown other : RunResult}
    (ended : runGenerate log environment read options platform = .ok shown)
    (otherEnded : runGenerate log environment read { options with json } platform = .ok other) :
    other.code = shown.code := by
  have counted := not_missesWorkers_of_runGenerate ended
  have otherCounted := not_missesWorkers_of_runGenerate otherEnded
  by_cases refused : options.Refused environment
  · have alike : { options with json }.Refused environment := refused
    obtain ⟨_, ran⟩ := runGenerate_of_refused log counted refused
    obtain ⟨_, otherRan⟩ := runGenerate_of_refused log otherCounted alike
    obtain rfl := Except.ok.inj (ran.symm.trans ended)
    obtain rfl := Except.ok.inj (otherRan.symm.trans otherEnded)
    rfl
  · have alike : ¬{ options with json }.Refused environment := refused
    obtain ⟨_, _, rfl⟩ := (runGenerate_eq_ok_iff log counted refused).mp ended
    obtain ⟨_, _, rfl⟩ := (runGenerate_eq_ok_iff log otherCounted alike).mp otherEnded
    rfl

/-- A level that was dropped, or that is the name of something else, in upper case. -/
def LogOptions.Refused (log : LogOptions) : Prop :=
  ∀ name ∈ log.level, String.ofList (name.toList.flatMap Text.upper) ∈ refusedThresholds

instance (log : LogOptions) : Decidable log.Refused :=
  inferInstanceAs (Decidable (∀ name ∈ log.level, _))

/-- A level that is refused fails, and any other name is that of a threshold. -/
theorem threshold_cases (log : LogOptions) :
    log.Refused ∧ (∃ failure, log.threshold = .error failure) ∨
      ¬log.Refused ∧ ∃ threshold, log.threshold = .ok threshold := by
  unfold LogOptions.Refused LogOptions.threshold
  cases log.level with
  | none => exact .inl ⟨by simp, _, rfl⟩
  | some name =>
    simp only [Option.mem_some_iff, forall_eq', thresholdOf]
    by_cases refused : String.ofList (name.toList.flatMap Text.upper) ∈ refusedThresholds
    · exact .inl ⟨refused, _, if_pos (List.contains_iff_mem.mpr refused)⟩
    · exact .inr ⟨refused, _, if_neg (mt List.contains_iff_mem.mp refused)⟩

/-- The command for files fails at once if the level of the log is refused, and otherwise it is run
with some settings of the log. -/
theorem runInvocation_generate_cases (environment : Environment) (read : FileReader)
    (log : LogOptions) (platform : Platform) :
    log.Refused ∧ (∃ failure, ∀ options,
        runInvocation environment read ⟨log, .generate options⟩ platform = .error failure) ∨
      ¬log.Refused ∧ ∃ settings, ∀ options,
        runInvocation environment read ⟨log, .generate options⟩ platform =
          runGenerate settings environment read options platform := by
  rcases threshold_cases log with ⟨refused, failure, failed⟩ | ⟨accepted, threshold, known⟩
  · refine .inl ⟨refused, failure, fun options => ?_⟩
    simp only [runInvocation, failed]
    rfl
  · refine .inr ⟨accepted, ⟨threshold, log.json⟩, fun options => ?_⟩
    simp only [runInvocation, known]
    rfl

/-- The command for files ends exactly if its log can be kept, no number of workers is missed, and
it refuses its options, or no file stops it and the standard output takes its report. -/
theorem exists_runInvocation_iff (log : LogOptions) :
    (∃ shown, runInvocation environment read ⟨log, .generate options⟩ platform = .ok shown) ↔
      ¬log.Refused ∧ ¬options.MissesWorkers ∧ (options.Refused environment ∨
        (∀ path ∈ options.schemas, ¬Stopping (options.outcome environment read path)) ∧
          options.Printable environment read platform) := by
  rcases runInvocation_generate_cases environment read log platform with
    ⟨refused, failure, failed⟩ | ⟨accepted, settings, ran⟩
  · refine iff_of_false ?_ fun ends => ends.1 refused
    rintro ⟨shown, ended⟩
    cases (failed options).symm.trans ended
  · rw [ran, exists_runGenerate_iff settings]
    exact (and_iff_right accepted).symm

/-- A run of the command for files, none of which stops it, refuses its options or accounts for the
files, exactly if the level of the log is not refused, no number of workers is missed and, unless
the options are refused, the standard output takes what the report shows. A level without a name,
which is refused, and a number of workers that is missed take an argument parser that drops values.
The code does not depend on the form of the report, and lines are shown wherever JSON is. -/
theorem run_accounts_iff {arguments : List String} {log : LogOptions}
    (understood : readInvocation arguments platform = .ok ⟨log, .generate options⟩)
    (calm : ∀ path ∈ options.schemas, ¬Stopping (options.outcome environment read path)) :
    let ended json := runInvocation environment read ⟨log, .generate { options with json }⟩ platform
    ((∃ shown, run arguments environment read platform = .ok shown ∧
        Accounts environment read options shown) ↔
      ¬log.Refused ∧ ¬options.MissesWorkers ∧ (options.Refused environment ∨
        options.Printable environment read platform)) ∧
    (platform.dropsHyphens = false → log.level.isSome = true ∧ ¬options.MissesWorkers) ∧
    (∀ json shown other, run arguments environment read platform = .ok shown →
      ended json = .ok other → other.code = shown.code) ∧
    ((∃ shown, ended true = .ok shown) → ∃ shown, ended false = .ok shown) := by
  intro ended
  rw [run_eq_runInvocation understood]
  refine ⟨?_, ?_, ?_, ?_⟩
  · have ends := @exists_runInvocation_iff environment read options platform log
    rw [and_iff_right calm] at ends
    rw [← ends]
    constructor
    · rintro ⟨shown, gave, _⟩
      exact ⟨shown, gave⟩
    · rintro ⟨shown, gave⟩
      obtain ⟨settings, ran⟩ := exists_runGenerate_of_runInvocation gave
      exact ⟨shown, gave, accounts_of_runGenerate ((ran options).symm.trans gave)⟩
  · intro keeps
    have known := workersDropped_of_read understood keeps
    refine ⟨isSome_level_of_read understood keeps, fun missed => ?_⟩
    exact Bool.false_ne_true (known.symm.trans missed.1)
  · intro json shown other gave otherGave
    obtain ⟨settings, ran⟩ := exists_runGenerate_of_runInvocation gave
    exact code_runGenerate_json ((ran options).symm.trans gave)
      ((ran { options with json }).symm.trans otherGave)
  · simp only [ended, exists_runInvocation_iff]
    rintro ⟨accepted, counted, refused | ⟨calm, printable⟩⟩
    · exact ⟨accepted, counted, .inl refused⟩
    · exact ⟨accepted, counted, .inr ⟨calm, printable_false_of_true printable⟩⟩

/-- A run accounts for a file with a class and a missing file that is given twice. -/
theorem run_accounts_of_repeated_path :
    let arguments := ["generate", "--json", "b.json", "a.json", "b.json"]
    let read : FileReader := (Tree.addFile {} "a.json" [0x7B, 0x7D]).read
    let options : GenerateOptions := { schemas := ["b.json", "a.json", "b.json"], json := true }
    ∃ shown, run arguments [] read = .ok shown ∧ shown.code = 1 ∧ Accounts [] read options shown ∧
      (runInvocation [] read ⟨{}, .generate { options with json := false }⟩).map (·.code) =
        .ok 1 := by
  intro arguments read options
  have understood : readInvocation arguments = .ok ⟨{}, .generate options⟩ := rfl
  have calm : ∀ path ∈ options.schemas, ¬Stopping (options.outcome [] read path) := by
    rintro path member ⟨failure, failed, unreported⟩
    have made : options.outcome [] read "a.json" = .ok { name := "A" } := by decide +kernel
    have missing : options.outcome [] read "b.json" =
      .error (.malformed ⟨.unreadable .noSuchFile "b.json", some "b.json"⟩) := by decide +kernel
    simp only [options, List.mem_cons, List.not_mem_nil, or_false] at member
    rcases member with rfl | rfl | rfl
    · obtain rfl := Except.error.inj (missing.symm.trans failed)
      cases unreported
    · cases made.symm.trans failed
    · obtain rfl := Except.error.inj (missing.symm.trans failed)
      cases unreported
  have printable : options.Printable [] read {} := printable_of_unpaired_eq_nil (by decide +kernel)
  obtain ⟨accounts, _, alike, lines⟩ := run_accounts_iff understood calm
  have counted : ¬options.MissesWorkers := fun missed => by cases missed.1
  obtain ⟨shown, ended, accounted⟩ := accounts.mpr ⟨by decide +kernel, counted, .inr printable⟩
  have code : (run arguments [] read).map (·.code) = .ok 1 := by decide +kernel
  rw [ended] at code
  have one : shown.code = 1 := Except.ok.inj code
  obtain ⟨plain, plainEnded⟩ := lines ⟨shown, (run_eq_runInvocation understood).symm.trans ended⟩
  have same : plain.code = 1 := (alike false shown plain ended plainEnded).trans one
  exact ⟨shown, ended, one, accounted,
    (congrArg (Except.map (·.code)) plainEnded).trans (congrArg Except.ok same)⟩

/-- A level that is the name of something else keeps a run from accounting for a file that has a
class. -/
theorem not_forall_run_accounts :
    ¬∀ (arguments : List String) (environment : Environment) (read : FileReader) (log : LogOptions)
      (options : GenerateOptions), readInvocation arguments = .ok ⟨log, .generate options⟩ →
      (∀ path ∈ options.schemas, ¬Stopping (options.outcome environment read path)) →
      ∃ shown, run arguments environment read = .ok shown ∧
        Accounts environment read options shown := by
  intro accounts
  let arguments := ["--log-level", "basic_format", "generate", "a.json"]
  let read : FileReader := (Tree.addFile {} "a.json" [0x7B, 0x7D]).read
  let log : LogOptions := { level := "basic_format" }
  let options : GenerateOptions := { schemas := ["a.json"] }
  have understood : readInvocation arguments = .ok ⟨log, .generate options⟩ := rfl
  have made : options.outcome [] read "a.json" = .ok { name := "A" } := by decide +kernel
  have calm : ∀ path ∈ options.schemas, ¬Stopping (options.outcome [] read path) := by
    rintro path member ⟨failure, failed, _⟩
    rw [List.mem_singleton.mp member] at failed
    cases made.symm.trans failed
  obtain ⟨shown, ended, _⟩ := accounts arguments [] read log options understood calm
  have stopped : run arguments [] read = .error .invalidLogLevel := by decide +kernel
  cases stopped.symm.trans ended

/-- A class is not printed that shows a surrogate without its partner. -/
example :
    let schema := "\x7b\"properties\": \x7b\"a\": \x7b\"description\": \"\\ud800\"\x7d\x7d\x7d"
    let bytes := schema.toList.map fun c => UInt8.ofNat c.toNat
    let read : FileReader := (Tree.addFile {} "a.json" bytes).read
    run ["generate", "a.json"] [] read = .error .unpairedSurrogate := by
  decide +kernel

end Command

end CommandLine

end SchemaBeans
