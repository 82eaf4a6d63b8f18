import SchemaBeans.CommandLine.Run
import SchemaBeans.Proofs.Batch.Isolation
import SchemaBeans.Proofs.Generation.ClassName

/-!
# A given name on the command line

The command for files takes two ways. A file whose class has a given name is generated on its own,
and any other file is the only job of a batch. Both lead to what the outcome of the file gives
(`BatchResult.ofOutcome`), so a given name shows in the name of the class and in what its builders
return, and nowhere else: neither in the exit code nor in a failure (`run_className`). The name that
the class has anyway does not show at all.
-/
namespace SchemaBeans

namespace BatchResult

/-- The result for the file under a single path; a failure that is not reported leaves none. -/
def ofOutcome (path : String) : Except Failure ClassModel → Except Failure BatchResult
  | .ok target => .ok { classes := [(path, target)] }
  | .error failure =>
    if failure.isReported then .ok { errors := [(path, failure.message)] } else .error failure

end BatchResult

/-- A batch with workers gives for a single path what its file gives. -/
theorem Batch.run_singleton {batch : Batch} (working : 1 ≤ batch.workers) (read : FileReader)
    (path : String) (package : Option String) :
    (batch.run read [path] package).2 =
      BatchResult.ofOutcome path (batch.context.generateFile read path none package) := by
  have given : [path] ≠ [] := List.cons_ne_nil path []
  have alone {α : Type} (value : α) : Entries.inOrder [(path, value)] [path] = [(path, value)] := by
    simp [Entries.inOrder, Entries.get?, List.eraseDups_cons]
  have empty {α : Type} : Entries.inOrder ([] : Entries α) [path] = [] := by
    simp [Entries.inOrder, Entries.get?, List.eraseDups_cons]
  have last : batch.progressAfter read package [path] =
      BatchProgress.finish {} path (batch.context.generateFile read path none package) := rfl
  cases ended : batch.context.generateFile read path none package with
  | ok target =>
    have after : batch.progressAfter read package [path] =
        { result := { classes := [(path, target)] } } := by
      rw [last, ended]
      simp [BatchProgress.finish, Entries.put]
    have running : (batch.progressAfter read package [path]).stopped = none := by rw [after]
    rw [run, runFinishing_of_running working given running, after]
    simp only [alone, empty, BatchResult.ofOutcome]
  | error failure =>
    cases reported : failure.isReported with
    | true =>
      have after : batch.progressAfter read package [path] =
          { result := { errors := [(path, failure.message)] }, failed := 1 } := by
        rw [last, ended]
        simp [BatchProgress.finish, reported, Entries.put]
      have running : (batch.progressAfter read package [path]).stopped = none := by rw [after]
      rw [run, runFinishing_of_running working given running, after]
      simp only [alone, empty, BatchResult.ofOutcome, reported, if_true]
    | false =>
      have stopped : (batch.progressAfter read package [path]).stopped = some failure := by
        rw [last, ended]
        simp [BatchProgress.finish, reported]
      rw [run, runFinishing_of_stopped working given stopped]
      simp [BatchResult.ofOutcome, reported]

/-- The class of a file with a given name is that of the file under the name, and where there is
none, the failure is the same. -/
theorem RuleContext.generateFile_some_className (context : RuleContext) (read : FileReader)
    (path : String) {className : String} (given : className ≠ "") (package : Option String) :
    context.generateFile read path (some className) package =
      (context.generateFile read path none package).map (.rename className) := by
  unfold generateFile
  cases Schema.load read path with
  | error failure => rfl
  | ok schema => exact context.generate_some_className schema given package

/-- The name that the class of a file has anyway makes no difference. -/
theorem RuleContext.generateFile_derived_className {context : RuleContext} {read : FileReader}
    {path className : String} (given : className ≠ "") (package : Option String)
    (derived : ∀ schema, Schema.load read path = .ok schema →
      className = context.classNameFor schema none) :
    context.generateFile read path (some className) package =
      context.generateFile read path none package := by
  unfold generateFile
  cases loaded : Schema.load read path with
  | error failure => simp only [bind, Except.bind]
  | ok schema =>
    obtain rfl := derived schema loaded
    exact context.generate_derived_className schema package given

/-- The builders of the class of a file return that class. -/
theorem RuleContext.rename_generateFile {context : RuleContext} {read : FileReader} {path : String}
    {className package : Option String} {target : ClassModel}
    (generated : context.generateFile read path className package = .ok target) :
    target.rename target.name = target := by
  unfold generateFile at generated
  cases loaded : Schema.load read path with
  | error failure =>
    rw [loaded] at generated
    cases generated
  | ok schema =>
    rw [loaded] at generated
    exact context.rename_generate generated

namespace CommandLine

/-- What a run gives apart from its log. -/
def RunResult.withoutLog (shown : RunResult) : RunResult := { shown with log := [] }

/-- What a run gives for a result, apart from its log. -/
def reportOf (json : Bool) (result : BatchResult) : RunResult :=
  { code := if result.success then 0 else 1
    output := (showResult result json).1
    errors := (showResult result json).2 }

/-- What a run prints for a result, apart from its log, unless the standard output does not take
it. -/
def printed (platform : Platform) (read : FileReader) (json : Bool) (result : BatchResult) :
    Except Failure RunResult :=
  if platform.takesReport read json result then .ok (reportOf json result)
  else .error .unpairedSurrogate

/-- What a run gives for a single path whose file has an outcome, apart from its log. -/
def reportAlone (log : LogOptions) (options : GenerateOptions) (read : FileReader) (path : String)
    (outcome : Except Failure ClassModel) (platform : Platform := {}) : Except Failure RunResult :=
  log.threshold.bind fun _ =>
    if options.workersDropped then .error .missingWorkers
    else (BatchResult.ofOutcome path outcome).bind (printed platform read options.json)

/-- A single file gives the same on its own as in a batch. -/
theorem fst_generateSingle (context : RuleContext) (read : FileReader) (path : String)
    (className package : Option String) :
    (generateSingle context read path className package).1 =
      BatchResult.ofOutcome path (context.generateFile read path className package) := by
  unfold generateSingle BatchResult.ofOutcome
  cases context.generateFile read path className package with
  | ok target => rfl
  | error failure =>
    simp only []
    split <;> rfl

/-- The exit code and the text of errors depend on the errors of a result alone. -/
theorem reportOf_congr (json : Bool) {result other : BatchResult}
    (same : result.errors = other.errors) :
    (reportOf json result).code = (reportOf json other).code ∧
      (reportOf json result).errors = (reportOf json other).errors := by
  unfold reportOf BatchResult.success showResult Report.errorLines
  simp only [same, true_and]
  cases json with
  | false => simp only [Bool.false_eq_true, if_false]
  | true => simp only [if_true]

/-- A class shows the same texts of its schema under another name. -/
theorem schemaTexts_rename (json : Bool) (name : String) (target : ClassModel) :
    Report.schemaTexts json (target.rename name) = Report.schemaTexts json target := by
  have documented (method : MethodModel) :
      (method.inClass { target with name }.fullName).doc = method.doc := by
    unfold MethodModel.inClass
    split <;> rfl
  simp [Report.schemaTexts, ClassModel.rename, documented]

/-- The exit code and the text of errors do not depend on the name of the class of a file. -/
theorem reportAlone_rename (log : LogOptions) (options : GenerateOptions) (read : FileReader)
    (path : String) (outcome : Except Failure ClassModel) (name : String) (platform : Platform) :
    (reportAlone log options read path (outcome.map (.rename name)) platform).map
        (fun report => (report.code, report.errors)) =
      (reportAlone log options read path outcome platform).map
        fun report => (report.code, report.errors) := by
  cases outcome with
  | error failure => rw [Except.map]
  | ok target =>
    have alike := @reportOf_congr options.json { classes := [(path, target.rename name)] }
      { classes := [(path, target)] } rfl
    have taken : platform.takesReport read options.json
          { classes := [(path, target.rename name)] } =
        platform.takesReport read options.json { classes := [(path, target)] } := by
      simp only [Platform.takesReport, Platform.takesClass, List.all_cons, schemaTexts_rename]
    unfold reportAlone
    cases log.threshold with
    | error failure => simp only [Except.bind, Except.map]
    | ok threshold =>
      simp only [Except.bind, Except.map, BatchResult.ofOutcome, printed, taken]
      cases options.workersDropped with
      | true => rfl
      | false =>
        cases platform.takesReport read options.json { classes := [(path, target)] } with
        | true => simp only [Bool.false_eq_true, if_false, if_true, alike.1, alike.2]
        | false => rfl

section SinglePath

variable {environment : Environment} {options : GenerateOptions} {path : String}
  {platform : Platform}

/-- Both ways of the command for files give for a single path what its file gives. -/
theorem fst_generateResult {context : RuleContext} (working : 1 ≤ context.settings.maxWorkers)
    (read : FileReader) (single : options.schemas = [path]) :
    (generateResult context read options).1 =
      BatchResult.ofOutcome path
        (context.generateFile read path (options.className.filter (· ≠ "")) options.package) := by
  unfold generateResult
  rw [single]
  cases options.className.filter (· ≠ "") with
  | some className => exact fst_generateSingle context read path (some className) options.package
  | none =>
    have workers : 1 ≤ (Batch.new context).workers := working
    exact Batch.run_singleton workers read path options.package

/-- A run for a single path reports what its file gives. -/
theorem run_single {arguments : List String} {log : LogOptions}
    (understood : readInvocation arguments platform = .ok ⟨log, .generate options⟩)
    (single : options.schemas = [path])
    (valid : (Settings.ofEnvironment environment options.overrides).isValid = true)
    (read : FileReader) :
    let context := RuleContext.ofSettings (Settings.ofEnvironment environment options.overrides)
    (run arguments environment read platform).map .withoutLog =
      reportAlone log options read path
        (context.generateFile read path (options.className.filter (· ≠ "")) options.package)
        platform := by
  intro context
  have working : 1 ≤ context.settings.maxWorkers := ((Settings.isValid_iff _).mp valid).1
  have few : (options.className.any (· ≠ "") && decide (1 < options.schemas.length)) = false := by
    rw [single, List.length_singleton]
    exact Bool.and_false _
  rw [run, understood]
  unfold reportAlone runInvocation
  simp only []
  cases log.threshold with
  | error failure => rfl
  | ok threshold =>
    have gave := fst_generateResult working read single
    simp only [bind, Except.bind, runGenerate, few, valid, if_true, Bool.false_eq_true, if_false]
    cases options.workersDropped with
    | true => rfl
    | false =>
      simp only [Bool.false_eq_true, if_false]
      rw [← gave]
      cases (generateResult context read options).1 with
      | error failure => rfl
      | ok result =>
        simp only [printed]
        split <;> rfl

/-- The name that is given for the class of a single file shows in the class alone. The run with the
name reports the outcome of the run without it, with the class under that name: the exit code and
the text of errors are the same, and so are whole reports of a file without a class and of a class
that has the name anyway. -/
theorem run_className {plainArguments namedArguments : List String} {log : LogOptions}
    {className : String} (given : className ≠ "")
    (plain : readInvocation plainArguments platform =
      .ok ⟨log, .generate { options with schemas := [path], className := none }⟩)
    (named : readInvocation namedArguments platform =
      .ok ⟨log, .generate { options with schemas := [path], className := some className }⟩)
    (valid : (Settings.ofEnvironment environment options.overrides).isValid = true)
    (read : FileReader) :
    let context := RuleContext.ofSettings (Settings.ofEnvironment environment options.overrides)
    let outcome := context.generateFile read path none options.package
    let shown arguments := (run arguments environment read platform).map RunResult.withoutLog
    shown plainArguments = reportAlone log options read path outcome platform ∧
      shown namedArguments =
        reportAlone log options read path (outcome.map (.rename className)) platform ∧
      (∀ target, outcome = .ok target → target.rename target.name = target) ∧
      (shown namedArguments).map (fun report => (report.code, report.errors)) =
        (shown plainArguments).map (fun report => (report.code, report.errors)) ∧
      (∀ failure, outcome = .error failure → shown namedArguments = shown plainArguments) ∧
      ((∀ schema, Schema.load read path = .ok schema →
          className = context.classNameFor schema none) →
        shown namedArguments = shown plainArguments) := by
  intro context outcome shown
  have plainShown : shown plainArguments = reportAlone log options read path outcome platform :=
    run_single plain rfl valid read
  have alone : shown namedArguments = reportAlone log options read path
      (context.generateFile read path ((some className).filter (· ≠ "")) options.package)
      platform :=
    run_single named rfl valid read
  rw [RuleContext.filter_some_className given] at alone
  have namedShown : shown namedArguments =
      reportAlone log options read path (outcome.map (.rename className)) platform :=
    alone.trans (congrArg (reportAlone log options read path · platform)
      (context.generateFile_some_className read path given options.package))
  refine ⟨plainShown, namedShown, fun target => RuleContext.rename_generateFile, ?_, ?_, ?_⟩
  · rw [plainShown, namedShown]
    exact reportAlone_rename log options read path outcome className platform
  · intro failure failed
    rw [plainShown, namedShown, failed, Except.map]
  · intro derived
    rw [plainShown, alone, RuleContext.generateFile_derived_className given options.package derived]

/-- The builder of a class returns it under either name, and runs with and without the name report
alike. -/
theorem run_className_with_builder :
    let plainArguments := ["generate", "--builders", "user.json"]
    let namedArguments := ["generate", "--builders", "--class-name", "Account", "user.json"]
    let schema := "\x7b\"properties\": \x7b\"id\": \x7b\x7d\x7d\x7d"
    let bytes := schema.toList.map fun c => UInt8.ofNat c.toNat
    let read : FileReader := (Tree.addFile {} "user.json" bytes).read
    let returns (target : ClassModel) :=
      (target.name, target.methods.map fun method => (method.name, method.returnType.name))
    ∃ target,
      returns target = ("User",
        [("getId", "java.lang.Object"), ("setId", "void"), ("withId", "User")]) ∧
      returns (target.rename "Account") = ("Account",
        [("getId", "java.lang.Object"), ("setId", "void"), ("withId", "Account")]) ∧
      (run plainArguments [] read).map .withoutLog =
        reportAlone {} {} read "user.json" (.ok target) ∧
      (run namedArguments [] read).map .withoutLog =
        reportAlone {} {} read "user.json" (.ok (target.rename "Account")) := by
  intro plainArguments namedArguments schema bytes read returns
  let options : GenerateOptions := { overrides := { builders := some true } }
  let context := RuleContext.ofSettings (Settings.ofEnvironment [] options.overrides)
  obtain ⟨plain, named, _⟩ := @run_className [] options "user.json" {} plainArguments
    namedArguments {} "Account" (by decide) rfl rfl (by decide) read
  have shown : (context.generateFile read "user.json").toOption.map
      (fun target => (returns target, returns (target.rename "Account"))) =
      some (("User", [("getId", "java.lang.Object"), ("setId", "void"), ("withId", "User")]),
        ("Account",
          [("getId", "java.lang.Object"), ("setId", "void"), ("withId", "Account")])) := by
    decide +kernel
  cases made : context.generateFile read "user.json" with
  | error failure =>
    rw [made] at shown
    cases shown
  | ok target =>
    rw [made] at shown plain named
    obtain ⟨first, second⟩ := Prod.mk.inj (Option.some.inj shown)
    exact ⟨target, first, second, plain, named⟩

end SinglePath

end CommandLine

end SchemaBeans
