import SchemaBeans.Proofs.CommandLine.ClassName
import SchemaBeans.Proofs.Report.ReadBack
import SchemaBeans.Proofs.Rule.Defects

/-!
# Errors name their files

The source of a schema is set where its file is loaded, and every reader of a keyword hands it on to
the defects that it finds. So whatever is wrong with a file, its defect has the normal form of the
path as source (`names_of_generateFile`); as no normal form is empty, the message starts with it.
A batch and the command for files keep each message under the path of its own file
(`errors_name_files`).
-/
namespace SchemaBeans

/-- A failure for a defect of the file under a path. -/
structure Failure.Names (failure : Failure) (path : String) (defect : Defect) : Prop where
  /-- The source of the defect is the normal form of the path. -/
  source : failure = .malformed ⟨defect, some (Path.normalize path)⟩
  /-- The message starts with the source. -/
  message : failure.message = Path.normalize path ++ ": " ++ defect.message

/-- Each message of a result is that of a defect of the file under its path, which is one of the
given paths. -/
def BatchResult.NamesFiles (result : BatchResult) (paths : List String)
    (outcome : String → Except Failure ClassModel) : Prop :=
  ∀ path message, (path, message) ∈ result.errors → path ∈ paths ∧
    ∃ failure defect, outcome path = .error failure ∧ failure.message = message ∧
      failure.Names path defect

/-- A defect whose source is the normal form of a path is one of its file. -/
theorem Failure.names_malformed (path : String) (defect : Defect) :
    (malformed ⟨defect, some (Path.normalize path)⟩).Names path defect where
  source := rfl
  message := MalformedSchema.message_of_source (Path.normalize_ne_empty path) rfl

namespace Schema

/-- The defects of a text have its source. -/
theorem malformed_of_readText {source : String} {text : List Char} {malformed : MalformedSchema}
    (failed : readText source text = .error (.malformed malformed)) :
    malformed.source = some source := by
  unfold readText at failed
  cases read : Json.readChars text with
  | ok value =>
    rw [read] at failed
    cases failed
  | error fault =>
    rw [read] at failed
    cases fault with
    | tooManyDigits count => cases failed
    | malformed cause rest =>
      cases failed
      rfl

/-- A schema, or the defect in its place, has the given source. -/
def From (source : String) : Except Failure Schema → Prop
  | .ok schema => schema.source = some source
  | .error (.malformed malformed) => malformed.source = some source
  | .error _ => True

/-- What bytes give has their source. -/
theorem from_ofBytes (source : String) (bytes : List UInt8) : From source (ofBytes source bytes) := by
  unfold ofBytes
  cases Text.decodeUtf8 bytes with
  | error fault => exact rfl
  | ok text =>
    simp only [bind, Except.bind]
    cases read : readText source (Text.unifyLineEnds text) with
    | error failure =>
      cases failure with
      | malformed malformed => exact malformed_of_readText read
      | _ => exact trivial
    | ok value => cases value <;> exact rfl

/-- What a file gives has the normal form of its path as source. -/
theorem from_load (read : FileReader) (path : String) :
    From (Path.normalize path) (load read path) := by
  unfold load
  simp only []
  split
  · exact trivial
  · cases read (Path.normalize path) with
    | error fault => exact rfl
    | ok bytes => exact from_ofBytes (Path.normalize path) bytes

end Schema

/-- A file that fails for a reported reason has a defect. -/
theorem RuleContext.names_of_generateFile {context : RuleContext} {read : FileReader}
    {path : String} {className package : Option String} {failure : Failure}
    (failed : context.generateFile read path className package = .error failure)
    (reported : failure.isReported = true) : ∃ defect, failure.Names path defect := by
  have sourced := Schema.from_load read path
  unfold generateFile at failed
  cases loaded : Schema.load read path with
  | error fault =>
    rw [loaded] at failed sourced
    obtain rfl : fault = failure := Except.error.inj failed
    cases fault with
    | malformed malformed =>
      obtain ⟨defect, source⟩ := malformed
      obtain rfl : source = some (Path.normalize path) := sourced
      exact ⟨defect, Failure.names_malformed path defect⟩
    | _ => cases reported
  | ok schema =>
    rw [loaded] at failed sourced
    have source : schema.source = some (Path.normalize path) := sourced
    obtain ⟨defect, _, _, fails⟩ := generate_eq_error_iff.mp failed
    have named : failure = .malformed ⟨defect, some (Path.normalize path)⟩ := by
      rw [fails.malformed, source]
    exact ⟨defect, named ▸ Failure.names_malformed path defect⟩

/-- The message of a run is that of a job which failed for a reported reason. -/
theorem Batch.outcome_of_mem_errors {batch : Batch} {read : FileReader}
    {paths finished : List String} {package : Option String} {result : BatchResult}
    (gave : (batch.runFinishing finished read paths package).2 = .ok result) {path message : String}
    (member : (path, message) ∈ result.errors) :
    path ∈ paths ∧ ∃ failure, batch.outcome read package path = .error failure ∧
      failure.isReported = true ∧ failure.message = message := by
  obtain ⟨jobs, progress, known, running, rfl⟩ := exists_progress_of_runFinishing gave
  obtain ⟨given, kept⟩ := Entries.mem_inOrder.mp member
  rw [known.errors running path] at kept
  obtain ⟨done, said⟩ := Option.ite_none_right_eq_some.mp kept
  simp only [] at said
  refine ⟨given, ?_⟩
  cases ended : batch.outcome read package path with
  | ok target =>
    rw [ended] at said
    cases said
  | error failure =>
    rw [ended] at said
    refine ⟨failure, rfl, ?_, Option.some.inj said⟩
    -- Any other failure would have stopped the run.
    by_contra unreported
    have stopping : BatchProgress.Stopping (batch.outcome read package path) :=
      ⟨failure, ended, Bool.eq_false_iff.mpr unreported⟩
    have stopped := known.stopped.mpr ⟨path, done, stopping⟩
    rw [running] at stopped
    cases stopped

/-- The messages of a run name the files of its jobs. -/
theorem Batch.namesFiles_of_runFinishing {batch : Batch} {read : FileReader}
    {paths finished : List String} {package : Option String} {result : BatchResult}
    (gave : (batch.runFinishing finished read paths package).2 = .ok result) :
    result.NamesFiles paths (batch.outcome read package) := by
  intro path message member
  obtain ⟨given, failure, ended, reported, said⟩ := outcome_of_mem_errors gave member
  obtain ⟨defect, names⟩ := RuleContext.names_of_generateFile ended reported
  exact ⟨given, failure, defect, ended, said, names⟩

namespace CommandLine

/-- The message for a single file names it. -/
theorem namesFiles_of_generateSingle {context : RuleContext} {read : FileReader} {path : String}
    {className package : Option String} {result : BatchResult}
    (gave : (generateSingle context read path className package).1 = .ok result) :
    result.NamesFiles [path] fun path => context.generateFile read path className package := by
  rw [fst_generateSingle] at gave
  cases ended : context.generateFile read path className package with
  | ok target =>
    rw [ended] at gave
    obtain rfl := Except.ok.inj gave
    exact fun _ _ member => nomatch member
  | error failure =>
    rw [ended, BatchResult.ofOutcome] at gave
    split at gave
    · rename_i reported
      obtain rfl := Except.ok.inj gave
      intro other message member
      obtain ⟨rfl, rfl⟩ := Prod.mk.inj (List.mem_singleton.mp member)
      obtain ⟨defect, names⟩ := RuleContext.names_of_generateFile ended reported
      exact ⟨List.mem_singleton_self other, failure, defect, ended, rfl, names⟩
    · cases gave

/-- The messages of the command for files name them. -/
theorem namesFiles_of_generateResult {context : RuleContext} {read : FileReader}
    {options : GenerateOptions} {result : BatchResult}
    (single : (options.className.any (· ≠ "") && decide (1 < options.schemas.length)) = false)
    (gave : (generateResult context read options).1 = .ok result) :
    result.NamesFiles options.schemas fun path =>
      context.generateFile read path (options.className.filter (· ≠ "")) options.package := by
  unfold generateResult at gave
  split at gave
  · rename_i path className alone given
    rw [alone, given]
    exact namesFiles_of_generateSingle gave
  · rename_i several
    have named := Batch.namesFiles_of_runFinishing gave
    cases given : options.className.filter (· ≠ "") with
    | none => exact named
    | some className =>
      -- A name is given for a single file only, so there is no file here.
      intro path message member
      obtain ⟨known, nonempty⟩ := Option.filter_eq_some_iff.mp given
      have few : ¬1 < options.schemas.length := by
        rw [known, Option.any_some, nonempty, Bool.true_and] at single
        exact of_decide_eq_false single
      rcases paths : options.schemas with _ | ⟨first, _ | ⟨second, rest⟩⟩
      · have listed := (named path message member).1
        rw [paths] at listed
        cases listed
      · exact absurd given (several first className paths)
      · simp [paths] at few

/-- Each message of a batch or of the command for files is that of a defect of the file under its
path. The source of the defect is the normal form of the path, and the message starts with it. -/
theorem errors_name_files :
    (∀ (batch : Batch) (finished : List String) (read : FileReader) (paths : List String)
        (package : Option String) (result : BatchResult),
      (batch.runFinishing finished read paths package).2 = .ok result →
        result.NamesFiles paths (batch.outcome read package)) ∧
    ∀ (arguments : List String) (environment : Environment) (read : FileReader)
      (platform : Platform) (log : LogOptions) (options : GenerateOptions) (shown : RunResult),
      readInvocation arguments platform = .ok ⟨log, .generate options⟩ →
      run arguments environment read platform = .ok shown → shown.code ≠ 2 →
      let context := RuleContext.ofSettings (Settings.ofEnvironment environment options.overrides)
      ∃ result, shown.withoutLog = reportOf options.json result ∧
        result.NamesFiles options.schemas fun path =>
          context.generateFile read path (options.className.filter (· ≠ "")) options.package := by
  refine ⟨fun _ _ _ _ _ _ => Batch.namesFiles_of_runFinishing, ?_⟩
  intro arguments environment read platform log options shown understood ended used context
  obtain ⟨settings, ran⟩ := runGenerate_of_run understood ended
  obtain ⟨single, result, events, made, rfl⟩ := exists_resultOf_of_runGenerate ran used
  exact ⟨result, rfl, namesFiles_of_generateResult single (congrArg Prod.fst made)⟩

/-- The failures of a missing file and of two files with defects name their files by the normal
forms of the paths. -/
theorem errors_name_three_files :
    let arguments := ["generate", "./c.json", "a.json", "x/../b.json"]
    let list : List UInt8 := "[]".toList.map fun c => UInt8.ofNat c.toNat
    let schema := "\x7b\"required\": [0]\x7d".toList.map fun c => UInt8.ofNat c.toNat
    let read : FileReader := fun path =>
      if path = "a.json" then .ok list
      else if path = "x/../b.json" then .ok schema else .error .noSuchFile
    let options : GenerateOptions := { schemas := ["./c.json", "a.json", "x/../b.json"] }
    let context := RuleContext.ofSettings (Settings.ofEnvironment [] options.overrides)
    ∃ shown result, run arguments [] read = .ok shown ∧
      shown.errors = "[ERROR] ./c.json: c.json: cannot read schema: [Errno 2] " ++
        "No such file or directory: 'c.json'\n" ++
        "[ERROR] a.json: a.json: schema root must be an object\n" ++
        "[ERROR] x/../b.json: x/../b.json: 'required'[0] must be a string, got int\n" ∧
      shown.withoutLog = reportOf false result ∧
      result.NamesFiles options.schemas fun path => context.generateFile read path none none := by
  intro arguments list schema read options context
  have seen : (run arguments [] read).toOption.map (fun shown => (shown.code, shown.errors)) =
      some (1, "[ERROR] ./c.json: c.json: cannot read schema: [Errno 2] " ++
        "No such file or directory: 'c.json'\n" ++
        "[ERROR] a.json: a.json: schema root must be an object\n" ++
        "[ERROR] x/../b.json: x/../b.json: 'required'[0] must be a string, got int\n") := by
    decide +kernel
  cases ended : run arguments [] read with
  | error failure =>
    rw [ended] at seen
    cases seen
  | ok shown =>
    rw [ended] at seen
    obtain ⟨code, errors⟩ := Prod.mk.inj (Option.some.inj seen)
    have understood : readInvocation arguments = .ok ⟨{}, .generate options⟩ := rfl
    have used : shown.code ≠ 2 := by omega
    obtain ⟨result, report, named⟩ :=
      errors_name_files.2 arguments [] read {} {} options shown understood ended used
    exact ⟨shown, result, rfl, errors, report, named⟩

end CommandLine

end SchemaBeans
