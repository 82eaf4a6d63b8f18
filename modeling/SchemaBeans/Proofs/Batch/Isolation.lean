import SchemaBeans.Proofs.Batch.Progress
import SchemaBeans.Proofs.Generation.Closed
import SchemaBeans.Proofs.Schema.Loading

/-!
# Isolation of failures in a batch

A file with a defect does not keep a batch from its result, in which every path is either that of a
class or that of a message. The result is lost exactly if the file under some path escapes
(`isolates_iff`), in whatever order the jobs finish.
-/
namespace SchemaBeans

/-- Only a file that escapes fails for another reason than a defect. -/
theorem RuleContext.generateFile_unreported_iff (context : RuleContext) (read : FileReader)
    (path : String) (package : Option String) :
    BatchProgress.Stopping (context.generateFile read path none package) ↔
      Schema.Escapes read path := by
  rw [← Schema.load_unreported_iff, BatchProgress.Stopping, generateFile]
  cases Schema.load read path with
  | error failure =>
    constructor
    · rintro ⟨other, failed, unreported⟩
      obtain rfl : failure = other := Except.error.inj failed
      exact ⟨failure, rfl, unreported⟩
    · rintro ⟨other, failed, unreported⟩
      obtain rfl : failure = other := Except.error.inj failed
      exact ⟨failure, rfl, unreported⟩
  | ok schema =>
    constructor
    · rintro ⟨failure, failed, unreported⟩
      rw [isReported_of_generate failed] at unreported
      cases unreported
    · rintro ⟨failure, failed, _⟩
      cases failed

namespace Batch

open BatchProgress

/-- The outcome of the job of a path. -/
def outcome (batch : Batch) (read : FileReader) (package : Option String) (path : String) :
    Except Failure ClassModel :=
  batch.context.generateFile read path none package

/-- A result in which no file stands in the way of another, with the counts of its run. -/
structure Isolates (outcome : String → Except Failure ClassModel) (paths : List String)
    (result : BatchResult) (stats : BatchStats) : Prop where
  /-- Each path is that of a class or that of a message. -/
  listed : ∀ path ∈ paths, path ∈ result.classes.keys ∨ path ∈ result.errors.keys
  /-- No path is both. -/
  exclusive : ∀ path, ¬(path ∈ result.classes.keys ∧ path ∈ result.errors.keys)
  /-- No other path is either. -/
  known : ∀ path, path ∈ result.classes.keys ∨ path ∈ result.errors.keys → path ∈ paths
  /-- The class of a path is the class of its file alone. -/
  classes : ∀ path ∈ paths, ∀ target, outcome path = .ok target →
    result.classes.get? path = some target
  /-- The message of a path is the message of its file alone. -/
  errors : ∀ path ∈ paths, ∀ failure, outcome path = .error failure →
    result.errors.get? path = some failure.message
  /-- All jobs are counted. -/
  total : stats.total = paths.length
  /-- Each job gave a class or failed. -/
  counted : stats.succeeded + stats.failed = stats.total

/-- Entries that hold the classes and the messages of the paths isolate the failures. -/
theorem isolates_of_hold {outcome : String → Except Failure ClassModel} {paths : List String}
    {result : BatchResult} {stats : BatchStats}
    (classes : result.classes.Hold (fun path => class? (outcome path)) paths)
    (errors : result.errors.Hold (fun path => message? (outcome path)) paths)
    (total : stats.total = paths.length)
    (counted : stats.succeeded + stats.failed = stats.total) :
    Isolates outcome paths result stats := by
  have inErrors (path : String) : path ∈ result.errors.keys ↔
      path ∈ paths ∧ ¬(class? (outcome path)).isSome = true := by
    rw [errors.mem_keys_iff, isSome_message?_iff]
  constructor
  case listed =>
    intro path member
    rw [classes.mem_keys_iff, inErrors]
    by_cases made : (class? (outcome path)).isSome = true
    · exact .inl ⟨member, made⟩
    · exact .inr ⟨member, made⟩
  case exclusive =>
    rintro path ⟨hasClass, hasError⟩
    exact ((inErrors path).mp hasError).2 (classes.mem_keys_iff.mp hasClass).2
  case known =>
    rintro path (hasClass | hasError)
    · exact (classes.mem_keys_iff.mp hasClass).1
    · exact (errors.mem_keys_iff.mp hasError).1
  case classes =>
    intro path member target ended
    rw [classes.get?_eq member, class?_eq_some_iff]
    exact ended
  case errors =>
    intro path member failure ended
    rw [errors.get?_eq member, ended]
    rfl
  case total => exact total
  case counted => exact counted

/-- What the jobs of a batch have given when all of them have finished. -/
def progressAfter (batch : Batch) (read : FileReader) (package : Option String)
    (finished : List String) : BatchProgress :=
  finished.foldl (fun progress path => progress.finish path (batch.outcome read package path)) {}

/-- A run that was stopped has no result. -/
theorem runFinishing_of_stopped {batch : Batch} {read : FileReader} {paths finished : List String}
    {package : Option String} (working : 1 ≤ batch.workers) (given : paths ≠ []) {failure : Failure}
    (stopped : (batch.progressAfter read package finished).stopped = some failure) :
    (batch.runFinishing finished read paths package).2 = .error failure := by
  have some : paths.isEmpty = false := by simpa using given
  have enough : ¬batch.workers ≤ 0 := by omega
  unfold progressAfter outcome at stopped
  simp only [runFinishing, some, enough, if_false, stopped, Bool.false_eq_true]

/-- A run that was not stopped has the classes and messages of its jobs as its result. -/
theorem runFinishing_of_running {batch : Batch} {read : FileReader} {paths finished : List String}
    {package : Option String} (working : 1 ≤ batch.workers) (given : paths ≠ [])
    (running : (batch.progressAfter read package finished).stopped = none) :
    let progress := batch.progressAfter read package finished
    batch.runFinishing finished read paths package =
      ({ batch with
          stats := {
            total := paths.length
            succeeded := paths.length - progress.failed
            failed := progress.failed } },
        .ok {
          classes := progress.result.classes.inOrder paths
          errors := progress.result.errors.inOrder paths }) := by
  intro progress
  have some : paths.isEmpty = false := by simpa using given
  have enough : ¬batch.workers ≤ 0 := by omega
  unfold progress progressAfter outcome at *
  simp only [runFinishing, some, enough, if_false, running, Bool.false_eq_true]

/-- The result of a run is what some finished jobs have given, in the order of the paths. -/
theorem exists_progress_of_runFinishing {batch : Batch} {read : FileReader}
    {paths finished : List String} {package : Option String} {result : BatchResult}
    (gave : (batch.runFinishing finished read paths package).2 = .ok result) :
    ∃ jobs progress, ProgressOf (batch.outcome read package) jobs progress ∧
      progress.stopped = none ∧
      result = {
        classes := progress.result.classes.inOrder paths
        errors := progress.result.errors.inOrder paths } := by
  by_cases given : paths = []
  · -- Without paths a run returns before it looks at its jobs.
    subst given
    exact ⟨[], {}, progressOf_nil _, rfl, (Except.ok.inj gave).symm⟩
  · by_cases working : 1 ≤ batch.workers
    · have known := progressOf_foldl_finish (batch.outcome read package) finished
      cases running : (batch.progressAfter read package finished).stopped with
      | some failure => cases gave.symm.trans (runFinishing_of_stopped working given running)
      | none =>
        rw [runFinishing_of_running working given running] at gave
        exact ⟨finished, _, known, running, (Except.ok.inj gave).symm⟩
    · have some : paths.isEmpty = false := by simpa using given
      have idle : batch.workers ≤ 0 := by omega
      simp [runFinishing, some, idle] at gave

/-- The jobs of a batch stop its run exactly if a file escapes. -/
theorem isSome_stopped_iff {batch : Batch} {read : FileReader} {paths finished : List String}
    {package : Option String} (order : finished.Perm paths) :
    (batch.progressAfter read package finished).stopped.isSome = true ↔
      ∃ path ∈ paths, Schema.Escapes read path := by
  rw [progressAfter, (progressOf_foldl_finish (batch.outcome read package) finished).stopped]
  refine exists_congr fun path => and_congr order.mem_iff ?_
  exact batch.context.generateFile_unreported_iff read path package

/-- A file that escapes loses the result for all files. -/
theorem runFinishing_of_escapes {batch : Batch} {read : FileReader} {paths finished : List String}
    (package : Option String) (working : 1 ≤ batch.workers) (order : finished.Perm paths)
    {path : String} (member : path ∈ paths) (escapes : Schema.Escapes read path) :
    ∃ failure, (batch.runFinishing finished read paths package).2 = .error failure := by
  have stopped : (batch.progressAfter read package finished).stopped.isSome = true :=
    (isSome_stopped_iff order).mpr ⟨path, member, escapes⟩
  obtain ⟨failure, reason⟩ := Option.isSome_iff_exists.mp stopped
  exact ⟨failure, runFinishing_of_stopped working (List.ne_nil_of_mem member) reason⟩

/-- Where no file escapes, a batch with workers isolates the failures. -/
theorem isolates_of_calm {batch : Batch} {read : FileReader} {paths finished : List String}
    {package : Option String} (working : 1 ≤ batch.workers) (order : finished.Perm paths)
    (calm : ∀ path ∈ paths, ¬Schema.Escapes read path) :
    ∃ result, (batch.runFinishing finished read paths package).2 = .ok result ∧
      Isolates (batch.outcome read package) paths result
        (batch.runFinishing finished read paths package).1.stats := by
  by_cases given : paths = []
  · -- Without paths a run returns before it looks at its jobs.
    subst given
    exact ⟨{}, rfl, isolates_of_hold (Entries.hold_nil _) (Entries.hold_nil _) rfl rfl⟩
  · have known := progressOf_foldl_finish (batch.outcome read package) finished
    have running : (batch.progressAfter read package finished).stopped = none := by
      rw [← Option.not_isSome_iff_eq_none, isSome_stopped_iff order]
      rintro ⟨path, member, escapes⟩
      exact calm path member escapes
    have few : (batch.progressAfter read package finished).failed ≤ paths.length := by
      rw [progressAfter, known.failed running, ← order.length_eq]
      exact List.countP_le_length
    rw [runFinishing_of_running working given running]
    refine ⟨_, rfl, isolates_of_hold ?_ ?_ rfl (Nat.sub_add_cancel few)⟩
    · exact (known.classes running).inOrder fun path => order.mem_iff.symm
    · exact (known.errors running).inOrder fun path => order.mem_iff.symm

/-- A batch with workers isolates failures exactly if no file escapes, in whatever order its jobs
finish. -/
theorem isolates_iff {batch : Batch} {read : FileReader} {paths finished : List String}
    {package : Option String} (working : 1 ≤ batch.workers) (order : finished.Perm paths) :
    (∃ result, (batch.runFinishing finished read paths package).2 = .ok result ∧
      Isolates (batch.outcome read package) paths result
        (batch.runFinishing finished read paths package).1.stats) ↔
      ∀ path ∈ paths, ¬Schema.Escapes read path := by
  constructor
  · rintro ⟨result, returned, _⟩ path member escapes
    obtain ⟨failure, lost⟩ := runFinishing_of_escapes package working order member escapes
    cases returned.symm.trans lost
  · exact isolates_of_calm working order

/-- A missing file leaves the class of another file in the result. -/
theorem isolates_missing_file :
    let batch : Batch := { context := .ofSettings {}, workers := 2 }
    let read : FileReader := (Tree.addFile {} "a.json" [0x7B, 0x7D]).read
    let paths := ["a.json", "b.json"]
    ∃ result, (batch.runFinishing ["b.json", "a.json"] read paths none).2 = .ok result ∧
      Isolates (batch.outcome read none) paths result
        (batch.runFinishing ["b.json", "a.json"] read paths none).1.stats := by
  intro batch read paths
  refine (isolates_iff (by decide) (List.Perm.swap _ _ _)).mpr fun path member => ?_
  rw [← Schema.load_unreported_iff]
  rintro ⟨failure, failed, unreported⟩
  rcases List.mem_cons.mp member with rfl | member
  · have loaded : Schema.load read "a.json" = .ok ⟨[], some "a.json"⟩ := rfl
    cases loaded.symm.trans failed
  · obtain rfl := List.mem_singleton.mp member
    have missing : Schema.load read "b.json" =
        .error (.malformed ⟨.unreadable .noSuchFile "b.json", some "b.json"⟩) := rfl
    obtain rfl := Except.error.inj (missing.symm.trans failed)
    cases unreported

/-- An integer with too many digits in one file loses the class of another file. -/
theorem not_forall_isolates :
    ¬∀ (batch : Batch) (read : FileReader) (paths finished : List String)
      (package : Option String), 1 ≤ batch.workers → finished.Perm paths →
      ∃ result, (batch.runFinishing finished read paths package).2 = .ok result ∧
        Isolates (batch.outcome read package) paths result
          (batch.runFinishing finished read paths package).1.stats := by
  intro isolated
  let batch : Batch := { context := .ofSettings {}, workers := 4 }
  let oversized := (Json.integerObject 4301).map fun c => UInt8.ofNat c.toNat
  let read : FileReader := fun path => .ok (if path = "a.json" then oversized else [0x7B, 0x7D])
  have normal : Path.normalize "a.json" = "a.json" := by decide
  have stored : read (Path.normalize "a.json") = .ok oversized := by
    simp only [read, normal, if_true]
  have escapes : Schema.Escapes read "a.json" :=
    Schema.escapes_of_integerObject (by decide : Text.maxDigits < 4301) stored
  have working : 1 ≤ batch.workers := by decide
  have order := List.Perm.refl ["a.json", "b.json"]
  obtain ⟨failure, lost⟩ :=
    runFinishing_of_escapes none working order List.mem_cons_self escapes
  obtain ⟨result, returned, _⟩ := isolated batch read _ _ none working order
  cases returned.symm.trans lost

end Batch

end SchemaBeans
