import SchemaBeans.Proofs.Batch.Isolation

/-!
# Scheduling of a batch

The jobs of a batch finish in an order that nobody knows, a path may be given more than once, and a
batch may have run before. None of this shows in what a run reports: where no job stops it, the run
is that of a new batch whose jobs finish one after the other (`afterRuns_runFinishing`), and its
result and counts are those of the outcomes of the given paths (`Reports`).
-/
namespace SchemaBeans

namespace Entries

variable {α : Type}

/-- The values of those keys that have one, each under its key where that is first given. -/
def ofKeys (value? : String → Option α) (keys : List String) : Entries α :=
  keys.eraseDups.filterMap fun key => (value? key).map (key, ·)

/-- Entries that are made of keys hold the values of the keys. -/
theorem hold_ofKeys (value? : String → Option α) (keys : List String) :
    Hold (ofKeys value? keys) value? keys := by
  intro key
  rw [ofKeys, get?_filterMap]
  simp only [List.mem_eraseDups]

/-- Entries that are made of keys stand under the distinct keys that have a value, in their
order. -/
theorem keys_ofKeys (value? : String → Option α) (keys : List String) :
    (ofKeys value? keys).keys = keys.eraseDups.filter fun key => (value? key).isSome :=
  keys_filterMap value? keys.eraseDups

/-- Entries that are made of keys are the keys with their values. -/
theorem mem_ofKeys {value? : String → Option α} {keys : List String} {key : String} {value : α} :
    (key, value) ∈ ofKeys value? keys ↔ key ∈ keys ∧ value? key = some value := by
  simp [ofKeys]

/-- Entries that hold the values of keys are put in order as if they were made of the keys. -/
theorem Hold.inOrder_eq {entries : Entries α} {value? : String → Option α}
    {keys order : List String} (known : Hold entries value? keys)
    (given : ∀ key ∈ order, key ∈ keys) : entries.inOrder order = ofKeys value? order := by
  refine List.filterMap_congr fun key member => ?_
  rw [known.get?_eq (given key (List.mem_eraseDups.mp member))]

end Entries

namespace Batch

open BatchProgress

/-- What a run reports if its jobs have the given outcomes. -/
structure Reports (outcome : String → Except Failure ClassModel) (paths : List String)
    (result : BatchResult) (stats : BatchStats) : Prop where
  /-- The classes are those of the distinct paths that have one, in the order of the paths. -/
  classes : result.classes = Entries.ofKeys (fun path => class? (outcome path)) paths
  /-- The messages are those of the distinct paths that failed, in the order of the paths. -/
  errors : result.errors = Entries.ofKeys (fun path => message? (outcome path)) paths
  /-- No path has both. -/
  exclusive : ∀ path, ¬(path ∈ result.classes.keys ∧ path ∈ result.errors.keys)
  /-- The given paths are those that have one or the other. -/
  listed : ∀ path, path ∈ paths ↔ path ∈ result.classes.keys ∨ path ∈ result.errors.keys
  /-- All jobs are counted, also those of one path. -/
  total : stats.total = paths.length
  /-- So are those that gave a class. -/
  succeeded : stats.succeeded = paths.countP fun path => (class? (outcome path)).isSome
  /-- So are those that failed. -/
  failed : stats.failed = paths.countP fun path => (message? (outcome path)).isSome
  /-- The run succeeds exactly if each path has a class. -/
  success : result.success = true ↔ ∀ path ∈ paths, ∃ target, outcome path = .ok target

/-- The result of jobs with the given outcomes. -/
def resultOf (outcome : String → Except Failure ClassModel) (paths : List String) :
    BatchResult where
  classes := .ofKeys (fun path => class? (outcome path)) paths
  errors := .ofKeys (fun path => message? (outcome path)) paths

/-- The counts of jobs with the given outcomes. -/
def statsOf (outcome : String → Except Failure ClassModel) (paths : List String) : BatchStats where
  total := paths.length
  succeeded := paths.countP fun path => (class? (outcome path)).isSome
  failed := paths.countP fun path => (message? (outcome path)).isSome

/-- There are no messages exactly if each path has a class. -/
theorem success_resultOf (outcome : String → Except Failure ClassModel) (paths : List String) :
    (resultOf outcome paths).success = true ↔
      ∀ path ∈ paths, ∃ target, outcome path = .ok target := by
  unfold BatchResult.success resultOf Entries.ofKeys
  simp only [List.isEmpty_iff, List.filterMap_eq_nil_iff, List.mem_eraseDups,
    Option.map_eq_none_iff]
  refine forall₂_congr fun path _ => ?_
  cases outcome path <;> simp [message?]

/-- The result and the counts of outcomes are what a run is to report. -/
theorem reports_resultOf (outcome : String → Except Failure ClassModel) (paths : List String) :
    Reports outcome paths (resultOf outcome paths) (statsOf outcome paths) := by
  have inClasses (path : String) : path ∈ (resultOf outcome paths).classes.keys ↔
      path ∈ paths ∧ (class? (outcome path)).isSome = true :=
    (Entries.hold_ofKeys _ paths).mem_keys_iff
  have inErrors (path : String) : path ∈ (resultOf outcome paths).errors.keys ↔
      path ∈ paths ∧ ¬(class? (outcome path)).isSome = true := by
    rw [← isSome_message?_iff]
    exact (Entries.hold_ofKeys _ paths).mem_keys_iff
  constructor
  case classes => rfl
  case errors => rfl
  case exclusive =>
    rintro path ⟨hasClass, hasError⟩
    exact ((inErrors path).mp hasError).2 ((inClasses path).mp hasClass).2
  case listed =>
    intro path
    rw [inClasses, inErrors, ← and_or_left, and_iff_left (Classical.em _)]
  case total => rfl
  case succeeded => rfl
  case failed => rfl
  case success => exact success_resultOf outcome paths

/-- Each job gives a class or fails. -/
theorem countP_class?_add_countP_message? (outcome : String → Except Failure ClassModel)
    (paths : List String) :
    (paths.countP fun path => (class? (outcome path)).isSome) +
      (paths.countP fun path => (message? (outcome path)).isSome) = paths.length := by
  rw [List.length_eq_countP_add_countP fun path => (class? (outcome path)).isSome]
  congr 1
  refine List.countP_congr fun path _ => ?_
  rw [isSome_message?_iff, decide_eq_true_iff]

/-- Where no job stops it, a run has the result and the counts of the outcomes of its paths, in
whatever order its jobs finish. -/
theorem runFinishing_eq {batch : Batch} {read : FileReader} {paths finished : List String}
    {package : Option String} (working : 1 ≤ batch.workers) (order : finished.Perm paths)
    (calm : ∀ path ∈ paths, ¬Stopping (batch.outcome read package path)) :
    let outcome := batch.outcome read package
    batch.runFinishing finished read paths package =
      ({ batch with stats := statsOf outcome paths }, .ok (resultOf outcome paths)) := by
  intro outcome
  by_cases given : paths = []
  · -- Without paths a run returns before it looks at its jobs.
    subst given
    rfl
  · have known := progressOf_foldl_finish outcome finished
    have running : (batch.progressAfter read package finished).stopped = none := by
      rw [← Option.not_isSome_iff_eq_none, progressAfter, known.stopped]
      rintro ⟨path, member, stops⟩
      exact calm path (order.mem_iff.mp member) stops
    have failed : (batch.progressAfter read package finished).failed =
        paths.countP fun path => (message? (outcome path)).isSome := by
      rw [← order.countP_eq]
      exact known.failed running
    have member : ∀ path ∈ paths, path ∈ finished := fun path => order.mem_iff.mpr
    have classes := (known.classes running).inOrder_eq member
    have errors := (known.errors running).inOrder_eq member
    have counted := countP_class?_add_countP_message? outcome paths
    have succeeded : paths.length - (batch.progressAfter read package finished).failed =
        paths.countP fun path => (class? (outcome path)).isSome := by
      omega
    rw [runFinishing_of_running working given running, statsOf, resultOf, ← classes, ← errors,
      ← succeeded, ← failed]
    rfl

/-- A run has a result exactly if no job stops it, and then that of the outcomes of its paths. -/
theorem runFinishing_eq_ok_iff {batch : Batch} {read : FileReader} {paths finished : List String}
    {package : Option String} {result : BatchResult} (working : 1 ≤ batch.workers)
    (order : finished.Perm paths) :
    (batch.runFinishing finished read paths package).2 = .ok result ↔
      (∀ path ∈ paths, ¬Stopping (batch.outcome read package path)) ∧
        result = resultOf (batch.outcome read package) paths := by
  constructor
  · intro gave
    have calm : ∀ path ∈ paths, ¬Stopping (batch.outcome read package path) := by
      intro path member stops
      have escapes := (batch.context.generateFile_unreported_iff read path package).mp stops
      obtain ⟨failure, lost⟩ := runFinishing_of_escapes package working order member escapes
      cases gave.symm.trans lost
    rw [runFinishing_eq working order calm] at gave
    exact ⟨calm, (Except.ok.inj gave).symm⟩
  · rintro ⟨calm, rfl⟩
    rw [runFinishing_eq working order calm]

/-- A run of a batch: the files as they are during the run, the paths that are given, the order in
which their jobs finish, and the package. -/
structure Run where
  /-- The files. -/
  read : FileReader
  /-- The given paths. -/
  paths : List String
  /-- The paths of the jobs in the order in which they finish. -/
  finished : List String
  /-- The package of the classes. -/
  package : Option String := none

/-- A batch after runs, whether they gave a result or not. -/
def afterRuns (batch : Batch) (runs : List Run) : Batch :=
  runs.foldl (fun batch run => (batch.runFinishing run.finished run.read run.paths run.package).1)
    batch

/-- A run changes nothing but the counts. -/
theorem runFinishing_fst (batch : Batch) (read : FileReader) (paths finished : List String)
    (package : Option String) :
    ∃ stats, (batch.runFinishing finished read paths package).1 = { batch with stats } := by
  unfold runFinishing
  split
  · exact ⟨_, rfl⟩
  · split
    · exact ⟨_, rfl⟩
    · simp only []
      split <;> exact ⟨_, rfl⟩

/-- Runs change nothing but the counts. -/
theorem afterRuns_eq (batch : Batch) (runs : List Run) :
    ∃ stats, batch.afterRuns runs = { batch with stats } := by
  induction runs generalizing batch with
  | nil => exact ⟨batch.stats, rfl⟩
  | cons run rest ih =>
    obtain ⟨once, first⟩ :=
      runFinishing_fst batch run.read run.paths run.finished run.package
    obtain ⟨stats, later⟩ := ih { batch with stats := once }
    refine ⟨stats, ?_⟩
    rw [afterRuns, List.foldl_cons, first]
    exact later

/-- Where no job stops it, a run after any others, whose jobs finish in any order, is that of the
batch as it was, with jobs that finish one after the other; and it reports the outcomes of the given
paths. -/
theorem afterRuns_runFinishing {batch : Batch} (working : 1 ≤ batch.workers) (earlier : List Run)
    {read : FileReader} {paths finished : List String} {package : Option String}
    (order : finished.Perm paths)
    (calm : ∀ path ∈ paths, ¬Stopping (batch.outcome read package path)) :
    (batch.afterRuns earlier).runFinishing finished read paths package =
        batch.run read paths package ∧
      ∃ result, (batch.run read paths package).2 = .ok result ∧
        Reports (batch.outcome read package) paths result
          (batch.run read paths package).1.stats := by
  obtain ⟨stats, kept⟩ := afterRuns_eq batch earlier
  have sequential : batch.run read paths package = _ :=
    runFinishing_eq working (List.Perm.refl paths) calm
  have scheduled : ({ batch with stats } : Batch).runFinishing finished read paths package = _ :=
    runFinishing_eq working order calm
  constructor
  · rw [kept, scheduled, sequential]
    rfl
  · rw [sequential]
    exact ⟨_, rfl, reports_resultOf _ paths⟩

/-- A run with a path that is given twice, and one of a missing file, after a run that was
stopped. -/
theorem afterRuns_runFinishing_repeated :
    let batch : Batch := { context := .ofSettings {}, workers := 2 }
    let read : FileReader := (Tree.addFile {} "a.json" [0x7B, 0x7D]).read
    let stopped : Run := { read, paths := ["a.json", "\x00"], finished := ["\x00", "a.json"] }
    let paths := ["a.json", "b.json", "a.json"]
    let finished := ["b.json", "a.json", "a.json"]
    (batch.runFinishing stopped.finished stopped.read stopped.paths).2 = .error .nullInPath ∧
      (batch.afterRuns [stopped]).runFinishing finished read paths = batch.run read paths ∧
      ∃ result, (batch.run read paths).2 = .ok result ∧
        Reports (batch.outcome read none) paths result (batch.run read paths).1.stats := by
  intro batch read stopped paths finished
  refine ⟨rfl, afterRuns_runFinishing (by decide) _ (by decide) fun path member => ?_⟩
  rw [outcome, RuleContext.generateFile_unreported_iff, ← Schema.load_unreported_iff]
  rintro ⟨failure, failed, unreported⟩
  have either : path = "a.json" ∨ path = "b.json" := by
    simp only [paths, List.mem_cons, List.not_mem_nil, or_false] at member
    tauto
  rcases either with rfl | rfl
  · have loaded : Schema.load read "a.json" = .ok ⟨[], some "a.json"⟩ := rfl
    cases loaded.symm.trans failed
  · have missing : Schema.load read "b.json" =
        .error (.malformed ⟨.unreadable .noSuchFile "b.json", some "b.json"⟩) := rfl
    obtain rfl := Except.error.inj (missing.symm.trans failed)
    cases unreported

end Batch

end SchemaBeans
