import SchemaBeans.Generation

/-!
# Batches of files

A batch generates one class for each of many files. Its jobs may finish in any order, and a file
whose schema is malformed does not keep the others from finishing; its result lists classes and
errors in the order of the given paths all the same. Any other failure stops the run.
-/
namespace SchemaBeans

/-- The classes and the error messages of files, each under its path. -/
structure BatchResult where
  /-- The classes of the files that have one. -/
  classes : Entries ClassModel := []
  /-- The messages of the files that failed. -/
  errors : Entries String := []

/-- Whether no file failed. -/
def BatchResult.success (result : BatchResult) : Bool := result.errors.isEmpty

/-- The counts of a run. -/
structure BatchStats where
  /-- The number of jobs. -/
  total : Nat := 0
  /-- The number of jobs that gave a class. -/
  succeeded : Nat := 0
  /-- The number of jobs that failed. -/
  failed : Nat := 0
deriving DecidableEq, Repr

/-- A generator of many classes with the counts of its last run. -/
structure Batch where
  /-- What the rules share. -/
  context : RuleContext
  /-- The number of workers. -/
  workers : Int
  /-- The counts of the last run. -/
  stats : BatchStats := {}

/-- What the finished jobs of a run have given. -/
structure BatchProgress where
  /-- The classes and messages so far. -/
  result : BatchResult := {}
  /-- The number of failed jobs so far. -/
  failed : Nat := 0
  /-- What stopped the run. -/
  stopped : Option Failure := none

namespace BatchProgress

/-- Take the outcome of the job of a path, unless the run has stopped. -/
def finish (progress : BatchProgress) (path : String) (outcome : Except Failure ClassModel) :
    BatchProgress :=
  if progress.stopped.isSome then progress
  else
    match outcome with
    | .ok target =>
      let classes := progress.result.classes.put path target
      { progress with result := { progress.result with classes } }
    | .error failure =>
      if failure.isReported then
        let errors := progress.result.errors.put path failure.message
        { progress with
          result := { progress.result with errors }
          failed := progress.failed + 1 }
      else { progress with stopped := some failure }

end BatchProgress

/-- The entries under the given keys, in the order of the keys. -/
def Entries.inOrder {α : Type} (entries : Entries α) (keys : List String) : Entries α :=
  keys.eraseDups.filterMap fun key => (entries.get? key).map (key, ·)

namespace Batch

/-- A batch with the given number of workers, or that of the settings without a number or with
zero. -/
def new (context : RuleContext) (workers : Option Int := none) : Batch where
  context
  workers := (workers.filter (· ≠ 0)).getD context.settings.maxWorkers

/-- Run the jobs of the given paths, which finish in the order `finished`. -/
def runFinishing (finished : List String) (batch : Batch) (read : FileReader)
    (paths : List String) (package : Option String := none) :
    Batch × Except Failure BatchResult :=
  if paths.isEmpty then ({ batch with stats := {} }, .ok {})
  else if batch.workers ≤ 0 then
    ({ batch with stats := { total := paths.length } }, .error .noWorkers)
  else
    let progress : BatchProgress := finished.foldl (fun progress path =>
      progress.finish path (batch.context.generateFile read path none package)) {}
    let failed := progress.failed
    match progress.stopped with
    | some failure => ({ batch with stats := { total := paths.length, failed } }, .error failure)
    | none =>
      let stats := { total := paths.length, succeeded := paths.length - failed, failed }
      ({ batch with stats }, .ok {
        classes := progress.result.classes.inOrder paths
        errors := progress.result.errors.inOrder paths })

/-- Run the jobs of the given paths one after the other. -/
def run (batch : Batch) (read : FileReader) (paths : List String)
    (package : Option String := none) : Batch × Except Failure BatchResult :=
  batch.runFinishing paths read paths package

/-- What happens at the job of a path. -/
def jobEvents (batch : Batch) (read : FileReader) (path : String) (package : Option String) :
    List Event :=
  batch.context.fileEvents read path none package ++
    match batch.context.generateFile read path none package with
    | .ok _ => []
    | .error failure => [.fileFailed .batch path failure.message]

/-- What happens while the jobs of the given paths run and none stops the run. -/
def events (batch : Batch) (read : FileReader) (paths : List String)
    (package : Option String := none) : List Event :=
  let stats := (batch.run read paths package).1.stats
  paths.flatMap (batch.jobEvents read · package) ++
    if paths.isEmpty then [] else [.batchComplete stats.succeeded stats.failed]

end Batch

end SchemaBeans
