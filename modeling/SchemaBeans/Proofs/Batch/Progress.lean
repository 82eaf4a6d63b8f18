import Mathlib.Data.List.Nodup
import SchemaBeans.Batch
import SchemaBeans.Proofs.Entries

/-!
# The progress of a batch

What a batch knows after some of its jobs have finished depends on which jobs those are, and not on
their order. `ProgressOf` says what it is, each finished job keeps it (`progressOf_finish`), and so
it holds after any number of them (`progressOf_foldl_finish`).
-/
namespace SchemaBeans

namespace Entries

variable {α : Type}

/-- Entries in the order of given keys have the values of the keys that are given. -/
theorem get?_inOrder (entries : Entries α) (keys : List String) (key : String) :
    (entries.inOrder keys).get? key = if key ∈ keys then entries.get? key else none := by
  rw [inOrder, get?_filterMap entries.get?]
  simp only [List.mem_eraseDups]

/-- The entries in the order of given keys are those of the keys that are given. -/
theorem mem_inOrder {entries : Entries α} {keys : List String} {key : String} {value : α} :
    (key, value) ∈ entries.inOrder keys ↔ key ∈ keys ∧ entries.get? key = some value := by
  simp [inOrder]

/-- Entries in the order of given keys have each key once, however often it is given. -/
theorem nodup_keys_inOrder (entries : Entries α) (order : List String) :
    (entries.inOrder order).keys.Nodup := by
  rw [inOrder, keys_filterMap]
  exact (nodup_eraseDups order).filter _

/-- Entries that are put in the order of keys hold the same values. -/
theorem Hold.inOrder {entries : Entries α} {value? : String → Option α} {keys : List String}
    (known : Hold entries value? keys) {order : List String}
    (same : ∀ key, key ∈ order ↔ key ∈ keys) : Hold (entries.inOrder order) value? order := by
  intro key
  rw [get?_inOrder, known key]
  by_cases member : key ∈ order
  · rw [if_pos member, if_pos ((same key).mp member), if_pos member]
  · rw [if_neg member, if_neg member]

end Entries

namespace BatchProgress

/-- The class of a job, if it has one. -/
def class? : Except Failure ClassModel → Option ClassModel
  | .ok target => some target
  | .error _ => none

/-- The message of a job that failed. -/
def message? : Except Failure ClassModel → Option String
  | .ok _ => none
  | .error failure => some failure.message

/-- A job has a class exactly if it ends with one. -/
theorem class?_eq_some_iff {outcome : Except Failure ClassModel} {target : ClassModel} :
    class? outcome = some target ↔ outcome = .ok target := by
  cases outcome <;> simp [class?]

/-- A job has a class or a message, and not both. -/
theorem isSome_message?_iff {outcome : Except Failure ClassModel} :
    (message? outcome).isSome = true ↔ ¬(class? outcome).isSome = true := by
  cases outcome <;> simp [class?, message?]

/-- Whether the outcome of a job stops the run. -/
def Stopping (outcome : Except Failure ClassModel) : Prop :=
  ∃ failure, outcome = .error failure ∧ failure.isReported = false

/-- What is known after jobs with the given outcomes have finished. -/
structure ProgressOf (outcome : String → Except Failure ClassModel) (finished : List String)
    (progress : BatchProgress) : Prop where
  /-- The run has stopped exactly if the outcome of a job stops it. -/
  stopped : progress.stopped.isSome = true ↔ ∃ path ∈ finished, Stopping (outcome path)
  /-- Unless it has, the classes are those of the finished jobs that have one. -/
  classes : progress.stopped = none →
    progress.result.classes.Hold (fun path => class? (outcome path)) finished
  /-- Unless it has, the messages are those of the finished jobs that failed. -/
  errors : progress.stopped = none →
    progress.result.errors.Hold (fun path => message? (outcome path)) finished
  /-- Unless it has, each finished job that failed is counted. -/
  failed : progress.stopped = none →
    progress.failed = finished.countP fun path => (message? (outcome path)).isSome

/-- Nothing is known before a job has finished. -/
theorem progressOf_nil (outcome : String → Except Failure ClassModel) :
    ProgressOf outcome [] {} := by
  constructor
  case stopped => simp
  case classes => exact fun _ => Entries.hold_nil _
  case errors => exact fun _ => Entries.hold_nil _
  case failed => exact fun _ => rfl

/-- A run that has stopped stays so. -/
theorem finish_of_stopped {progress : BatchProgress} (stopped : progress.stopped.isSome = true)
    (path : String) (outcome : Except Failure ClassModel) :
    progress.finish path outcome = progress := by
  unfold finish
  rw [if_pos stopped]

/-- A run that goes on keeps the class of a job. -/
theorem finish_ok {progress : BatchProgress} (running : progress.stopped = none) (path : String)
    (target : ClassModel) :
    progress.finish path (.ok target) =
      { progress with
        result := { progress.result with
          classes := progress.result.classes.put path target } } := by
  unfold finish
  rw [running, if_neg (by simp)]

/-- A run that goes on keeps the message of a defect, and counts the job. -/
theorem finish_reported {progress : BatchProgress} (running : progress.stopped = none)
    (path : String) {failure : Failure} (reported : failure.isReported = true) :
    progress.finish path (.error failure) =
      { progress with
        result := { progress.result with
          errors := progress.result.errors.put path failure.message }
        failed := progress.failed + 1 } := by
  unfold finish
  rw [running, if_neg (by simp)]
  exact if_pos reported

/-- A run that goes on is stopped by any other failure. -/
theorem finish_unreported {progress : BatchProgress} (running : progress.stopped = none)
    (path : String) {failure : Failure} (unreported : failure.isReported = false) :
    progress.finish path (.error failure) = { progress with stopped := some failure } := by
  unfold finish
  rw [running, if_neg (by simp)]
  exact if_neg (by simp [unreported])

/-- The jobs that stop a run are those that did and the last one, if it does. -/
theorem stopping_append {outcome : String → Except Failure ClassModel} {finished : List String}
    {path : String} :
    (∃ job ∈ finished ++ [path], Stopping (outcome job)) ↔
      (∃ job ∈ finished, Stopping (outcome job)) ∨ Stopping (outcome path) := by
  simp only [List.mem_append, List.mem_singleton, or_and_right, exists_or, exists_eq_left]

/-- Each finished job keeps what is known of a run. -/
theorem progressOf_finish {outcome : String → Except Failure ClassModel} {finished : List String}
    {progress : BatchProgress} (known : ProgressOf outcome finished progress) (path : String) :
    ProgressOf outcome (finished ++ [path]) (progress.finish path (outcome path)) := by
  cases running : progress.stopped with
  | some failure =>
    -- Only `stopped` still says something: the other facts are about runs that go on.
    have stopped : progress.stopped.isSome = true := by rw [running, Option.isSome_some]
    rw [finish_of_stopped stopped]
    have halted : progress.stopped ≠ none := by simp [running]
    refine ⟨?_, fun wrong => absurd wrong halted, fun wrong => absurd wrong halted,
      fun wrong => absurd wrong halted⟩
    rw [stopping_append, ← known.stopped]
    exact iff_of_true stopped (.inl stopped)
  | none =>
    have calm : ¬∃ job ∈ finished, Stopping (outcome job) := by
      rw [← known.stopped, running]
      simp
    have classes := known.classes running
    have errors := known.errors running
    have failed := known.failed running
    cases ended : outcome path with
    | ok target =>
      have quiet : ¬Stopping (outcome path) := by simp [Stopping, ended]
      rw [finish_ok running]
      constructor
      case stopped =>
        rw [stopping_append]
        simp [running, calm, quiet]
      case classes => exact fun _ => classes.put (by rw [ended, class?])
      case errors => exact fun _ => errors.skip (by rw [ended, message?])
      case failed => exact fun _ => by simp [failed, ended, message?]
    | error failure =>
      cases reported : failure.isReported with
      | true =>
        have quiet : ¬Stopping (outcome path) := by simp [Stopping, ended, reported]
        rw [finish_reported running path reported]
        constructor
        case stopped =>
          rw [stopping_append]
          simp [running, calm, quiet]
        case classes => exact fun _ => classes.skip (by rw [ended, class?])
        case errors => exact fun _ => errors.put (by rw [ended, message?])
        case failed => exact fun _ => by simp [failed, ended, message?]
      | false =>
        have stopping : Stopping (outcome path) := ⟨failure, ended, reported⟩
        rw [finish_unreported running path reported]
        refine ⟨?_, nofun, nofun, nofun⟩
        rw [stopping_append]
        exact iff_of_true rfl (.inr stopping)

/-- What is known after jobs have finished, one after the other. -/
theorem progressOf_foldl_finish (outcome : String → Except Failure ClassModel)
    (finished : List String) :
    ProgressOf outcome finished
      (finished.foldl (fun progress path => progress.finish path (outcome path)) {}) := by
  -- A job joins the finished ones at their end, so the induction is over the jobs still to come.
  have later {before after : List String} {progress : BatchProgress}
      (known : ProgressOf outcome before progress) :
      ProgressOf outcome (before ++ after)
        (after.foldl (fun progress path => progress.finish path (outcome path)) progress) := by
    induction after generalizing before progress with
    | nil => simpa using known
    | cons path rest ih =>
      rw [List.foldl_cons, ← List.singleton_append, ← List.append_assoc]
      exact ih (progressOf_finish known path)
  exact later (progressOf_nil outcome)

end BatchProgress

end SchemaBeans
