import SchemaBeans.Proofs.CommandLine.Accounting
import SchemaBeans.Proofs.Generation.Unbroken

/-!
# The lines of a report

A run that shows its report as lines ends exactly if nothing stops it and the standard output takes
the report, as it takes that of any schemas of Unicode text; and then a schema cannot add lines to
what the run shows. Unless its options are refused and nothing is shown, the standard output is cut
at its line feeds into lines that have the layout of the result: as many as its classes have members
and members with documentation, whatever stands in the schemas (`run_text_lines`). Only what is
given beside the schemas has to be free of line feeds.
-/
namespace SchemaBeans

open Text BatchProgress

namespace CommandLine

variable {environment : Environment} {read : FileReader} {options : GenerateOptions}
  {platform : Platform}

/-- What options give and a report shows stands on one line each. -/
structure GenerateOptions.Unbroken (options : GenerateOptions) (environment : Environment) :
    Prop where
  /-- Each path does. -/
  paths : ∀ path ∈ options.schemas, Text.Unbroken path
  /-- The package does, be it given or that of the settings. -/
  package : Text.Unbroken
    (options.package.getD (Settings.ofEnvironment environment options.overrides).targetPackage)
  /-- A given name does. -/
  className : ∀ name, options.className = some name → Text.Unbroken name

/-- What is shown as lines for files has the lines of their result. -/
structure ShowsLines (result : BatchResult) (shown : RunResult) (lines : List String) : Prop where
  /-- The standard output is cut at its line feeds into the lines, and nothing stands after the last
  of them. -/
  cut : shown.output.toList.splitOn '\n' = lines.map String.toList ++ [[]]
  /-- The lines have the layout of the result. -/
  laidOut : LaysOutRun result lines
  /-- There are as many as it takes for its classes, and two more. -/
  counted : lines.length = (result.classes.map fun entry => entry.2.lineCount).sum + 2

/-- The class of a file is unbroken where no metadata is recorded, if what its options give is. -/
theorem unbroken_outcome (unbroken : options.Unbroken environment)
    (unrecorded : (Settings.ofEnvironment environment options.overrides).swagger2 = false)
    {path : String} {target : ClassModel}
    (made : options.outcome environment read path = .ok target) : target.Unbroken := by
  let context := RuleContext.ofSettings (Settings.ofEnvironment environment options.overrides)
  have none : context.metadata = .none := by
    simp [context, RuleContext.ofSettings, RuleContext.metadataOf, unrecorded]
  exact RuleContext.unbroken_generateFile none unbroken.package
    (fun name given => unbroken.className name (Option.filter_eq_some_iff.mp given).1) made

/-- A schema adds no lines to a report, whatever stands in it. A run that shows its report as lines
and records no metadata ends exactly if nothing stops it and the standard output takes the report,
which any schemas of Unicode text allow. Then it shows nothing, if its options are refused, or the
lines of the result of its files, if no path, package or given name adds lines. -/
theorem run_text_lines {arguments : List String} {log : LogOptions}
    (understood : readInvocation arguments platform = .ok ⟨log, .generate options⟩)
    (asText : options.json = false)
    (unrecorded : (Settings.ofEnvironment environment options.overrides).swagger2 = false)
    (unbroken : options.Unbroken environment) :
    let result := Batch.resultOf (options.outcome environment read) options.schemas
    ((∃ shown, run arguments environment read platform = .ok shown) ↔
      ¬log.Refused ∧ ¬options.MissesWorkers ∧ (options.Refused environment ∨
        (∀ path ∈ options.schemas, ¬Stopping (options.outcome environment read path)) ∧
          options.Printable environment read platform)) ∧
    ((∀ path ∈ options.schemas, Schema.unpaired read path = []) →
      options.Printable environment read platform) ∧
    ∀ shown, run arguments environment read platform = .ok shown →
      (options.Refused environment → shown.output = "") ∧
      (¬options.Refused environment → ∃ lines, ShowsLines result shown lines) := by
  intro result
  refine ⟨?_, printable_of_unpaired_eq_nil, fun shown ended => ?_⟩
  · rw [run_eq_runInvocation understood]
    exact exists_runInvocation_iff log
  obtain ⟨settings, ran⟩ := runGenerate_of_run understood ended
  have counted := not_missesWorkers_of_runGenerate ran
  constructor
  · intro refused
    obtain ⟨errors, nothing⟩ := runGenerate_of_refused settings counted refused
    obtain rfl := Except.ok.inj (nothing.symm.trans ran)
    rfl
  · intro usable
    obtain ⟨_, _, rfl⟩ := (runGenerate_eq_ok_iff settings counted usable).mp ran
    have classes : ∀ entry ∈ result.classes, Text.Unbroken entry.1 ∧ entry.2.Unbroken := by
      rintro ⟨path, target⟩ member
      obtain ⟨given, made⟩ := Batch.mem_classes_resultOf.mp member
      exact ⟨unbroken.paths path given, unbroken_outcome unbroken unrecorded made⟩
    have laidOut := Report.laysOut_runLines result
    refine ⟨Report.runLines result, ?_, laidOut, laidOut.length_eq⟩
    rw [← Report.splitOn_unlines (Report.unbroken_runLines classes)]
    simp only [resultOf, showResult, asText]
    rfl

/-- A class whose title, property names and documentation hold line feeds and other blanks, with a
required property, a blank title and builders, is shown on 17 lines, and two come after them. -/
theorem run_text_lines_of_line_feeds :
    let arguments := ["generate", "a.json"]
    let environment : Environment := [("SCHEMALOOM_GENERATE_BUILDERS", "on"),
      ("SCHEMALOOM_INCLUDE_JSR303_ANNOTATIONS", "on")]
    let schema := "\x7b\"title\": \"t\\nu\", \"required\": [\"a\\nb\"], \"properties\": \x7b" ++
      "\"a\\nb\": \x7b\"description\": \"x\\n\\u0085 y\\n\"\x7d, \"c\": \x7b\"title\": \" \"\x7d\x7d\x7d"
    let bytes := schema.toList.map fun c => UInt8.ofNat c.toNat
    let read : FileReader := (Tree.addFile {} "a.json" bytes).read
    let options : GenerateOptions := { schemas := ["a.json"] }
    let result := Batch.resultOf (options.outcome environment read) options.schemas
    ∃ shown lines, run arguments environment read = .ok shown ∧ ShowsLines result shown lines ∧
      lines.length = 19 := by
  intro arguments environment schema bytes read options result
  have understood : readInvocation arguments = .ok ⟨{}, .generate options⟩ := rfl
  have unbroken : options.Unbroken environment := by
    refine ⟨List.forall_mem_singleton.mpr (by decide), by decide, ?_⟩
    intro name given
    cases given
  have ran : (run arguments environment read).toOption.isSome = true := by decide +kernel
  have count : (result.classes.map fun entry => entry.2.lineCount).sum = 17 := by decide +kernel
  have usable : ¬options.Refused environment := by
    rintro (⟨⟨name, given, _⟩, _⟩ | few | none)
    · cases given
    · exact absurd few (by decide)
    · exact absurd none (by decide)
  cases ended : run arguments environment read with
  | error failure =>
    rw [ended] at ran
    cases ran
  | ok shown =>
    obtain ⟨_, _, shows⟩ :=
      @run_text_lines environment read options {} arguments {} understood rfl rfl unbroken
    obtain ⟨lines, laid⟩ := (shows shown ended).2 usable
    refine ⟨shown, lines, rfl, laid, ?_⟩
    rw [laid.counted, count]

end CommandLine

end SchemaBeans
