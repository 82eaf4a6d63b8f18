import Mathlib.Data.List.Forall2
import SchemaBeans.CommandLine.Run
import SchemaBeans.Proofs.Batch.Isolation
import SchemaBeans.Proofs.Json.RoundTrip

/-!
# Reports that are read back

The text of a report holds all that the report says. Read as JSON it gives a value in which the
members of a class, or the classes and errors of a run, are found in their order and unaltered, and
the layout makes no difference (`read_reports`). The relations `ShowsClass` and `ShowsRun` say what
is found under each key.
-/
namespace SchemaBeans

namespace Report

/-- What is found in the report of a field. -/
structure ShowsField (field : FieldModel) (value : Json) : Prop where
  /-- The keys in order. -/
  keys : value.entries?.map Entries.keys = some ["name", "type", "doc", "annotations"]
  /-- The name. -/
  name : value.get? "name" = some (.string field.name)
  /-- The full name of the type. -/
  type : value.get? "type" = some (.string field.type.name)
  /-- The text of the documentation. -/
  doc : value.get? "doc" = some (.string field.doc.text)
  /-- The annotations in order, each as it is rendered. -/
  annotations : value.get? "annotations" =
    some (.array (field.annotations.map fun annotation => .string annotation.render))

/-- What is found in the report of a method. -/
structure ShowsMethod (method : MethodModel) (value : Json) : Prop where
  /-- The keys in order. -/
  keys : value.entries?.map Entries.keys = some ["name", "signature", "doc"]
  /-- The name. -/
  name : value.get? "name" = some (.string method.name)
  /-- The signature. -/
  signature : value.get? "signature" = some (.string method.signature)
  /-- The text of the documentation. -/
  doc : value.get? "doc" = some (.string method.doc.text)

/-- What is found in the report of a class from a source, if that is known. -/
structure ShowsClass (target : ClassModel) (source : Option String) (value : Json) : Prop where
  /-- The keys in order. -/
  keys : value.entries?.map Entries.keys = some ["fqn", "source", "doc", "fields", "methods"]
  /-- The full name. -/
  fqn : value.get? "fqn" = some (.string target.fullName)
  /-- The source, or null. -/
  source : value.get? "source" = some (source.elim .null .string)
  /-- The text of the documentation. -/
  doc : value.get? "doc" = some (.string target.doc.text)
  /-- The fields in order. -/
  fields : ∃ items, value.get? "fields" = some (.array items) ∧
    List.Forall₂ ShowsField target.fields items
  /-- The methods in order. -/
  methods : ∃ items, value.get? "methods" = some (.array items) ∧
    List.Forall₂ ShowsMethod target.methods items

/-- What is found in the report of a run. -/
structure ShowsRun (result : BatchResult) (value : Json) : Prop where
  /-- The keys in order. -/
  keys : value.entries?.map Entries.keys = some ["classes", "errors"]
  /-- The classes in order, each with its path as source. -/
  classes : ∃ items, value.get? "classes" = some (.array items) ∧
    List.Forall₂ (fun entry item => ShowsClass entry.2 (some entry.1) item) result.classes items
  /-- The messages in order, each under its path. -/
  errors : value.get? "errors" =
    some (.object (result.errors.map fun entry => (entry.1, .string entry.2)))

/-- The report of a field shows it. -/
theorem showsField_ofField (field : FieldModel) : ShowsField field (ofField field) where
  keys := rfl
  name := rfl
  type := rfl
  doc := rfl
  annotations := rfl

/-- The report of a method shows it. -/
theorem showsMethod_ofMethod (method : MethodModel) : ShowsMethod method (ofMethod method) where
  keys := rfl
  name := rfl
  signature := rfl
  doc := rfl

/-- The report of a class shows it with its source. -/
theorem showsClass_ofClass (target : ClassModel) (source : Option String) :
    ShowsClass target source (ofClass target source) where
  keys := rfl
  fqn := rfl
  source := by cases source <;> rfl
  doc := rfl
  fields := ⟨_, rfl, List.forall₂_map_right_iff.mpr
    (List.forall₂_same.mpr fun field _ => showsField_ofField field)⟩
  methods := ⟨_, rfl, List.forall₂_map_right_iff.mpr
    (List.forall₂_same.mpr fun method _ => showsMethod_ofMethod method)⟩

/-- The report of a run shows its classes and its errors. -/
theorem showsRun_ofRun (result : BatchResult) :
    ShowsRun result (ofRun result.classes result.errors) where
  keys := rfl
  classes := ⟨_, rfl, List.forall₂_map_right_iff.mpr
    (List.forall₂_same.mpr fun entry _ => showsClass_ofClass entry.2 (some entry.1))⟩
  errors := rfl

section Textual

open Json (Textual)

/-- A list of reports holds no numbers if none of them does. -/
theorem textual_array_map {α : Type} {items : List α} {report : α → Json}
    (each : ∀ item ∈ items, Textual (report item)) : Textual (.array (items.map report)) := by
  refine .array fun value member => ?_
  obtain ⟨item, listed, rfl⟩ := List.mem_map.mp member
  exact each item listed

/-- The report of a field holds no numbers. -/
theorem textual_ofField (field : FieldModel) : Textual (ofField field) := by
  have distinct : ["name", "type", "doc", "annotations"].Nodup := by decide
  have annotations : Textual
      (.array (field.annotations.map fun annotation => .string annotation.render)) :=
    textual_array_map fun annotation _ => .string annotation.render
  refine .object distinct ?_
  simp only [List.forall_mem_cons]
  exact ⟨.string _, .string _, .string _, annotations, List.forall_mem_nil _⟩

/-- The report of a method holds no numbers. -/
theorem textual_ofMethod (method : MethodModel) : Textual (ofMethod method) := by
  have distinct : ["name", "signature", "doc"].Nodup := by decide
  refine .object distinct ?_
  simp only [List.forall_mem_cons]
  exact ⟨.string _, .string _, .string _, List.forall_mem_nil _⟩

/-- The report of a class holds no numbers. -/
theorem textual_ofClass (target : ClassModel) (source : Option String) :
    Textual (ofClass target source) := by
  have distinct : ["fqn", "source", "doc", "fields", "methods"].Nodup := by decide
  have fields := textual_array_map fun field (_ : field ∈ target.fields) => textual_ofField field
  have methods := textual_array_map fun method (_ : method ∈ target.methods) =>
    textual_ofMethod method
  refine .object distinct ?_
  simp only [List.forall_mem_cons]
  refine ⟨.string _, ?_, .string _, fields, methods, List.forall_mem_nil _⟩
  cases source with
  | none => exact .null
  | some path => exact .string path

/-- The report of a run holds no numbers, and its objects have distinct keys if there is one error
for each path. -/
theorem textual_ofRun {result : BatchResult} (distinct : result.errors.keys.Nodup) :
    Textual (ofRun result.classes result.errors) := by
  have classes := textual_array_map fun entry (_ : entry ∈ result.classes) =>
    textual_ofClass entry.2 (some entry.1)
  have errors : Textual
      (.object (result.errors.map fun entry => (entry.1, .string entry.2))) := by
    refine .object ?_ fun entry member => ?_
    · rw [Entries.keys, List.map_map]
      exact distinct
    · obtain ⟨error, _, rfl⟩ := List.mem_map.mp member
      exact .string error.2
  have keys : ["classes", "errors"].Nodup := by decide
  refine .object keys ?_
  simp only [List.forall_mem_cons]
  exact ⟨classes, errors, List.forall_mem_nil _⟩

end Textual

/-- The layout of a report with a given number of spaces for each level, or on one line. -/
def layout (indent : Option Nat) : Json.Style := indent.elim .compact .indented

/-- Reports can be read whatever their layout. -/
theorem readable_layout (indent : Option Nat) : (layout indent).Readable := by
  cases indent with
  | none => exact Json.readable_compact
  | some width => exact Json.readable_indented width

end Report

namespace Batch

/-- A run has at most one error for each path. -/
theorem nodup_keys_errors {batch : Batch} {read : FileReader} {paths finished : List String}
    {package : Option String} {result : BatchResult}
    (gave : (batch.runFinishing finished read paths package).2 = .ok result) :
    result.errors.keys.Nodup := by
  obtain ⟨_, progress, _, _, rfl⟩ := exists_progress_of_runFinishing gave
  exact Entries.nodup_keys_inOrder progress.result.errors paths

end Batch

namespace CommandLine

/-- The command for a single file gives at most one error. -/
theorem nodup_keys_generateSingle {context : RuleContext} {read : FileReader} {path : String}
    {className package : Option String} {result : BatchResult}
    (gave : (generateSingle context read path className package).1 = .ok result) :
    result.errors.keys.Nodup := by
  unfold generateSingle at gave
  cases made : context.generateFile read path className package with
  | ok target =>
    rw [made] at gave
    obtain rfl := Except.ok.inj gave
    exact List.nodup_nil
  | error failure =>
    rw [made] at gave
    simp only [] at gave
    split at gave
    · obtain rfl := Except.ok.inj gave
      exact List.nodup_singleton path
    · cases gave

/-- The command for files gives at most one error for each path. -/
theorem nodup_keys_generateResult {context : RuleContext} {read : FileReader}
    {options : GenerateOptions} {result : BatchResult}
    (gave : (generateResult context read options).1 = .ok result) :
    result.errors.keys.Nodup := by
  unfold generateResult at gave
  split at gave
  · exact nodup_keys_generateSingle gave
  · exact Batch.nodup_keys_errors gave

section Run

variable {environment : Environment} {read : FileReader} {options : GenerateOptions}
  {platform : Platform} {shown : RunResult}

/-- Unless the command for files refuses its options or settings, a given name is that of a single
file, and what it gives is for the result of the files. -/
theorem exists_resultOf_of_runGenerate {log : LogSettings}
    (ended : runGenerate log environment read options platform = .ok shown)
    (used : shown.code ≠ 2) :
    let context := RuleContext.ofSettings (Settings.ofEnvironment environment options.overrides)
    (options.className.any (· ≠ "") && decide (1 < options.schemas.length)) = false ∧
      ∃ result events, generateResult context read options = (.ok result, events) ∧
        shown = resultOf log events options.json result := by
  intro context
  unfold runGenerate at ended
  simp only [] at ended
  -- Whatever is refused, options or settings, ends with code 2.
  split at ended
  · obtain rfl := Except.ok.inj ended
    exact absurd rfl used
  · rename_i single
    refine ⟨Bool.eq_false_iff.mpr single, ?_⟩
    split at ended
    · cases ended
    split at ended
    · cases made : generateResult context read options with
      | mk outcome events =>
        rw [made] at ended
        cases outcome with
        | error failure => cases ended
        | ok result =>
          simp only [Except.bind] at ended
          split at ended
          · exact ⟨result, events, rfl, (Except.ok.inj ended).symm⟩
          · cases ended
    · obtain rfl := Except.ok.inj ended
      exact absurd rfl used

/-- The command for files shows their result, unless it refuses its options or settings. -/
theorem exists_result_of_runGenerate {log : LogSettings}
    (ended : runGenerate log environment read options platform = .ok shown)
    (used : shown.code ≠ 2) :
    let context := RuleContext.ofSettings (Settings.ofEnvironment environment options.overrides)
    ∃ result, (generateResult context read options).1 = .ok result ∧
      shown.output = (showResult result options.json).1 := by
  intro context
  obtain ⟨_, result, events, made, rfl⟩ := exists_resultOf_of_runGenerate ended used
  exact ⟨result, congrArg Prod.fst made, rfl⟩

/-- Arguments are run as they are understood. -/
theorem run_eq_runInvocation {arguments : List String} {invocation : Invocation}
    (understood : readInvocation arguments platform = .ok invocation) :
    run arguments environment read platform =
      runInvocation environment read invocation platform := by
  rw [run, understood]

/-- Where the command for files ends, it is run with some settings of the log, whatever its options
are. -/
theorem exists_runGenerate_of_runInvocation {log : LogOptions}
    (ended : runInvocation environment read ⟨log, .generate options⟩ platform = .ok shown) :
    ∃ settings, ∀ options, runInvocation environment read ⟨log, .generate options⟩ platform =
      runGenerate settings environment read options platform := by
  cases known : log.threshold with
  | error failure =>
    simp only [runInvocation, known] at ended
    cases ended
  | ok threshold =>
    refine ⟨⟨threshold, log.json⟩, fun options => ?_⟩
    simp only [runInvocation, known]
    rfl

/-- A run of the command for files is the command with the settings of the log. -/
theorem runGenerate_of_run {arguments : List String} {log : LogOptions}
    (understood : readInvocation arguments platform = .ok ⟨log, .generate options⟩)
    (ended : run arguments environment read platform = .ok shown) :
    ∃ settings, runGenerate settings environment read options platform = .ok shown := by
  rw [run_eq_runInvocation understood] at ended
  obtain ⟨settings, ran⟩ := exists_runGenerate_of_runInvocation ended
  exact ⟨settings, (ran options).symm.trans ended⟩

end Run

end CommandLine

open CommandLine Report

/-- Reports lose nothing. The text of the report of a class, in any layout, is read as one value
that shows the class; and what a run prints that reports as JSON is read as a value that shows its
classes and its errors. -/
theorem Report.read_reports :
    (∀ (target : ClassModel) (source : Option String), ∃ value, ShowsClass target source value ∧
      ∀ indent, Json.read ((ofClass target source).render (layout indent)) = .ok value) ∧
    ∀ {arguments : List String} {environment : Environment} {read : FileReader}
      {platform : Platform} {log : LogOptions} {options : GenerateOptions} {shown : RunResult},
      readInvocation arguments platform = .ok ⟨log, .generate options⟩ → options.json = true →
      run arguments environment read platform = .ok shown → shown.code ≠ 2 →
      let context := RuleContext.ofSettings (Settings.ofEnvironment environment options.overrides)
      ∃ result value, (generateResult context read options).1 = .ok result ∧
        ShowsRun result value ∧ Json.read shown.output = .ok value := by
  constructor
  · intro target source
    refine ⟨_, showsClass_ofClass target source, fun indent => ?_⟩
    have blank : Json.Blank "".toList := fun c member => by cases member
    have whole := Json.read_render (readable_layout indent) (textual_ofClass target source) blank
    rwa [String.append_empty] at whole
  · intro arguments environment read platform log options shown understood asJson ended used
      context
    obtain ⟨settings, ran⟩ := runGenerate_of_run understood ended
    obtain ⟨result, gave, output⟩ := exists_result_of_runGenerate ran used
    refine ⟨result, _, gave, showsRun_ofRun result, ?_⟩
    have textual := textual_ofRun (nodup_keys_generateResult gave)
    have blank : Json.Blank "\n".toList := by simp [Json.Blank, Json.isSpace]
    rw [output, showResult, if_pos asJson]
    exact Json.read_render (readable_layout (some 2)) textual blank

/-- The report of a file whose field has a control character and a quote in its documentation, and
of a missing file, one of which is given twice. -/
theorem Report.read_reports_of_two_files :
    let arguments := ["generate", "--json", "b.json", "a.json", "b.json"]
    let schema := "\x7b\"properties\": \x7b\"a\": \x7b\"title\": \"\\u0001\\\"\"\x7d\x7d\x7d"
    let bytes := schema.toList.map fun c => UInt8.ofNat c.toNat
    let read : FileReader := (Tree.addFile {} "a.json" bytes).read
    let options : GenerateOptions := { schemas := ["b.json", "a.json", "b.json"], json := true }
    let context := RuleContext.ofSettings (Settings.ofEnvironment [] options.overrides)
    ∃ shown result value, run arguments [] read = .ok shown ∧ shown.code = 1 ∧
      (generateResult context read options).1 = .ok result ∧
      ShowsRun result value ∧ Json.read shown.output = .ok value := by
  intro arguments schema bytes read options context
  have code : (run arguments [] read).toOption.map (·.code) = some 1 := by decide +kernel
  cases ended : run arguments [] read with
  | error failure =>
    rw [ended] at code
    cases code
  | ok shown =>
    rw [ended] at code
    have one : shown.code = 1 := Option.some.inj code
    have understood : readInvocation arguments = .ok ⟨{}, .generate options⟩ := rfl
    obtain ⟨result, value, gave, shows, found⟩ :=
      read_reports.2 understood rfl ended (by omega)
    exact ⟨shown, result, value, rfl, one, gave, shows, found⟩

end SchemaBeans
