import SchemaBeans.Proofs.Generation.Closed

/-!
# Defects that stop a rule

A rule reads the keywords it needs before it changes anything. So it stops exactly where one of
them does not have its shape, with a defect of that keyword and of no other kind, and the class is
as it was (`apply_eq_stopped_iff` for either rule). Of two defects the one that is read first is
reported: the rule for `required` reads `required` first, while a class is generated by the rule for
`properties` first (`stops_iff_defect`).
-/
namespace SchemaBeans

/-- What is wrong with a value of `required`, with its wording. -/
inductive RequiredDefect : Json → Defect → String → Prop where
  /-- A value that is no array is refused for its kind. -/
  | notArray {node : Json} (other : ∀ items, node ≠ .array items) :
      RequiredDefect node (.requiredNotArray node.kind)
        ("'required' must be an array of strings, got " ++ node.kind)
  /-- The first item that is no text is refused for its kind, at its index. -/
  | notText {texts : List String} {value : Json} {rest : List Json}
      (other : ∀ text, value ≠ .string text) :
      RequiredDefect (.array (texts.map .string ++ value :: rest))
        (.requiredItemNotText texts.length value.kind)
        ("'required'[" ++ toString texts.length ++ "] must be a string, got " ++ value.kind)

/-- What is wrong with the value of `properties` in a schema, with its wording. -/
inductive PropertiesDefect (schema : Schema) : Defect → String → Prop where
  /-- A value that is neither null nor an object is refused for its kind. -/
  | notObject {value : Json} (present : schema.get? "properties" = some value)
      (notNull : value ≠ .null) (other : ∀ properties, value ≠ .object properties) :
      PropertiesDefect schema (.propertiesNotObject value.kind)
        ("'properties' must be an object, got " ++ value.kind)

/-- The failure for a defect of a schema: it names the source of the schema, and its message is the
wording after that source, unless the source is missing or empty. -/
structure Schema.FailsBy (schema : Schema) (defect : Defect) (wording : String)
    (failure : Failure) : Prop where
  /-- The schema is malformed, and nothing else has failed. -/
  malformed : failure = .malformed ⟨defect, schema.source⟩
  /-- The message names the source. -/
  sourced : ∀ source, schema.source = some source → source ≠ "" →
    failure.message = source ++ ": " ++ wording
  /-- Without a source the message is the wording. -/
  unsourced : schema.source = none ∨ schema.source = some "" → failure.message = wording

/-- The message of a defect starts with a source that is not empty. -/
theorem MalformedSchema.message_of_source {malformed : MalformedSchema} {source : String}
    (known : source ≠ "") (named : malformed.source = some source) :
    malformed.message = source ++ ": " ++ malformed.defect.message := by
  unfold message
  rw [named]
  split
  · contradiction
  · rename_i empty
    exact absurd (Option.some.inj empty) known
  · rename_i same
    rw [Option.some.inj same]

/-- The message of a defect without a source is that of the defect. -/
theorem MalformedSchema.message_of_no_source {malformed : MalformedSchema}
    (missing : malformed.source = none ∨ malformed.source = some "") :
    malformed.message = malformed.defect.message := by
  unfold message
  rcases missing with absent | empty
  · rw [absent]
  · rw [empty]
    split
    · rfl
    · rfl
    · rename_i nonempty same
      exact absurd (Option.some.inj same).symm nonempty

/-- The failure of a defect that has the given wording. -/
theorem Schema.failsBy_iff {schema : Schema} {defect : Defect} {wording : String}
    (worded : defect.message = wording) {failure : Failure} :
    schema.FailsBy defect wording failure ↔ failure = .malformed ⟨defect, schema.source⟩ := by
  constructor
  · exact fun fails => fails.malformed
  · rintro rfl
    refine ⟨rfl, fun source named known => ?_, fun missing => ?_⟩
    · rw [← worded]
      exact MalformedSchema.message_of_source known named
    · rw [← worded]
      exact MalformedSchema.message_of_no_source missing

/-- A defect of `required` has the wording of its message. -/
theorem RequiredDefect.message_eq {node : Json} {defect : Defect} {wording : String}
    (wrong : RequiredDefect node defect wording) : defect.message = wording := by
  cases wrong with
  | notArray other => rfl
  | notText other => rfl

/-- A defect of `properties` has the wording of its message. -/
theorem PropertiesDefect.message_eq {schema : Schema} {defect : Defect} {wording : String}
    (wrong : PropertiesDefect schema defect wording) : defect.message = wording := by
  cases wrong with
  | notObject present notNull other => rfl

/-- The items of an array are refused exactly at the first that is no text. -/
theorem textItems_eq_error_iff {index : Nat} {items : List Json} {defect : Defect} :
    textItems index items = .error defect ↔
      ∃ (texts : List String) (value : Json) (rest : List Json),
        items = texts.map .string ++ value :: rest ∧ (∀ text, value ≠ .string text) ∧
        defect = .requiredItemNotText (index + texts.length) value.kind := by
  constructor
  · intro refused
    induction items generalizing index with
    | nil => simp [textItems] at refused
    | cons item rest ih =>
      cases item with
      | string text =>
        cases later : textItems (index + 1) rest with
        | ok texts => simp [textItems, later, Except.map] at refused
        | error found =>
          obtain rfl : found = defect := by simpa [textItems, later, Except.map] using refused
          obtain ⟨texts, value, after, rfl, other, rfl⟩ := ih later
          refine ⟨text :: texts, value, after, rfl, other, ?_⟩
          have place : index + 1 + texts.length = index + (text :: texts).length := by
            rw [List.length_cons]
            omega
          rw [place]
      | _ =>
        rw [textItems] at refused
        · exact ⟨[], _, rest, rfl, by simp, (Except.error.inj refused).symm⟩
        · simp
  · rintro ⟨texts, value, rest, rfl, other, rfl⟩
    induction texts generalizing index with
    | nil => rw [List.map_nil, List.nil_append, textItems, List.length_nil, Nat.add_zero]; exact other
    | cons text texts ih =>
      have place : index + 1 + texts.length = index + (text :: texts).length := by
        rw [List.length_cons]
        omega
      rw [List.map_cons, List.cons_append, textItems, ih, place]
      rfl

/-- The names of `required` cannot be read exactly where its value has a defect. -/
theorem requiredNames_eq_error_iff {node : Json} {source : Option String}
    {malformed : MalformedSchema} :
    requiredNames node source = .error malformed ↔
      ∃ defect wording, RequiredDefect node defect wording ∧ malformed = ⟨defect, source⟩ := by
  constructor
  · intro refused
    cases node with
    | array items =>
      rw [requiredNames] at refused
      cases read : textItems 0 items with
      | ok texts =>
        rw [read] at refused
        cases refused
      | error defect =>
        rw [read] at refused
        obtain ⟨texts, value, rest, rfl, other, rfl⟩ := textItems_eq_error_iff.mp read
        rw [Nat.zero_add] at refused
        exact ⟨_, _, .notText other, (Except.error.inj refused).symm⟩
    | _ =>
      rw [requiredNames] at refused
      · exact ⟨_, _, .notArray (by simp), (Except.error.inj refused).symm⟩
      · simp
  · rintro ⟨defect, wording, wrong, rfl⟩
    cases wrong with
    | notArray other => rw [requiredNames]; exact other
    | @notText texts value rest other =>
      have refused : textItems 0 (texts.map .string ++ value :: rest) =
          .error (.requiredItemNotText texts.length value.kind) :=
        textItems_eq_error_iff.mpr ⟨texts, value, rest, rfl, other, by rw [Nat.zero_add]⟩
      rw [requiredNames, refused]
      rfl

namespace Schema

/-- The declared properties cannot be read exactly where their value has a defect. -/
theorem properties?_eq_error_iff {schema : Schema} {malformed : MalformedSchema} :
    schema.properties? = .error malformed ↔
      ∃ defect wording, PropertiesDefect schema defect wording ∧
        malformed = ⟨defect, schema.source⟩ := by
  constructor
  · intro refused
    cases found : schema.get? "properties" with
    | none => simp [properties?, found] at refused
    | some value =>
      cases value with
      | null | object _ => simp [properties?, found] at refused
      | _ =>
        rw [properties?, found] at refused
        exact ⟨_, _, .notObject found (by simp) (by simp), (Except.error.inj refused).symm⟩
  · rintro ⟨defect, wording, wrong, rfl⟩
    cases wrong with
    | @notObject value present notNull other =>
      rw [properties?, present]
      cases value with
      | null => exact absurd rfl notNull
      | object properties => exact absurd rfl (other properties)
      | _ => rfl

end Schema

/-- The rule for `properties` stops exactly where the keyword has a defect, and then the class is as
it was. -/
theorem Properties.apply_eq_stopped_iff {context : RuleContext} {schema : Schema}
    {target result : ClassModel} {failure : Failure} :
    Properties.apply context schema target = .stopped result failure ↔
      result = target ∧ ∃ defect wording, PropertiesDefect schema defect wording ∧
        schema.FailsBy defect wording failure := by
  constructor
  · intro stopped
    cases read : schema.properties? with
    | ok properties =>
      -- Adding members never fails: the rule looks for the name of a field before it adds one.
      rw [Properties.apply_of_properties context read] at stopped
      cases stopped
    | error malformed =>
      rw [Properties.apply, read] at stopped
      obtain ⟨rfl, rfl⟩ := Outcome.stopped.inj stopped
      obtain ⟨defect, wording, wrong, rfl⟩ := Schema.properties?_eq_error_iff.mp read
      exact ⟨rfl, defect, wording, wrong, (Schema.failsBy_iff wrong.message_eq).mpr rfl⟩
  · rintro ⟨rfl, defect, wording, wrong, fails⟩
    have read := Schema.properties?_eq_error_iff.mpr ⟨defect, wording, wrong, rfl⟩
    rw [Properties.apply, read, fails.malformed]

/-- The rule for `required` stops exactly where its value has a defect, or has none and `properties`
has one, and then the class is as it was. -/
theorem Required.apply_eq_stopped_iff {context : RuleContext} {node : Json} {schema : Schema}
    {target result : ClassModel} {failure : Failure} :
    Required.apply context node schema target = .stopped result failure ↔
      result = target ∧ ∃ defect wording,
        (RequiredDefect node defect wording ∨
          (∃ texts : List String, node = .array (texts.map .string)) ∧
            PropertiesDefect schema defect wording) ∧
        schema.FailsBy defect wording failure := by
  constructor
  · intro stopped
    cases names : requiredNames node schema.source with
    | error malformed =>
      rw [Required.apply, names] at stopped
      obtain ⟨rfl, rfl⟩ := Outcome.stopped.inj stopped
      obtain ⟨defect, wording, wrong, rfl⟩ := requiredNames_eq_error_iff.mp names
      exact ⟨rfl, defect, wording, .inl wrong, (Schema.failsBy_iff wrong.message_eq).mpr rfl⟩
    | ok entries =>
      have texts := requiredNames_eq_ok_iff.mp names
      cases read : schema.properties? with
      | ok properties =>
        rw [Required.apply, names, read] at stopped
        cases stopped
      | error malformed =>
        rw [Required.apply, names, read] at stopped
        obtain ⟨rfl, rfl⟩ := Outcome.stopped.inj stopped
        obtain ⟨defect, wording, wrong, rfl⟩ := Schema.properties?_eq_error_iff.mp read
        exact ⟨rfl, defect, wording, .inr ⟨⟨entries, texts⟩, wrong⟩,
          (Schema.failsBy_iff wrong.message_eq).mpr rfl⟩
  · rintro ⟨rfl, defect, wording, wrong | ⟨⟨entries, rfl⟩, wrong⟩, fails⟩
    · have names : requiredNames node schema.source = .error ⟨defect, schema.source⟩ :=
        requiredNames_eq_error_iff.mpr ⟨defect, wording, wrong, rfl⟩
      rw [Required.apply, names, fails.malformed]
    · have names : requiredNames (.array (entries.map .string)) schema.source = .ok entries :=
        requiredNames_eq_ok_iff.mpr rfl
      have read := Schema.properties?_eq_error_iff.mpr ⟨defect, wording, wrong, rfl⟩
      rw [Required.apply, names, read, fails.malformed]

/-- The entries of `required` cannot be read exactly where the keyword is present with a defect. -/
theorem Schema.requiredEntries_eq_error_iff {schema : Schema} {malformed : MalformedSchema} :
    schema.requiredEntries = .error malformed ↔
      ∃ node, schema.get? "required" = some node ∧
        ∃ defect wording, RequiredDefect node defect wording ∧
          malformed = ⟨defect, schema.source⟩ := by
  unfold requiredEntries
  cases schema.get? "required" with
  | none => simp
  | some node => simp [requiredNames_eq_error_iff]

namespace RuleContext

/-- No class is generated exactly where `properties` has a defect, or has none and `required` is
present with one. -/
theorem generate_eq_error_iff {context : RuleContext} {schema : Schema}
    {className package : Option String} {failure : Failure} :
    context.generate schema className package = .error failure ↔
      ∃ defect wording,
        (PropertiesDefect schema defect wording ∨
          schema.ShapedProperties ∧
            ∃ node, schema.get? "required" = some node ∧ RequiredDefect node defect wording) ∧
        schema.FailsBy defect wording failure := by
  rw [generate, applyAll_standard]
  constructor
  · intro failed
    cases read : schema.properties? with
    | error malformed =>
      rw [read] at failed
      obtain ⟨defect, wording, wrong, rfl⟩ := Schema.properties?_eq_error_iff.mp read
      exact ⟨defect, wording, .inl wrong,
        (Schema.failsBy_iff wrong.message_eq).mpr (Except.error.inj failed).symm⟩
    | ok properties =>
      cases names : schema.requiredEntries with
      | ok entries => simp [read, names] at failed
      | error malformed =>
        rw [read, names] at failed
        obtain ⟨node, present, defect, wording, wrong, rfl⟩ :=
          Schema.requiredEntries_eq_error_iff.mp names
        have shaped := (Schema.properties?_eq_ok_iff.mp read).1
        exact ⟨defect, wording, .inr ⟨shaped, node, present, wrong⟩,
          (Schema.failsBy_iff wrong.message_eq).mpr (Except.error.inj failed).symm⟩
  · rintro ⟨defect, wording, wrong | ⟨shaped, node, present, wrong⟩, fails⟩
    · have read := Schema.properties?_eq_error_iff.mpr ⟨defect, wording, wrong, rfl⟩
      rw [read, fails.malformed]
    · have read := Schema.properties?_eq_ok_iff.mpr ⟨shaped, rfl⟩
      have names := Schema.requiredEntries_eq_error_iff.mpr
        ⟨node, present, defect, wording, wrong, rfl⟩
      rw [read, names, fails.malformed]

/-- A rule stops, and a class fails to be generated, exactly for a defect of the shape of a keyword,
of two defects for the one that is read first; and a rule that stops leaves the class as it was. -/
theorem stops_iff_defect (context : RuleContext) (node : Json) (schema : Schema)
    (target : ClassModel) (className package : Option String) :
    (∀ result failure, Properties.apply context schema target = .stopped result failure ↔
      result = target ∧ ∃ defect wording, PropertiesDefect schema defect wording ∧
        schema.FailsBy defect wording failure) ∧
    (∀ result failure, Required.apply context node schema target = .stopped result failure ↔
      result = target ∧ ∃ defect wording,
        (RequiredDefect node defect wording ∨
          (∃ texts : List String, node = .array (texts.map .string)) ∧
            PropertiesDefect schema defect wording) ∧
        schema.FailsBy defect wording failure) ∧
    ∀ failure, context.generate schema className package = .error failure ↔
      ∃ defect wording,
        (PropertiesDefect schema defect wording ∨
          schema.ShapedProperties ∧
            ∃ present, schema.get? "required" = some present ∧
              RequiredDefect present defect wording) ∧
        schema.FailsBy defect wording failure :=
  ⟨fun _ _ => Properties.apply_eq_stopped_iff, fun _ _ => Required.apply_eq_stopped_iff,
    fun _ => generate_eq_error_iff⟩

end RuleContext

end SchemaBeans
