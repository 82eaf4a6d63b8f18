import SchemaBeans.Proofs.Entries
import SchemaBeans.Rule.Required

/-!
# Annotations of required fields

Marking a field annotates it at most twice. In closed form (`requiredNotes_eq`) the annotations of
the field keep their names and places, the parameter `required` is written to the first of them
that records metadata, and those that were missing come after them. Marking a field again changes
none of them (`requiredNotes_idem`), so the number of entries that lead to a field does not show
in its annotations.
-/
namespace SchemaBeans

/-- Writing parameters keeps the name of an annotation. -/
theorem Annotation.name_withParams (note : Annotation) (params : List (String × ParamValue)) :
    (note.withParams params).name = note.name := by
  induction params generalizing note with
  | nil => rfl
  | cons pair rest ih => exact ih (note.param pair.1 pair.2)

/-- Without an item of a kind there is none to change. -/
theorem modifyFirst_of_absent {α : Type} {isKind : α → Bool} {items : List α}
    (absent : ∀ item ∈ items, isKind item = false) (change : α → α) :
    modifyFirst isKind change items = items := by
  induction items with
  | nil => rfl
  | cons item rest ih =>
    have later := ih fun other member => absent other (List.mem_cons_of_mem item member)
    rw [modifyFirst, absent item List.mem_cons_self, later]
    rfl

/-- A change of the first item of a kind leaves alone what follows and is of other kinds. -/
theorem modifyFirst_append {α : Type} {isKind : α → Bool} {more : List α}
    (absent : ∀ item ∈ more, isKind item = false) (change : α → α) (items : List α) :
    modifyFirst isKind change (items ++ more) = modifyFirst isKind change items ++ more := by
  induction items with
  | nil => exact modifyFirst_of_absent absent change
  | cons item rest ih =>
    simp only [List.cons_append, modifyFirst, ih]
    split <;> rfl

/-- Annotating changes the first annotation of the name and adds one at the end if it is missing. -/
theorem annotateIn_eq (name : String) (params : List (String × ParamValue))
    (notes : List Annotation) :
    annotateIn name params notes =
      modifyFirst (·.name == name) (·.withParams params) notes ++
        if notes.any (·.name == name) then [] else [.withParams { name } params] := by
  induction notes with
  | nil => rfl
  | cons note rest ih =>
    by_cases same : note.name = name
    · simp [annotateIn, modifyFirst, same]
    · have apart : (note.name == name) = false := beq_eq_false_iff_ne.mpr same
      simp only [annotateIn, if_neg same, ih, List.any_cons, modifyFirst, apart, Bool.false_or,
        Bool.false_eq_true, if_false, List.cons_append]

/-- The annotation of the name is found with its parameters written. -/
theorem find?_annotateIn_self (name : String) (params : List (String × ParamValue))
    (notes : List Annotation) :
    (annotateIn name params notes).find? (·.name == name) =
      some (((notes.find? (·.name == name)).getD { name }).withParams params) := by
  induction notes with
  | nil => simp [annotateIn, Annotation.name_withParams]
  | cons note rest ih =>
    by_cases same : note.name = name
    · simp [annotateIn, same, Annotation.name_withParams]
    · have apart : (note.name == name) = false := beq_eq_false_iff_ne.mpr same
      simp only [annotateIn, if_neg same, List.find?_cons, apart, ih]

/-- An annotation of another name is found as it was. -/
theorem find?_annotateIn_of_ne {name other : String} (distinct : name ≠ other)
    (params : List (String × ParamValue)) (notes : List Annotation) :
    (annotateIn name params notes).find? (·.name == other) =
      notes.find? (·.name == other) := by
  induction notes with
  | nil => simp [annotateIn, Annotation.name_withParams, distinct]
  | cons note rest ih =>
    by_cases same : note.name = name
    · simp [annotateIn, same, Annotation.name_withParams, distinct]
    · simp only [annotateIn, if_neg same, List.find?_cons, ih]

/-- An annotation at any place stays there, or is the one of the name and is written to. -/
theorem getElem?_annotateIn (name : String) (params : List (String × ParamValue))
    {notes : List Annotation} {index : Nat} {note : Annotation}
    (placed : notes[index]? = some note) :
    (annotateIn name params notes)[index]? = some note ∨
      note.name = name ∧
        (annotateIn name params notes)[index]? = some (note.withParams params) := by
  induction notes generalizing index with
  | nil => simp at placed
  | cons first rest ih =>
    by_cases same : first.name = name
    · cases index with
      | zero =>
        obtain rfl : first = note := by simpa using placed
        exact .inr ⟨same, by simp [annotateIn, same]⟩
      | succ index =>
        rw [List.getElem?_cons_succ] at placed
        exact .inl (by simpa [annotateIn, same] using placed)
    · cases index with
      | zero =>
        obtain rfl : first = note := by simpa using placed
        exact .inl (by simp [annotateIn, same])
      | succ index =>
        rw [List.getElem?_cons_succ] at placed
        simpa [annotateIn, same] using ih placed

/-- An annotation that is there and has the parameters already is not changed. -/
theorem annotateIn_of_steady {name : String} {params : List (String × ParamValue)}
    {notes : List Annotation} {note : Annotation}
    (found : notes.find? (·.name == name) = some note) (steady : note.withParams params = note) :
    annotateIn name params notes = notes := by
  induction notes with
  | nil => simp at found
  | cons first rest ih =>
    by_cases same : first.name = name
    · obtain rfl : first = note := by simpa [same] using found
      rw [annotateIn, if_pos same, steady]
    · have later : rest.find? (·.name == name) = some note := by simpa [same] using found
      rw [annotateIn, if_neg same, ih later]

/-- Annotating adds a name after those that are there, unless it is one of them. -/
theorem names_annotateIn (name : String) (params : List (String × ParamValue))
    (notes : List Annotation) :
    (annotateIn name params notes).map (·.name) =
      if name ∈ notes.map (·.name) then notes.map (·.name) else notes.map (·.name) ++ [name] := by
  induction notes with
  | nil => simp [annotateIn, Annotation.name_withParams]
  | cons note rest ih =>
    by_cases same : note.name = name
    · simp [annotateIn, same, Annotation.name_withParams]
    · simp only [annotateIn, if_neg same, List.map_cons, ih, List.mem_cons, Ne.symm same, false_or]
      split <;> rfl

/-- Annotating keeps the names of annotations distinct. -/
theorem nodup_names_annotateIn {notes : List Annotation} (distinct : (notes.map (·.name)).Nodup)
    (name : String) (params : List (String × ParamValue)) :
    ((annotateIn name params notes).map (·.name)).Nodup := by
  rw [names_annotateIn]
  split
  · exact distinct
  · rename_i fresh
    exact List.nodup_append.mpr ⟨distinct, by simp, by simpa using fresh⟩

namespace Required

/-- The annotations of a field after it was marked. -/
def requiredNotes (context : RuleContext) (notes : List Annotation) : List Annotation :=
  let annotated :=
    if context.settings.notNullAnnotations then
      annotateIn context.settings.notNullAnnotation [] notes
    else notes
  match context.metadata with
  | .none => annotated
  | .swagger2 => annotateIn Metadata.apiModelProperty [("required", .bool true)] annotated

/-- Marking a field appends the marker to its documentation and annotates it. -/
theorem markField_eq (context : RuleContext) (field : FieldModel) :
    markField context field =
      { field with
        doc := field.doc.append marker
        annotations := requiredNotes context field.annotations } := by
  unfold markField annotateNotNull Metadata.markRequired requiredNotes
  cases context.metadata <;> cases context.settings.notNullAnnotations <;> rfl

/-- The annotation for fields that are not null is none that records metadata. -/
theorem notNullAnnotation_ne (settings : Settings) :
    settings.notNullAnnotation ≠ Metadata.apiModelProperty := by
  unfold Settings.notNullAnnotation
  cases settings.jakarta <;> decide

/-- A marked field has the annotation for fields that are not null, if settings ask for it. -/
theorem find?_notNull_requiredNotes {context : RuleContext}
    (asked : context.settings.notNullAnnotations = true) (notes : List Annotation) :
    (requiredNotes context notes).find? (·.name == context.settings.notNullAnnotation) =
      some ((notes.find? (·.name == context.settings.notNullAnnotation)).getD
        { name := context.settings.notNullAnnotation }) := by
  have annotated := find?_annotateIn_self context.settings.notNullAnnotation [] notes
  have apart := notNullAnnotation_ne context.settings
  unfold requiredNotes
  rw [if_pos asked]
  cases context.metadata with
  | none => exact annotated
  | swagger2 => exact (find?_annotateIn_of_ne apart.symm _ _).trans annotated

/-- Metadata of a marked field is in the annotation it had for metadata, or in a new one. -/
theorem find?_metadata_requiredNotes {context : RuleContext}
    (recorded : context.metadata = .swagger2) (notes : List Annotation) :
    (requiredNotes context notes).find? (·.name == Metadata.apiModelProperty) =
      some (((notes.find? (·.name == Metadata.apiModelProperty)).getD
        { name := Metadata.apiModelProperty }).param "required" (.bool true)) := by
  have apart := notNullAnnotation_ne context.settings
  unfold requiredNotes
  rw [recorded]
  cases context.settings.notNullAnnotations with
  | false => exact find?_annotateIn_self _ _ notes
  | true =>
    refine (find?_annotateIn_self _ _ _).trans ?_
    rw [if_pos rfl, find?_annotateIn_of_ne apart]
    rfl

/-- Marking annotates for fields that are not null only if settings ask for it. -/
theorem find?_requiredNotes_of_not_asked {context : RuleContext}
    (unasked : context.settings.notNullAnnotations = false) {name : String}
    (other : name ≠ Metadata.apiModelProperty) (notes : List Annotation) :
    (requiredNotes context notes).find? (·.name == name) = notes.find? (·.name == name) := by
  unfold requiredNotes
  rw [unasked]
  cases context.metadata with
  | none => rfl
  | swagger2 => exact find?_annotateIn_of_ne other.symm _ notes

/-- Marking writes to no metadata where none are recorded. -/
theorem find?_metadata_requiredNotes_of_none {context : RuleContext}
    (unrecorded : context.metadata = .none) (notes : List Annotation) :
    (requiredNotes context notes).find? (·.name == Metadata.apiModelProperty) =
      notes.find? (·.name == Metadata.apiModelProperty) := by
  unfold requiredNotes
  rw [unrecorded]
  split
  · exact find?_annotateIn_of_ne (notNullAnnotation_ne context.settings) _ notes
  · rfl

/-- Marking keeps the names of annotations distinct. -/
theorem nodup_names_requiredNotes (context : RuleContext) {notes : List Annotation}
    (distinct : (notes.map (·.name)).Nodup) :
    ((requiredNotes context notes).map (·.name)).Nodup := by
  have annotated : ((if context.settings.notNullAnnotations then
      annotateIn context.settings.notNullAnnotation [] notes else notes).map (·.name)).Nodup := by
    split
    · exact nodup_names_annotateIn distinct _ _
    · exact distinct
  unfold requiredNotes
  cases context.metadata with
  | none => exact annotated
  | swagger2 => exact nodup_names_annotateIn annotated _ _

/-- Marking a marked field does not change its annotations. -/
theorem requiredNotes_idem (context : RuleContext) (notes : List Annotation) :
    requiredNotes context (requiredNotes context notes) = requiredNotes context notes := by
  have steadyNull : (if context.settings.notNullAnnotations then
      annotateIn context.settings.notNullAnnotation [] (requiredNotes context notes)
      else requiredNotes context notes) = requiredNotes context notes := by
    cases asked : context.settings.notNullAnnotations with
    | false => rfl
    | true => exact annotateIn_of_steady (find?_notNull_requiredNotes asked notes) rfl
  rw [requiredNotes, steadyNull]
  cases recorded : context.metadata with
  | none => rfl
  | swagger2 =>
    have found := find?_metadata_requiredNotes recorded notes
    refine annotateIn_of_steady found ?_
    simp [Entries.put_idem, Annotation.withParams, Annotation.param]

/-- An annotation that is wanted, unless there is one of its name. -/
def unlessPresent (notes : List Annotation) (wanted : Annotation) : List Annotation :=
  if notes.any (·.name == wanted.name) then [] else [wanted]

/-- The parameter `required` in the first annotation that records metadata. -/
def recordRequired (metadata : Metadata) (notes : List Annotation) : List Annotation :=
  match metadata with
  | .none => notes
  | .swagger2 =>
    modifyFirst (·.name == Metadata.apiModelProperty) (·.param "required" (.bool true)) notes

/-- The annotations that a required field lacks. -/
def missingNotes (context : RuleContext) (notes : List Annotation) : List Annotation :=
  (if context.settings.notNullAnnotations then
    unlessPresent notes { name := context.settings.notNullAnnotation }
  else []) ++
    match context.metadata with
    | .none => []
    | .swagger2 =>
      unlessPresent notes
        { name := Metadata.apiModelProperty, params := [("required", .bool true)] }

/-- An annotation without parameters changes none that is there. -/
theorem annotateIn_nil (name : String) (notes : List Annotation) :
    annotateIn name [] notes = notes ++ unlessPresent notes { name } := by
  have unchanged : modifyFirst (·.name == name) (·.withParams []) notes = notes := by
    induction notes with
    | nil => rfl
    | cons note rest ih =>
      rw [modifyFirst, ih]
      split <;> rfl
  rw [annotateIn_eq, unchanged]
  rfl

/-- The annotation that records metadata has `required` written, or is added with it. -/
theorem annotateIn_required (notes : List Annotation) :
    annotateIn Metadata.apiModelProperty [("required", .bool true)] notes =
      recordRequired .swagger2 notes ++ unlessPresent notes
        { name := Metadata.apiModelProperty, params := [("required", .bool true)] } :=
  annotateIn_eq _ _ notes

/-- A marked field has the annotations it had, and after them those it lacked. -/
theorem requiredNotes_eq (context : RuleContext) (notes : List Annotation) :
    requiredNotes context notes =
      recordRequired context.metadata notes ++ missingNotes context notes := by
  have apart := notNullAnnotation_ne context.settings
  unfold requiredNotes missingNotes
  rw [annotateIn_nil]
  cases context.metadata with
  | none => cases context.settings.notNullAnnotations <;> simp [recordRequired]
  | swagger2 =>
    cases context.settings.notNullAnnotations with
    | false => exact annotateIn_required notes
    | true =>
      let added := unlessPresent notes { name := context.settings.notNullAnnotation }
      have others : ∀ note ∈ added, (note.name == Metadata.apiModelProperty) = false := by
        intro note member
        simp only [added, unlessPresent] at member
        split at member
        · simp at member
        · rw [List.mem_singleton.mp member]
          exact beq_eq_false_iff_ne.mpr apart
      have absent : added.any (·.name == Metadata.apiModelProperty) = false := by
        rw [List.any_eq_false]
        exact fun note member => by simp [others note member]
      have written : recordRequired .swagger2 (notes ++ added) =
          recordRequired .swagger2 notes ++ added := modifyFirst_append others _ notes
      refine (annotateIn_required (notes ++ added)).trans ?_
      rw [written, List.append_assoc, unlessPresent, List.any_append, absent, Bool.or_false]
      rfl

/-- An annotation of a field after the field was marked: only `required` may be written to it, and
only if it records metadata. -/
structure NoteKept (before after : Annotation) : Prop where
  /-- The name stays. -/
  name : after.name = before.name
  /-- The parameters keep their order, and a new one comes last. -/
  keys : before.params.keys <+: after.params.keys
  /-- The other parameters keep their values. -/
  others : ∀ key, key ≠ "required" → after.params.get? key = before.params.get? key
  /-- An annotation of another name stays as it is. -/
  unrelated : before.name ≠ Metadata.apiModelProperty → after = before

/-- An annotation is kept if it is not changed. -/
theorem NoteKept.refl (note : Annotation) : NoteKept note note :=
  ⟨rfl, List.prefix_rfl, fun _ _ => rfl, fun _ => rfl⟩

/-- The annotation that records metadata is kept if `required` is written to it. -/
theorem noteKept_param {note : Annotation} (metadata : note.name = Metadata.apiModelProperty)
    (value : ParamValue) : NoteKept note (note.param "required" value) where
  name := rfl
  keys := by
    unfold Annotation.param
    rw [Entries.keys_put]
    split
    · exact List.prefix_rfl
    · exact List.prefix_append _ _
  others key distinct := Entries.get?_put_of_ne distinct value note.params
  unrelated other := absurd metadata other

/-- Each annotation of a field keeps its place when the field is marked. -/
theorem getElem?_requiredNotes (context : RuleContext) {notes : List Annotation} {index : Nat}
    {note : Annotation} (placed : notes[index]? = some note) :
    ∃ later, (requiredNotes context notes)[index]? = some later ∧ NoteKept note later := by
  have annotated : (if context.settings.notNullAnnotations then
      annotateIn context.settings.notNullAnnotation [] notes else notes)[index]? = some note := by
    split
    · rcases getElem?_annotateIn context.settings.notNullAnnotation [] placed with same | same
      · exact same
      · exact same.2
    · exact placed
  unfold requiredNotes
  cases context.metadata with
  | none => exact ⟨note, annotated, .refl note⟩
  | swagger2 =>
    rcases getElem?_annotateIn Metadata.apiModelProperty [("required", .bool true)] annotated with
      same | ⟨metadata, written⟩
    · exact ⟨note, same, .refl note⟩
    · exact ⟨_, written, noteKept_param metadata _⟩

/-- What marking does to the annotations of a field. -/
structure NotesEffect (context : RuleContext) (before after : List Annotation) : Prop where
  /-- Those that were there come first, and after them those that were missing. -/
  written : after = recordRequired context.metadata before ++ missingNotes context before
  /-- If settings ask for it, there is the annotation for fields that are not null. -/
  notNull : context.settings.notNullAnnotations = true →
    ∃ note ∈ after, note.name = context.settings.notNullAnnotation
  /-- If metadata is recorded, it says that the property is required. -/
  recorded : context.metadata = .swagger2 →
    ∃ note, after.find? (·.name == Metadata.apiModelProperty) = some note ∧
      note.params.get? "required" = some (.bool true)
  /-- Each annotation that was there keeps its place and all but the parameter `required`. -/
  kept : ∀ (index : Nat) (note : Annotation), before[index]? = some note →
    ∃ later, after[index]? = some later ∧ NoteKept note later

/-- The annotations after marking are those that marking is to give. -/
theorem notesEffect_requiredNotes (context : RuleContext) (notes : List Annotation) :
    NotesEffect context notes (requiredNotes context notes) where
  written := requiredNotes_eq context notes
  notNull asked := by
    have found := find?_notNull_requiredNotes asked notes
    exact ⟨_, List.mem_of_find?_eq_some found, by simpa using List.find?_some found⟩
  recorded swagger2 :=
    ⟨_, find?_metadata_requiredNotes swagger2 notes, Entries.get?_put_self _ _ _⟩
  kept _ _ placed := getElem?_requiredNotes context placed

end Required

end SchemaBeans
