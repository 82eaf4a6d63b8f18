import SchemaBeans.Proofs.Generation.Exclusion

/-!
# The order of declared properties

The members of a class are created in the order in which properties are declared, and of two
properties with one field name the first wins. Where the field names are distinct, all properties
that do not ask to be left out have their members (`created_eq_kept`), and entries of `required`
find fields by their names, wherever they stand. So in another order of the properties the class has
the same members, in another order (`generate_reordered`). That two fields have accessors of one
name makes no difference: such accessors are marked alike in either order.
-/
namespace SchemaBeans

/-- Classes that differ at most in the order of their members. -/
structure ClassModel.Rearranged (first second : ClassModel) : Prop where
  /-- The names are the same. -/
  name : first.name = second.name
  /-- The packages are the same. -/
  package : first.package = second.package
  /-- The documentation is the same. -/
  doc : first.doc = second.doc
  /-- The fields are the same, in some order. -/
  fields : first.fields.Perm second.fields
  /-- The methods are the same, in some order. -/
  methods : first.methods.Perm second.methods

/-- Schemas that differ at most in the order of the declared properties. -/
structure Schema.Reordered (first second : Schema) : Prop where
  /-- They come from the same place. -/
  source : first.source = second.source
  /-- The other keywords have the same values. -/
  others : ∀ keyword, keyword ≠ "properties" → first.get? keyword = second.get? keyword
  /-- The declared properties are the same, in some order; a value that declares none is the
  same. -/
  properties : first.get? "properties" = second.get? "properties" ∨
    ∃ one other, first.get? "properties" = some (.object one) ∧
      second.get? "properties" = some (.object other) ∧ one.Perm other

namespace ClassModel

open Properties

/-- No class differs from itself. -/
theorem Rearranged.refl (target : ClassModel) : target.Rearranged target :=
  ⟨rfl, rfl, rfl, List.Perm.refl _, List.Perm.refl _⟩

/-- Fields in another order have the same names. -/
theorem Rearranged.fieldNames {first second : ClassModel} (order : first.Rearranged second) :
    (fieldNames first).Perm (fieldNames second) :=
  order.fields.map _

/-- The field of a name is found in any order, if fields have distinct names. -/
theorem Rearranged.field?_eq {first second : ClassModel} (order : first.Rearranged second)
    (distinct : (Properties.fieldNames first).Nodup) (name : String) :
    first.field? name = second.field? name := by
  have distinctOther : (Properties.fieldNames second).Nodup :=
    order.fieldNames.nodup_iff.mp distinct
  refine Option.ext fun field => ?_
  rw [Required.field?_eq_some_iff distinct, Required.field?_eq_some_iff distinctOther,
    order.fields.mem_iff]

end ClassModel

namespace Properties

variable (context : RuleContext)

/-- Properties of distinct field names all have their members, unless they ask to be left out. -/
theorem created_eq_kept {taken : List String} {properties : Entries Json}
    (apart : (taken ++ (kept properties).map (nameOf context)).Nodup) :
    created context taken properties = kept properties := by
  induction properties generalizing taken with
  | nil => rfl
  | cons property rest ih =>
    unfold kept at apart ih ⊢
    cases excluded : isExcluded property.2 with
    | true =>
      rw [List.filter_cons_of_neg (by simp [excluded])] at apart ⊢
      rw [created, if_pos (.inl excluded), ih apart]
    | false =>
      rw [List.filter_cons_of_pos (by simp [excluded])] at apart ⊢
      have fresh : nameOf context property ∉ taken := fun known =>
        (List.nodup_append.mp apart).2.2 _ known _ List.mem_cons_self rfl
      rw [List.map_cons, ← List.singleton_append, ← List.append_assoc] at apart
      rw [created, if_neg (by simp [excluded, fresh]), ih apart]

end Properties

namespace Schema

/-- The declared properties are read alike, or they are objects in two orders. -/
theorem Reordered.properties? {first second : Schema} (order : first.Reordered second) :
    first.properties? = second.properties? ∨
      ∃ one other, first.properties? = .ok (some one) ∧
        second.properties? = .ok (some other) ∧ one.Perm other := by
  rcases order.properties with same | ⟨one, other, declared, declaredOther, perm⟩
  · exact .inl (by rw [Schema.properties?, Schema.properties?, same, order.source])
  · refine .inr ⟨one, other, ?_, ?_, perm⟩
    · rw [Schema.properties?, declared]
    · rw [Schema.properties?, declaredOther]

/-- The entries of `required` are read alike. -/
theorem Reordered.requiredEntries {first second : Schema} (order : first.Reordered second) :
    first.requiredEntries = second.requiredEntries := by
  rw [Schema.requiredEntries, Schema.requiredEntries, order.others _ (by decide), order.source]

end Schema

namespace RuleContext

open Properties Required

variable (context : RuleContext)

/-- Properties of distinct field names have the same members in any order. -/
theorem unmarked_perm {start : ClassModel} (bare : start.fields = [])
    {first second : Entries Json} (order : first.Perm second)
    (apart : ((kept first).map (nameOf context)).Nodup) :
    (context.unmarked start first).Rearranged (context.unmarked start second) := by
  have keptOrder : (kept first).Perm (kept second) := order.filter _
  have apartOther : ((kept second).map (nameOf context)).Nodup :=
    (keptOrder.map _).nodup_iff.mp apart
  have taken : fieldNames start = [] := by rw [fieldNames, bare, List.map_nil]
  unfold unmarked
  rw [taken, created_eq_kept context apart, created_eq_kept context apartOther]
  constructor
  case name => rfl
  case package => rfl
  case doc => rfl
  case fields => exact (keptOrder.map _).append_left _
  case methods => exact (keptOrder.flatMap_right _).append_left _

/-- Entries mark the same members in any order of them. -/
theorem markEntries_rearranged (properties : Option (Entries Json)) {first second : ClassModel}
    (order : first.Rearranged second) (distinct : (fieldNames first).Nodup)
    (entries : List String) :
    (markEntries context properties entries first).Rearranged
      (markEntries context properties entries second) := by
  have distinctOther : (fieldNames second).Nodup := order.fieldNames.nodup_iff.mp distinct
  have collected : entries.flatMap (accessorNames context properties first) =
      entries.flatMap (accessorNames context properties second) :=
    List.flatMap_congr fun entry _ => by
      rw [accessorNames, accessorNames, order.field?_eq distinct]
  rw [markEntries_eq context properties distinct, collected,
    markEntries_eq context properties distinctOther]
  exact ⟨order.name, order.package, order.doc, order.fields.map _, order.methods.map _⟩

/-- Two schemas that differ in the order of the declared properties alone, of which those that do
not ask to be left out have distinct field names, have classes that differ in the order of the
members alone, or both have none for the same reason. -/
theorem generate_reordered {first second : Schema} (order : first.Reordered second)
    (distinct : (Entries.keys (first.declared.getD [])).Nodup)
    (apart : ((kept (first.declared.getD [])).map (nameOf context)).Nodup)
    (className package : Option String) :
    (∃ failure, context.generate first className package = .error failure ∧
      context.generate second className package = .error failure) ∨
    ∃ one other, context.generate first className package = .ok one ∧
      context.generate second className package = .ok other ∧ one.Rearranged other := by
  have starts := context.emptyClass_congr (order.others _ (by decide)) (order.others _ (by decide))
    order.source className package
  rw [generate, generate, applyAll_standard, applyAll_standard, ← order.requiredEntries, ← starts]
  rcases order.properties? with same | ⟨one, other, read, readOther, perm⟩
  · rw [← same]
    cases first.properties? with
    | error malformed => exact .inl ⟨_, rfl, rfl⟩
    | ok properties =>
      cases first.requiredEntries with
      | error malformed => exact .inl ⟨_, rfl, rfl⟩
      | ok entries => exact .inr ⟨_, _, rfl, rfl, .refl _⟩
  · rw [read, readOther]
    cases first.requiredEntries with
    | error malformed => exact .inl ⟨_, rfl, rfl⟩
    | ok entries =>
      rw [← (Schema.properties?_eq_ok_iff.mp read).2, Option.getD_some] at distinct apart
      have looked (entry : String) :
          propertyNode (some other) entry = propertyNode (some one) entry :=
        (Entries.get?_perm perm distinct entry).symm
      have bare : (context.emptyClass first className package).fields = [] := rfl
      refine .inr ⟨_, _, rfl, rfl, ?_⟩
      rw [markEntries_congr context fun entry _ => looked entry]
      exact context.markEntries_rearranged _ (context.unmarked_perm bare perm apart)
        (context.nodup_fieldNames_unmarked bare one) entries

/-- Two orders of properties of which two have accessors of one name, and one asks to be left out
and has the field name of another. -/
theorem generate_reordered_colliding_accessors :
    let context : RuleContext :=
      .ofSettings { notNullAnnotations := true, swagger2 := true, builders := true }
    let address : String × Json := ("URL", .object [("type", .string "string")])
    let small : String × Json := ("uRL", .object [("title", .string "Small")])
    let old : String × Json := ("url", .object [("javaName", .string "URL"),
      ("excludedFromGeneration", .bool true)])
    let schema (properties : Entries Json) : Schema :=
      { content := [("title", .string "Site"), ("properties", .object properties),
          ("required", .array [.string "uRL", .string "url", .string "absent"])] }
    ∃ one other, context.generate (schema [address, small, old]) = .ok one ∧
      context.generate (schema [old, small, address]) = .ok other ∧
      one.Rearranged other ∧ fieldNames one = ["URL", "uRL"] ∧
      fieldNames other = ["uRL", "URL"] := by
  intro context address small old schema
  let first := schema [address, small, old]
  let second := schema [old, small, address]
  have order : first.Reordered second := by
    refine ⟨rfl, fun keyword other => ?_, .inr ⟨_, _, rfl, rfl, ?_⟩⟩
    · have apart : (keyword == "properties") = false := beq_eq_false_iff_ne.mpr other
      simp only [first, second, schema, Schema.get?, Entries.get?, List.lookup_cons, apart]
    · exact List.reverse_perm [old, small, address]
  have made : context.generate first none none = .ok _ :=
    generate_eq_ok_iff.mpr ⟨some [address, small, old], ["uRL", "url", "absent"], rfl, rfl, rfl⟩
  have madeOther : context.generate second none none = .ok _ :=
    generate_eq_ok_iff.mpr ⟨some [old, small, address], ["uRL", "url", "absent"], rfl, rfl, rfl⟩
  obtain ⟨failure, failed, _⟩ | ⟨one, other, generated, generatedOther, same⟩ :=
    context.generate_reordered order (by decide) (by decide) none none
  · exact nomatch made.symm.trans failed
  · obtain rfl := Except.ok.inj (made.symm.trans generated)
    obtain rfl := Except.ok.inj (madeOther.symm.trans generatedOther)
    exact ⟨_, _, generated, generatedOther, same, by decide, by decide⟩

end RuleContext

end SchemaBeans
