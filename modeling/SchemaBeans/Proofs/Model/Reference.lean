import SchemaBeans.Model.Class

/-!
# References to members

A member is referred to by its name and, if it is a method, by how many methods of its name come
before it. A reference stays good: a change of the member it refers to shows under it and under no
other (`member?_modifyMember`), and a member that is added is referred to by a reference that
referred to nothing before (`member?_appendField`, `member?_addMethods`).
-/
namespace SchemaBeans

/-- The first item of a name after the first of some name was changed. -/
theorem find?_modifyFirst {α : Type} (name : α → String) (change : α → α)
    (keeps : ∀ item, name (change item) = name item) (changed wanted : String) (items : List α) :
    (modifyFirst (name · == changed) change items).find? (name · == wanted) =
      if wanted = changed then (items.find? (name · == wanted)).map change
      else items.find? (name · == wanted) := by
  induction items with
  | nil => simp [modifyFirst]
  | cons item rest ih =>
    by_cases isChanged : name item = changed
    · by_cases same : wanted = changed
      · simp [modifyFirst, isChanged, same, keeps]
      · have other : (changed == wanted) = false := by simpa using Ne.symm same
        simp [modifyFirst, isChanged, same, keeps, other]
    · have kept : (name item == changed) = false := by simpa using isChanged
      rw [modifyFirst, kept, if_neg Bool.false_ne_true, List.find?_cons, List.find?_cons, ih]
      by_cases isWanted : name item = wanted
      · have apart : wanted ≠ changed := fun same => isChanged (isWanted.trans same)
        simp [isWanted, apart]
      · have missed : (name item == wanted) = false := by simpa using isWanted
        simp only [missed]

/-- The items of a name after one of some name was changed. -/
theorem getElem?_filter_modifyNth {α : Type} (name : α → String) (change : α → α)
    (keeps : ∀ item, name (change item) = name item) (changed wanted : String)
    (skipped index : Nat) (items : List α) :
    ((modifyNth (name · == changed) change skipped items).filter (name · == wanted))[index]? =
      if wanted = changed ∧ index = skipped then
        (items.filter (name · == wanted))[index]?.map change
      else (items.filter (name · == wanted))[index]? := by
  induction items generalizing skipped index with
  | nil => simp [modifyNth]
  | cons item rest ih =>
    by_cases isChanged : name item = changed
    · have hit : (name item == changed) = true := by simpa using isChanged
      by_cases same : wanted = changed
      · subst same
        cases skipped with
        | zero =>
          have still : (name (change item) == wanted) = true := by simpa [keeps] using isChanged
          cases index <;> simp [modifyNth, hit, still]
        | succ skipped =>
          cases index with
          | zero => simp [modifyNth, hit]
          | succ index =>
            have later := ih skipped index
            simp only [modifyNth, hit, if_true, List.filter_cons, List.getElem?_cons_succ, later,
              Nat.add_right_cancel_iff]
      · have missed : (name item == wanted) = false := by
          rw [isChanged]
          simpa using Ne.symm same
        have missedToo : (name (change item) == wanted) = false := by rw [keeps, missed]
        cases skipped with
        | zero => simp [modifyNth, hit, missed, missedToo, same]
        | succ skipped =>
          have later := ih skipped index
          simp only [same, false_and, if_false] at later ⊢
          simp only [modifyNth, hit, if_true, List.filter_cons, missed, Bool.false_eq_true,
            if_false, later]
    · have kept : (name item == changed) = false := by simpa using isChanged
      simp only [modifyNth, kept, Bool.false_eq_true, if_false]
      by_cases isWanted : name item = wanted
      · have apart : wanted ≠ changed := fun same => isChanged (isWanted.trans same)
        have found : (name item == wanted) = true := by simpa using isWanted
        have later := ih skipped
        simp only [apart, false_and, if_false] at later ⊢
        cases index with
        | zero => simp [found]
        | succ index => simp only [List.filter_cons, found, if_true, List.getElem?_cons_succ, later]
      · have missed : (name item == wanted) = false := by simpa using isWanted
        simp only [List.filter_cons, missed, Bool.false_eq_true, if_false, ih]

namespace ClassModel

/-- A change of a member that keeps its name shows under its reference alone. -/
theorem member?_modifyMember {change : Member → Member}
    (keeps : ∀ member, (change member).name = member.name) (target : ClassModel)
    (changed ref : MemberRef) :
    (target.modifyMember change changed).member? ref =
      if ref = changed then (target.member? ref).map change else target.member? ref := by
  cases changed with
  | field name =>
    have fields (field : FieldModel) : (field.mapMember change).name = field.name :=
      keeps field.toMember
    cases ref with
    | field wanted =>
      have found := find?_modifyFirst (·.name) (·.mapMember change) fields name wanted target.fields
      simp only [modifyMember, modifyField, member?, field?, found, MemberRef.field.injEq]
      split
      · rw [Option.map_map, Option.map_map]
        rfl
      · rfl
    | method wanted skipped => simp [modifyMember, modifyField, member?, methodsNamed]
  | method name skipped =>
    have methods (method : MethodModel) : (method.mapMember change).name = method.name :=
      keeps method.toMember
    cases ref with
    | field wanted => simp [modifyMember, modifyMethod, member?, field?]
    | method wanted index =>
      have found := getElem?_filter_modifyNth (·.name) (·.mapMember change) methods name wanted
        skipped index target.methods
      simp only [modifyMember, modifyMethod, member?, methodsNamed, found, MemberRef.method.injEq]
      split
      · rw [Option.map_map, Option.map_map]
        rfl
      · rfl

/-- A field of a new name is referred to by its name after it was added. -/
theorem member?_appendField {target : ClassModel} {field : FieldModel}
    (fresh : target.field? field.name = none) (ref : MemberRef) :
    ({ target with fields := target.fields ++ [field] } : ClassModel).member? ref =
      if ref = .field field.name then some field.toMember else target.member? ref := by
  cases ref with
  | method name skipped => simp [member?, methodsNamed]
  | field name =>
    by_cases same : name = field.name
    · subst same
      simp only [field?] at fresh
      simp [member?, field?, fresh]
    · have other : (field.name == name) = false := by simpa using Ne.symm same
      simp [member?, field?, same, other]

/-- A method is referred to by the number of those of its name before it after it was added. -/
theorem member?_addMethods (target : ClassModel) (method : MethodModel) (ref : MemberRef) :
    (target.addMethods [method]).member? ref =
      if ref = .method method.name (target.methodsNamed method.name).length then
        some method.toMember
      else target.member? ref := by
  cases ref with
  | field name => simp [member?, field?, addMethods]
  | method name skipped =>
    by_cases same : name = method.name
    · subst same
      simp only [member?, methodsNamed, addMethods, List.filter_append, List.filter_cons,
        List.filter_nil, beq_self_eq_true, MemberRef.method.injEq, true_and, if_true]
      by_cases last : skipped = (target.methods.filter (·.name == method.name)).length
      · simp [last]
      · rw [if_neg last, List.getElem?_append]
        split
        · rfl
        · rename_i beyond
          have past : (target.methods.filter (·.name == method.name)).length ≤ skipped := by omega
          have further : 1 ≤ skipped - (target.methods.filter (·.name == method.name)).length := by
            omega
          rw [List.getElem?_eq_none past, List.getElem?_eq_none (by simpa using further)]
    · have other : (method.name == name) = false := by simpa using Ne.symm same
      simp [member?, methodsNamed, addMethods, other, same]

end ClassModel

end SchemaBeans
