import SchemaBeans.Model.Member
import SchemaBeans.Schema.Load

/-!
# Classes under construction

A class has fields and methods in the order in which they were added; a field and its accessors
are related by their names alone. No two fields have one name, while methods may. A change of a
class has an `Outcome`: it may stop early, and then what it did before it stopped stays done.
-/
namespace SchemaBeans

/-- A class under construction. -/
structure ClassModel where
  /-- The simple name. -/
  name : String
  /-- The package, which may be empty. -/
  package : String := ""
  /-- The documentation. -/
  doc : Doc := {}
  /-- The fields in order. -/
  fields : List FieldModel := []
  /-- The methods in order. -/
  methods : List MethodModel := []
deriving DecidableEq, Repr, Inhabited

/-- What becomes of a class. -/
inductive Outcome where
  /-- The change is made. -/
  | done (target : ClassModel)
  /-- The change stopped; the class is as it was then. -/
  | stopped (target : ClassModel) (failure : Failure)
deriving DecidableEq, Repr

namespace Outcome

/-- The class afterwards. -/
def target : Outcome → ClassModel
  | done target => target
  | stopped target _ => target

/-- Why the change stopped. -/
def failure? : Outcome → Option Failure
  | done _ => none
  | stopped _ failure => some failure

/-- Go on with another change, unless this one stopped. -/
def andThen (outcome : Outcome) (next : ClassModel → Outcome) : Outcome :=
  match outcome with
  | done target => next target
  | stopped target failure => stopped target failure

/-- The class, or why the change stopped. -/
def toExcept : Outcome → Except Failure ClassModel
  | done target => .ok target
  | stopped _ failure => .error failure

/-- Make a change for each item in order. -/
def forEach {α : Type} (change : α → ClassModel → Outcome) : List α → ClassModel → Outcome
  | [], target => done target
  | item :: rest, target => (change item target).andThen (forEach change rest)

/-- A change that is made goes on with the next. -/
@[simp] theorem done_andThen (target : ClassModel) (next : ClassModel → Outcome) :
    (done target).andThen next = next target := rfl

/-- A change that stopped stays so. -/
@[simp] theorem stopped_andThen (target : ClassModel) (failure : Failure)
    (next : ClassModel → Outcome) :
    (stopped target failure).andThen next = stopped target failure := rfl

/-- Changes for two lists in a row are changes for the first, then for the second. -/
theorem forEach_append {α : Type} (change : α → ClassModel → Outcome) (first second : List α)
    (target : ClassModel) :
    forEach change (first ++ second) target =
      (forEach change first target).andThen (forEach change second) := by
  induction first generalizing target with
  | nil => rfl
  | cons item rest ih =>
    simp only [List.cons_append, forEach]
    cases change item target with
    | done changed => exact ih changed
    | stopped changed failure => rfl

end Outcome

/-- A member of a class, by its name and, among methods of one name, by its place. -/
inductive MemberRef where
  /-- The field of a name. -/
  | field (name : String)
  /-- The method that comes after `skipped` others of its name. -/
  | method (name : String) (skipped : Nat)
deriving DecidableEq, Repr

/-- Change the first item of a kind. -/
def modifyFirst {α : Type} (isKind : α → Bool) (change : α → α) : List α → List α
  | [] => []
  | item :: rest => if isKind item then change item :: rest else item :: modifyFirst isKind change rest

/-- Change the item that comes after `skipped` others of its kind. -/
def modifyNth {α : Type} (isKind : α → Bool) (change : α → α) (skipped : Nat) : List α → List α
  | [] => []
  | item :: rest =>
    if isKind item then
      match skipped with
      | 0 => change item :: rest
      | skipped + 1 => item :: modifyNth isKind change skipped rest
    else item :: modifyNth isKind change skipped rest

/-- What a change keeps of an item is kept of the list. -/
theorem map_modifyFirst {α β : Type} {isKind : α → Bool} {change : α → α} {view : α → β}
    (kept : ∀ item, view (change item) = view item) (items : List α) :
    (modifyFirst isKind change items).map view = items.map view := by
  fun_induction modifyFirst isKind change items <;> simp_all

/-- What a change keeps of an item is kept of the list, whichever item is changed. -/
theorem map_modifyNth {α β : Type} {isKind : α → Bool} {change : α → α} {view : α → β}
    (kept : ∀ item, view (change item) = view item) (skipped : Nat) (items : List α) :
    (modifyNth isKind change skipped items).map view = items.map view := by
  fun_induction modifyNth isKind change skipped items <;> simp_all

namespace ClassModel

/-- The full name: the simple name in its package. -/
def fullName (target : ClassModel) : String :=
  if target.package = "" then target.name else target.package ++ "." ++ target.name

/-- The field of a name. -/
def field? (target : ClassModel) (name : String) : Option FieldModel :=
  target.fields.find? (·.name == name)

/-- The methods of a name in order. -/
def methodsNamed (target : ClassModel) (name : String) : List MethodModel :=
  target.methods.filter (·.name == name)

/-- Add a field at the end, unless there is one of its name. -/
def addField (field : FieldModel) (target : ClassModel) : Outcome :=
  match target.field? field.name with
  | some _ => .stopped target (.duplicateField target.fullName field.name)
  | none => .done { target with fields := target.fields ++ [field] }

/-- Add methods at the end. -/
def addMethods (methods : List MethodModel) (target : ClassModel) : ClassModel :=
  { target with methods := target.methods ++ methods }

/-- Append to the documentation of the class. -/
def appendDoc (part : String) (target : ClassModel) : ClassModel :=
  { target with doc := target.doc.append part }

/-- Change the field of a name. -/
def modifyField (name : String) (change : FieldModel → FieldModel) (target : ClassModel) :
    ClassModel :=
  { target with fields := modifyFirst (·.name == name) change target.fields }

/-- Change the method that comes after `skipped` others of its name. -/
def modifyMethod (name : String) (skipped : Nat) (change : MethodModel → MethodModel)
    (target : ClassModel) : ClassModel :=
  { target with methods := modifyNth (·.name == name) change skipped target.methods }

/-- The member that is referred to, as far as fields and methods are alike. -/
def member? (target : ClassModel) : MemberRef → Option Member
  | .field name => (target.field? name).map (·.toMember)
  | .method name skipped => (target.methodsNamed name)[skipped]?.map (·.toMember)

/-- Change the member that is referred to; nothing changes if there is none. -/
def modifyMember (change : Member → Member) (target : ClassModel) : MemberRef → ClassModel
  | .field name => target.modifyField name (·.mapMember change)
  | .method name skipped => target.modifyMethod name skipped (·.mapMember change)

/-- The field that was added is found by its name. -/
theorem field?_addField {field : FieldModel} {target : ClassModel}
    (fresh : target.field? field.name = none) :
    ((target.addField field).target).field? field.name = some field := by
  simp only [field?] at fresh
  simp [addField, field?, fresh, Outcome.target]

/-- A field whose name is taken is not added. -/
theorem addField_of_taken {field known : FieldModel} {target : ClassModel}
    (taken : target.field? field.name = some known) :
    target.addField field =
      .stopped target (.duplicateField target.fullName field.name) := by
  simp [addField, taken]

end ClassModel

end SchemaBeans
