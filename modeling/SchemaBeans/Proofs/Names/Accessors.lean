import SchemaBeans.Proofs.Names.LookAlike

/-!
# Conventional names of accessors

By convention an accessor is named by a word and the capitalized stem of its property, unless the
second character of the stem is a capital. Then the stem follows the word as it stands, so that `aB`
and `AB` do not share their accessors. The accessors of a `Naming` have the conventional names of
the capitalized stem, and these are the conventional names of the stem itself exactly if it does not
start with a small letter before a capital (`accessor_conventional_iff`).
-/
namespace SchemaBeans

open Identifier

namespace Naming

/-- Whether the second character of a name is a capital. -/
def secondIsCapital : List Char → Bool
  | _ :: second :: _ => second.isUpper
  | _ => false

/-- The form in which a stem follows the word of an accessor. -/
def conventionalForm (stem : List Char) : List Char :=
  if secondIsCapital stem then stem else capitalize stem

/-- A name that is neither that of the method `getClass` of all objects nor that of a setter to
it. -/
def avoidClass (name : String) : String :=
  if name = "getClass" then "getClass_" else if name = "setClass" then "setClass_" else name

/-- The conventional name of the accessor with a word for a stem. -/
def conventionalName (word : String) (stem : List Char) : String :=
  avoidClass (word ++ String.ofList (conventionalForm stem))

/-- Whether a name starts with a small letter before a capital. -/
def startsSmallBeforeCapital : List Char → Bool
  | first :: second :: _ => first.isLower && second.isUpper
  | _ => false

end Naming

/-- An accessor of a property. -/
inductive Accessor where
  /-- It returns a value of a type. -/
  | getter (type : TypeRef)
  /-- It takes a value. -/
  | setter
  /-- It takes a value and returns its object. -/
  | builder

namespace Accessor

/-- The word with which the name of an accessor starts. -/
def word : Accessor → String
  | getter type => if type.isPrimitiveBoolean then "is" else "get"
  | setter => "set"
  | builder => "with"

/-- The name of an accessor of a property. -/
def name (naming : Naming) (property : String) (node : Option Json) : Accessor → String
  | getter type => naming.getterName property type node
  | setter => naming.setterName property node
  | builder => naming.builderName property node

/-- There are four words. -/
theorem word_mem (accessor : Accessor) : accessor.word ∈ ["is", "get", "set", "with"] := by
  cases accessor with
  | getter type => cases truth : type.isPrimitiveBoolean <;> simp [word, truth]
  | setter => decide
  | builder => decide

/-- A name starts otherwise than one that is avoided, unless the rest after its word is `Class`. -/
theorem append_ne_of_ne_class (accessor : Accessor) {form : List Char}
    (other : form ≠ "Class".toList) {reserved : String}
    (avoided : reserved ∈ ["getClass", "setClass"]) :
    accessor.word ++ String.ofList form ≠ reserved := by
  intro same
  have known := accessor.word_mem
  have texts := congrArg String.toList same
  simp only [List.mem_cons, List.not_mem_nil, or_false] at known avoided
  rcases known with word | word | word | word <;> rcases avoided with rfl | rfl <;>
    rw [word] at texts <;> simp at texts <;> exact other texts

end Accessor

namespace Naming

/-- Only a small letter changes when it is put in upper case. -/
theorem toUpper_eq_self_iff {c : Char} (legal : isChar c = true) :
    c.toUpper = c ↔ c.isLower = false :=
  ascii_cases (fun c => c.toUpper = c ↔ c.isLower = false) (by decide) legal

/-- The upper case of a character does not change when it is put in upper case. -/
theorem toUpper_toUpper {c : Char} (legal : isChar c = true) : c.toUpper.toUpper = c.toUpper :=
  ascii_cases (fun c => c.toUpper.toUpper = c.toUpper) (by decide) legal

/-- A capitalized name does not change when it is capitalized. -/
theorem capitalize_capitalize {name : List Char} (plain : Plain name) :
    capitalize (capitalize name) = capitalize name := by
  cases name with
  | nil => rfl
  | cons first rest =>
    have raised := plain_capitalize plain
    rw [capitalize_cons plain] at raised ⊢
    rw [capitalize_cons raised, toUpper_toUpper (plain first List.mem_cons_self)]

/-- The form of a capitalized stem is that stem. -/
theorem conventionalForm_capitalize {stem : List Char} (plain : Plain stem) :
    conventionalForm (capitalize stem) = capitalize stem := by
  unfold conventionalForm
  split
  · rfl
  · exact capitalize_capitalize plain

/-- A stem follows its word capitalized exactly if it does not start with a small letter before a
capital. -/
theorem capitalize_eq_conventionalForm_iff {stem : List Char} (plain : Plain stem) :
    capitalize stem = conventionalForm stem ↔ startsSmallBeforeCapital stem = false := by
  match stem with
  | [] | [_] => simp [conventionalForm, secondIsCapital, startsSmallBeforeCapital]
  | first :: second :: rest =>
    have raised : first.toUpper = first ↔ first.isLower = false :=
      toUpper_eq_self_iff (plain first List.mem_cons_self)
    cases capital : second.isUpper with
    | false => simp [conventionalForm, secondIsCapital, startsSmallBeforeCapital, capital]
    | true =>
      rw [capitalize_cons plain]
      simp [conventionalForm, secondIsCapital, startsSmallBeforeCapital, capital, raised]

/-- A form with a capital in the second place is not `Class`. -/
theorem ne_class_of_secondIsCapital {form : List Char} (capital : secondIsCapital form = true) :
    form ≠ "Class".toList := by
  rintro rfl
  revert capital
  decide

/-- The second character is the same in the capitalized form. -/
theorem secondIsCapital_capitalize {stem : List Char} (plain : Plain stem) :
    secondIsCapital (capitalize stem) = secondIsCapital stem := by
  cases stem with
  | nil => rfl
  | cons first rest =>
    rw [capitalize_cons plain]
    cases rest <;> rfl

/-- A name is not renamed if a capital stands second after its word. -/
theorem avoidClass_of_secondIsCapital (accessor : Accessor) {form : List Char}
    (capital : secondIsCapital form = true) :
    avoidClass (accessor.word ++ String.ofList form) = accessor.word ++ String.ofList form := by
  have other := ne_class_of_secondIsCapital capital
  rw [avoidClass, if_neg (accessor.append_ne_of_ne_class other (by decide)),
    if_neg (accessor.append_ne_of_ne_class other (by decide))]

/-- The name of an accessor is its word and the capitalized stem, unless that is avoided. -/
theorem name_eq_avoidClass (naming : Naming) (property : String) (node : Option Json)
    (accessor : Accessor) :
    accessor.name naming property node =
      avoidClass (accessor.word ++ String.ofList (capitalize (naming.stem property node))) := by
  let form := capitalize (naming.stem property node)
  cases accessor with
  | getter type =>
    have noSetter : (Accessor.getter type).word ++ String.ofList form ≠ "setClass" := by
      intro named
      have texts := congrArg String.toList named
      cases truth : type.isPrimitiveBoolean <;> simp [Accessor.word, truth] at texts
    rw [avoidClass, if_neg noSetter]
    rfl
  | setter =>
    have noGetter : Accessor.setter.word ++ String.ofList form ≠ "getClass" := by
      intro named
      have texts := congrArg String.toList named
      simp [Accessor.word] at texts
    rw [avoidClass, if_neg noGetter]
    rfl
  | builder =>
    have apart {reserved : String} (avoided : reserved ∈ ["getClass", "setClass"]) :
        Accessor.builder.word ++ String.ofList form ≠ reserved := by
      intro named
      have texts := congrArg String.toList named
      simp only [List.mem_cons, List.not_mem_nil, or_false] at avoided
      rcases avoided with rfl | rfl <;> simp [Accessor.word] at texts
    rw [avoidClass, if_neg (apart (by decide)), if_neg (apart (by decide))]
    rfl

/-- A form shows in the name that is made of it, unless that is avoided. -/
theorem avoidClass_eq_iff (accessor : Accessor) {stem : List Char} (plain : Plain stem) :
    avoidClass (accessor.word ++ String.ofList (capitalize stem)) =
        conventionalName accessor.word stem ↔
      capitalize stem = conventionalForm stem := by
  constructor
  · intro same
    cases capital : secondIsCapital stem with
    | false => simp [conventionalForm, capital]
    | true =>
      -- Neither name is renamed, so both still show their forms.
      have form : conventionalForm stem = stem := by simp [conventionalForm, capital]
      have raised := (secondIsCapital_capitalize plain).trans capital
      rw [conventionalName, form, avoidClass_of_secondIsCapital accessor raised,
        avoidClass_of_secondIsCapital accessor capital] at same
      have texts := congrArg String.toList same
      rw [form]
      simpa using texts
  · intro form
    rw [form, conventionalName]

/-- An accessor of a property has the conventional name of its capitalized stem. That is the
conventional name of the stem exactly if the stem does not start with a small letter before a
capital. -/
theorem accessor_conventional_iff (naming : Naming) (property : String) (node : Option Json)
    (accessor : Accessor) :
    let stem := naming.stem property node
    let name := accessor.name naming property node
    name = conventionalName accessor.word (capitalize stem) ∧
      (name = conventionalName accessor.word stem ↔ startsSmallBeforeCapital stem = false) := by
  intro stem name
  have plain : Plain stem := plain_stem naming property node
  have made : name = avoidClass (accessor.word ++ String.ofList (capitalize stem)) :=
    name_eq_avoidClass naming property node accessor
  constructor
  · rw [made, conventionalName, conventionalForm_capitalize plain]
  · rw [made, avoidClass_eq_iff accessor plain, capitalize_eq_conventionalForm_iff plain]

/-- A property whose name starts with a small letter before a capital has no accessors of
conventional names. -/
theorem not_forall_accessor_conventional :
    ¬∀ (naming : Naming) (property : String) (node : Option Json) (accessor : Accessor),
      accessor.name naming property node =
        conventionalName accessor.word (naming.stem property node) := by
  intro conventional
  have setter := conventional ⟨"- _"⟩ "aB" none .setter
  revert setter
  decide

end Naming

end SchemaBeans
