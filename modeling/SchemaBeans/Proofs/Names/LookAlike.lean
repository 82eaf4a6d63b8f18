import SchemaBeans.Proofs.Names.Stem

/-!
# Names that look alike

The field of a property and its accessors are named after one stem, but the stem is changed in
different ways. So two stems may have one field name and two accessor names, or the other way
round. The pairs for which that happens look alike (`LookAlike`), and there are no others
(`confusable_iff`): unless two stems can be confused, their setters have one name exactly if they
have one field name (`setterName_eq_iff`), and so do their getters if the types are of one kind
(`getterName_eq_iff`).
-/
namespace SchemaBeans

/-- Letters with one upper case have one lower case. -/
theorem Identifier.toLower_eq_of_toUpper_eq {c other : Char} (legal : isChar c = true)
    (legalOther : isChar other = true) (alike : c.toUpper = other.toUpper) :
    c.toLower = other.toLower := by
  rw [← toLower_toUpper legal, alike, toLower_toUpper legalOther]

namespace Naming

open Identifier

/-- A plain name stays plain when it is uncapitalized. -/
theorem plain_uncapitalize {name : List Char} (plain : Plain name) :
    Plain (uncapitalize name) := by
  cases name with
  | nil => exact plain
  | cons first rest =>
    rw [uncapitalize_cons plain]
    intro c member
    rcases List.mem_cons.mp member with rfl | later
    · exact isChar_toLower (plain first List.mem_cons_self)
    · exact plain c (List.mem_cons_of_mem first later)

/-- Uncapitalizing does not show in the capitalized form. -/
theorem capitalize_uncapitalize {name : List Char} (plain : Plain name) :
    capitalize (uncapitalize name) = capitalize name := by
  cases name with
  | nil => rfl
  | cons first rest =>
    have small := plain_uncapitalize plain
    rw [uncapitalize_cons plain] at small ⊢
    rw [capitalize_cons small, capitalize_cons plain,
      toUpper_toLower (plain first List.mem_cons_self)]

/-- Whether the first letter was put in lower case does not show in the capitalized form. -/
theorem capitalize_lowerFirst {name : List Char} (plain : Plain name) :
    capitalize (lowerFirst name) = capitalize name := by
  unfold lowerFirst
  split
  · rfl
  · exact capitalize_uncapitalize plain

/-- A plain name keeps its length when its first letter is put in lower case. -/
theorem length_lowerFirst {name : List Char} (plain : Plain name) :
    (lowerFirst name).length = name.length := by
  unfold lowerFirst
  split
  · rfl
  · cases name with
    | nil => rfl
    | cons first rest => rw [uncapitalize_cons plain, List.length_cons, List.length_cons]

/-- A name that starts with two capitals has the capitalized form of another name that does not
only if the other is the first one uncapitalized. -/
theorem eq_uncapitalize_of_capitalize_eq {name other : List Char} (plain : Plain name)
    (plainOther : Plain other) (capitals : startsWithCapitals name = true)
    (single : startsWithCapitals other = false) (alike : capitalize name = capitalize other) :
    other = uncapitalize name := by
  match name, other with
  | [_], _ => simp [startsWithCapitals] at capitals
  | _ :: _ :: _, [] =>
    rw [capitalize_cons plain] at alike
    simp [capitalize] at alike
  | first :: second :: rest, firstOther :: restOther =>
    rw [capitalize_cons plain, capitalize_cons plainOther] at alike
    obtain ⟨upper, rfl⟩ := List.cons.inj alike
    have legal := plain first List.mem_cons_self
    have legalOther := plainOther firstOther List.mem_cons_self
    have both : first.isUpper = true ∧ second.isUpper = true := by
      simpa [startsWithCapitals] using capitals
    have small : firstOther.isUpper = false := by simpa [startsWithCapitals, both.2] using single
    rw [uncapitalize_cons plain, toLower_eq_of_toUpper_eq legal legalOther upper,
      toLower_of_not_isUpper legalOther small]

/-- The stem of one property and of another whose members are not told apart alike. -/
inductive LookAlike : List Char → List Char → Prop where
  /-- An abbreviation keeps its first letter as a field, and has the accessors of the same name
  with a small first letter: `URL` and `uRL`. -/
  | abbreviation {stem other : List Char} (capitals : startsWithCapitals stem = true)
      (small : other = uncapitalize stem) : LookAlike stem other
  /-- The accessors named after `Class` get an underscore at their end, which the field does not:
  `Class` and `Class_`. -/
  | className {stem other : List Char} (bare : capitalize stem = "Class".toList)
      (guarded : capitalize other = "Class_".toList) : LookAlike stem other
  /-- The field of a keyword gets an underscore at its start, which the accessors do not: `for` and
  `_for`. -/
  | keyword {stem other : List Char} (reserved : isKeyword (lowerFirst stem) = true)
      (guarded : lowerFirst other = '_' :: lowerFirst stem) : LookAlike stem other

/-- Two stems can be confused if they look alike in one order or the other. -/
def Confusable (stem other : List Char) : Prop := LookAlike stem other ∨ LookAlike other stem

/-- Stems that can be confused can be so in either order. -/
theorem Confusable.symm {stem other : List Char} (confused : Confusable stem other) :
    Confusable other stem := Or.symm confused

/-- Of two stems one is `Class` once it is capitalized, and the other is `Class_`. -/
def AroundClass (stem other : List Char) : Prop :=
  capitalize stem = "Class".toList ∧ capitalize other = "Class_".toList ∨
    capitalize other = "Class".toList ∧ capitalize stem = "Class_".toList

/-- The pair around `Class` can be confused. -/
theorem AroundClass.confusable {stem other : List Char} (around : AroundClass stem other) :
    Confusable stem other :=
  around.imp (fun forms => .className forms.1 forms.2) fun forms => .className forms.1 forms.2

/-- A name that starts with two capitals is its own capitalized form. -/
theorem capitalize_of_startsWithCapitals {name : List Char} (plain : Plain name)
    (capitals : startsWithCapitals name = true) : capitalize name = name := by
  match name with
  | [_] => simp [startsWithCapitals] at capitals
  | first :: second :: rest =>
    have both : first.isUpper = true ∧ second.isUpper = true := by
      simpa [startsWithCapitals] using capitals
    rw [capitalize_cons plain, toUpper_of_isUpper (plain first List.mem_cons_self) both.1]

/-- Names with one capitalized form have one uncapitalized form. -/
theorem uncapitalize_eq_of_capitalize_eq {name other : List Char} (plain : Plain name)
    (plainOther : Plain other) (alike : capitalize name = capitalize other) :
    uncapitalize name = uncapitalize other := by
  match name, other with
  | [], [] => rfl
  | [], _ :: _ =>
    rw [capitalize_cons plainOther] at alike
    simp [capitalize] at alike
  | _ :: _, [] =>
    rw [capitalize_cons plain] at alike
    simp [capitalize] at alike
  | first :: rest, firstOther :: restOther =>
    rw [capitalize_cons plain, capitalize_cons plainOther] at alike
    obtain ⟨upper, rfl⟩ := List.cons.inj alike
    rw [uncapitalize_cons plain, uncapitalize_cons plainOther,
      toLower_eq_of_toUpper_eq (plain first List.mem_cons_self)
        (plainOther firstOther List.mem_cons_self) upper]

/-- An uncapitalized name does not change when its first letter is put in lower case. -/
theorem lowerFirst_uncapitalize {name : List Char} (plain : Plain name) :
    lowerFirst (uncapitalize name) = uncapitalize name := by
  have again : uncapitalize (uncapitalize name) = uncapitalize name :=
    uncapitalize_eq_of_capitalize_eq (plain_uncapitalize plain) plain (capitalize_uncapitalize plain)
  rw [lowerFirst, again, ite_self]

/-- Names with one capitalized form have one form with a small first letter, unless they can be
confused. -/
theorem lowerFirst_eq_of_capitalize_eq {name other : List Char} (plain : Plain name)
    (plainOther : Plain other) (clear : ¬Confusable name other)
    (alike : capitalize name = capitalize other) : lowerFirst name = lowerFirst other := by
  unfold lowerFirst
  cases capitals : startsWithCapitals name with
  | true =>
    cases capitalsOther : startsWithCapitals other with
    | true =>
      rwa [capitalize_of_startsWithCapitals plain capitals,
        capitalize_of_startsWithCapitals plainOther capitalsOther] at alike
    | false =>
      have small := eq_uncapitalize_of_capitalize_eq plain plainOther capitals capitalsOther alike
      exact absurd (.inl (.abbreviation capitals small)) clear
  | false =>
    cases capitalsOther : startsWithCapitals other with
    | true =>
      have small :=
        eq_uncapitalize_of_capitalize_eq plainOther plain capitalsOther capitals alike.symm
      exact absurd (.inr (.abbreviation capitalsOther small)) clear
    | false => exact uncapitalize_eq_of_capitalize_eq plain plainOther alike

/-- Names with one field name have one capitalized form, unless they can be confused. -/
theorem capitalize_eq_of_guardKeyword_eq {name other : List Char} (plain : Plain name)
    (plainOther : Plain other) (clear : ¬Confusable name other)
    (alike : guardKeyword (lowerFirst name) = guardKeyword (lowerFirst other)) :
    capitalize name = capitalize other := by
  have same : lowerFirst name = lowerFirst other := by
    unfold guardKeyword at alike
    cases reserved : isKeyword (lowerFirst name) with
    | true =>
      cases reservedOther : isKeyword (lowerFirst other) with
      | true => simpa [reserved, reservedOther] using alike
      | false =>
        rw [if_pos reserved, if_neg (by simp [reservedOther])] at alike
        exact absurd (.inl (.keyword reserved alike.symm)) clear
    | false =>
      cases reservedOther : isKeyword (lowerFirst other) with
      | true =>
        rw [if_neg (by simp [reserved]), if_pos reservedOther] at alike
        exact absurd (.inr (.keyword reservedOther alike)) clear
      | false => simpa [reserved, reservedOther] using alike
  rw [← capitalize_lowerFirst plain, same, capitalize_lowerFirst plainOther]

/-- Names that are made from others by one replacement are equal, unless the replacement of one
is the other. -/
theorem eq_of_replaced_eq {name other reserved instead : String}
    (alike : (if name = reserved then instead else name) =
      if other = reserved then instead else other) :
    name = other ∨ (name = reserved ∧ other = instead) ∨ (other = reserved ∧ name = instead) := by
  split at alike
  · split at alike
    · exact .inl (by simp [*])
    · exact .inr (.inl ⟨‹_›, alike.symm⟩)
  · split at alike
    · exact .inr (.inr ⟨‹_›, alike⟩)
    · exact .inl alike

/-- Accessors with one word before them are named alike only if they are named after one form. -/
theorem capitalize_eq_of_accessorName_eq {naming : Naming} {word property other : String}
    {node nodeOther : Option Json}
    (alike : naming.accessorName word property node = naming.accessorName word other nodeOther) :
    capitalize (naming.stem property node) = capitalize (naming.stem other nodeOther) := by
  have texts := congrArg String.toList alike
  simpa [accessorName] using texts

/-- The form of a stem is known from the name of an accessor. -/
theorem capitalize_eq_of_accessorName {naming : Naming} {word property : String}
    {node : Option Json} {form : List Char}
    (named : naming.accessorName word property node = word ++ String.ofList form) :
    capitalize (naming.stem property node) = form := by
  have texts := congrArg String.toList named
  simpa [accessorName] using texts

/-- Accessors that are renamed away from one method are named alike only if they are named after
one form, or are the pair around `Class`. -/
theorem capitalize_eq_or_of_renamed_eq {naming : Naming} (word : String) {property other : String}
    {node nodeOther : Option Json}
    (alike :
      (if naming.accessorName word property node = word ++ "Class" then word ++ "Class_"
        else naming.accessorName word property node) =
      if naming.accessorName word other nodeOther = word ++ "Class" then word ++ "Class_"
        else naming.accessorName word other nodeOther) :
    capitalize (naming.stem property node) = capitalize (naming.stem other nodeOther) ∨
      AroundClass (naming.stem property node) (naming.stem other nodeOther) := by
  rcases eq_of_replaced_eq alike with same | ⟨bare, guarded⟩ | ⟨bare, guarded⟩
  · exact .inl (capitalize_eq_of_accessorName_eq same)
  · exact .inr (.inl ⟨capitalize_eq_of_accessorName bare, capitalize_eq_of_accessorName guarded⟩)
  · exact .inr (.inr ⟨capitalize_eq_of_accessorName bare, capitalize_eq_of_accessorName guarded⟩)

/-- The name of a getter starts with one of two words, and both are told by their first letter. -/
theorem head_getterName (naming : Naming) (property : String) (type : TypeRef)
    (node : Option Json) :
    (naming.getterName property type node).toList.head? =
      some (if type.isPrimitiveBoolean then 'i' else 'g') := by
  unfold getterName accessorName
  cases type.isPrimitiveBoolean with
  | true =>
    simp only [if_true]
    split
    · rename_i named
      have texts := congrArg String.toList named
      simp at texts
    · simp
  | false =>
    simp only [Bool.false_eq_true, if_false]
    split <;> simp

/-- The getter of a primitive truth value is never renamed. -/
theorem getterName_of_isPrimitiveBoolean {naming : Naming} {property : String} {type : TypeRef}
    {node : Option Json} (truth : type.isPrimitiveBoolean = true) :
    naming.getterName property type node = naming.accessorName "is" property node := by
  unfold getterName
  rw [if_pos truth, if_neg]
  intro named
  have texts := congrArg String.toList named
  simp [accessorName] at texts

/-- Getters of one name are getters of one kind of types. -/
theorem isPrimitiveBoolean_eq_of_getterName_eq {naming : Naming} {property other : String}
    {type typeOther : TypeRef} {node nodeOther : Option Json}
    (alike : naming.getterName property type node = naming.getterName other typeOther nodeOther) :
    type.isPrimitiveBoolean = typeOther.isPrimitiveBoolean := by
  have heads := head_getterName naming property type node
  rw [alike, head_getterName] at heads
  cases truth : type.isPrimitiveBoolean <;> cases truthOther : typeOther.isPrimitiveBoolean <;>
    simp [truth, truthOther] at heads ⊢

/-- Getters are named alike only if they are named after one form, or are the pair around
`Class`. -/
theorem capitalize_eq_or_of_getterName_eq {naming : Naming} {property other : String}
    {type typeOther : TypeRef} {node nodeOther : Option Json}
    (alike : naming.getterName property type node = naming.getterName other typeOther nodeOther) :
    capitalize (naming.stem property node) = capitalize (naming.stem other nodeOther) ∨
      AroundClass (naming.stem property node) (naming.stem other nodeOther) := by
  have kinds := isPrimitiveBoolean_eq_of_getterName_eq alike
  cases truthOther : typeOther.isPrimitiveBoolean with
  | true =>
    rw [getterName_of_isPrimitiveBoolean (kinds.trans truthOther),
      getterName_of_isPrimitiveBoolean truthOther] at alike
    exact .inl (capitalize_eq_of_accessorName_eq alike)
  | false =>
    have words : ("get" ++ "Class" = "getClass") ∧ ("get" ++ "Class_" = "getClass_") := by decide
    refine capitalize_eq_or_of_renamed_eq "get" ?_
    rw [words.1, words.2]
    simpa only [getterName, kinds, truthOther, Bool.false_eq_true, if_false] using alike

/-- Setters are named alike only if they are named after one form, or are the pair around
`Class`. -/
theorem capitalize_eq_or_of_setterName_eq {naming : Naming} {property other : String}
    {node nodeOther : Option Json}
    (alike : naming.setterName property node = naming.setterName other nodeOther) :
    capitalize (naming.stem property node) = capitalize (naming.stem other nodeOther) ∨
      AroundClass (naming.stem property node) (naming.stem other nodeOther) := by
  have words : ("set" ++ "Class" = "setClass") ∧ ("set" ++ "Class_" = "setClass_") := by decide
  refine capitalize_eq_or_of_renamed_eq "set" ?_
  rw [words.1, words.2]
  exact alike

/-- Stems of one form have accessors of one name. -/
theorem accessorName_congr {naming : Naming} {property other : String}
    {node nodeOther : Option Json}
    (form : capitalize (naming.stem property node) = capitalize (naming.stem other nodeOther))
    (word : String) :
    naming.accessorName word property node = naming.accessorName word other nodeOther := by
  rw [accessorName, form, accessorName]

/-- Stems of one form have setters of one name. -/
theorem setterName_congr {naming : Naming} {property other : String}
    {node nodeOther : Option Json}
    (form : capitalize (naming.stem property node) = capitalize (naming.stem other nodeOther)) :
    naming.setterName property node = naming.setterName other nodeOther := by
  rw [setterName, accessorName_congr form, setterName]

/-- Stems of one form have getters of one name, if the types are of one kind. -/
theorem getterName_congr {naming : Naming} {property other : String} {type typeOther : TypeRef}
    {node nodeOther : Option Json}
    (form : capitalize (naming.stem property node) = capitalize (naming.stem other nodeOther))
    (kinds : type.isPrimitiveBoolean = typeOther.isPrimitiveBoolean) :
    naming.getterName property type node = naming.getterName other typeOther nodeOther := by
  rw [getterName, accessorName_congr form, kinds, getterName]

/-- Unless two stems can be confused, they have one field name exactly if they have one form. -/
theorem fieldName_eq_iff_capitalize_eq {naming : Naming} {property other : String}
    {node nodeOther : Option Json}
    (clear : ¬Confusable (naming.stem property node) (naming.stem other nodeOther)) :
    naming.fieldName property node = naming.fieldName other nodeOther ↔
      capitalize (naming.stem property node) = capitalize (naming.stem other nodeOther) := by
  have plain := plain_stem naming property node
  have plainOther := plain_stem naming other nodeOther
  unfold fieldName
  constructor
  · intro alike
    exact capitalize_eq_of_guardKeyword_eq plain plainOther clear (String.ofList_injective alike)
  · intro form
    rw [lowerFirst_eq_of_capitalize_eq plain plainOther clear form]

/-- Unless two stems can be confused, their setters have one name exactly if they have one field
name. -/
theorem setterName_eq_iff {naming : Naming} {property other : String}
    {node nodeOther : Option Json}
    (clear : ¬Confusable (naming.stem property node) (naming.stem other nodeOther)) :
    naming.setterName property node = naming.setterName other nodeOther ↔
      naming.fieldName property node = naming.fieldName other nodeOther := by
  rw [fieldName_eq_iff_capitalize_eq clear]
  constructor
  · intro alike
    exact (capitalize_eq_or_of_setterName_eq alike).resolve_right (mt AroundClass.confusable clear)
  · exact setterName_congr

/-- Unless two stems can be confused, their getters have one name exactly if they have one field
name and types of one kind. -/
theorem getterName_eq_iff {naming : Naming} {property other : String} {type typeOther : TypeRef}
    {node nodeOther : Option Json}
    (clear : ¬Confusable (naming.stem property node) (naming.stem other nodeOther)) :
    naming.getterName property type node = naming.getterName other typeOther nodeOther ↔
      naming.fieldName property node = naming.fieldName other nodeOther ∧
        type.isPrimitiveBoolean = typeOther.isPrimitiveBoolean := by
  rw [fieldName_eq_iff_capitalize_eq clear]
  constructor
  · intro alike
    have form := (capitalize_eq_or_of_getterName_eq alike).resolve_right
      (mt AroundClass.confusable clear)
    exact ⟨form, isPrimitiveBoolean_eq_of_getterName_eq alike⟩
  · rintro ⟨form, kinds⟩
    exact getterName_congr form kinds

/-- The name of a setter starts with a word that is told by its first letter. -/
theorem head_setterName (naming : Naming) (property : String) (node : Option Json) :
    (naming.setterName property node).toList.head? = some 's' := by
  unfold setterName accessorName
  simp only []
  split <;> simp

/-- The name of a setter starts with a word that no getter starts with. -/
theorem setterName_ne_getterName (naming : Naming) (property other : String) (type : TypeRef)
    (node nodeOther : Option Json) :
    naming.setterName property node ≠ naming.getterName other type nodeOther := by
  intro alike
  have head := head_setterName naming property node
  rw [alike, head_getterName] at head
  split at head <;> simp at head

/-- A keyword starts with no capital, and is none after an underscore. -/
theorem keyword_shape {name : List Char} (reserved : isKeyword name = true) :
    (∀ first, name.head? = some first → first.isUpper = false) ∧
      isKeyword ('_' :: name) = false := by
  have all : ∀ word ∈ keywords.map String.toList,
      (∀ first, word.head? = some first → first.isUpper = false) ∧
        isKeyword ('_' :: word) = false := by
    have heads : ∀ word ∈ keywords.map String.toList,
        word.head?.all (·.isUpper == false) = true ∧ isKeyword ('_' :: word) = false := by
      decide +kernel
    intro word member
    refine ⟨fun first starts => ?_, (heads word member).2⟩
    simpa [starts] using (heads word member).1
  refine all name (List.mem_map.mpr ⟨String.ofList name, ?_, String.toList_ofList⟩)
  simpa [isKeyword] using reserved

/-- An abbreviation has another field name than the same name with a small first letter. -/
theorem guardKeyword_abbreviation_ne {stem : List Char} (plain : Plain stem)
    (capitals : startsWithCapitals stem = true) :
    guardKeyword (lowerFirst stem) ≠ guardKeyword (lowerFirst (uncapitalize stem)) := by
  match stem with
  | [_] => simp [startsWithCapitals] at capitals
  | first :: second :: rest =>
    have upper : first.isUpper = true := (by simpa [startsWithCapitals] using capitals :
      first.isUpper = true ∧ second.isUpper = true).1
    have legal := plain first List.mem_cons_self
    have small : first.toLower.isUpper = false :=
      ascii_cases (fun c => c.toLower.isUpper = false) (by decide) legal
    have settled : lowerFirst (uncapitalize (first :: second :: rest)) =
        first.toLower :: second :: rest := by
      rw [lowerFirst_uncapitalize plain, uncapitalize_cons plain]
    -- The names are told apart by their first letters. A capital stays, since no keyword starts
    -- with one, and the other name starts with a small letter or with the underscore of a guard.
    have head : (guardKeyword (lowerFirst (first :: second :: rest))).head? = some first := by
      unfold guardKeyword
      rw [lowerFirst, if_pos capitals, if_neg]
      · rfl
      · intro reserved
        simpa [upper] using (keyword_shape reserved).1 first rfl
    intro alike
    rw [alike, settled, guardKeyword] at head
    split at head
    · obtain rfl : '_' = first := by simpa using head
      exact absurd upper (by decide)
    · obtain equal : first.toLower = first := by simpa using head
      rw [equal, upper] at small
      simp at small

/-- A name whose capitalized form does not start with two capitals is known from the form. -/
theorem lowerFirst_eq_uncapitalize {name form : List Char} (plain : Plain name)
    (capitalized : capitalize name = form) (single : startsWithCapitals form = false) :
    lowerFirst name = uncapitalize form := by
  have capitals : startsWithCapitals name = false := by
    cases both : startsWithCapitals name with
    | false => rfl
    | true =>
      rw [capitalize_of_startsWithCapitals plain both] at capitalized
      rw [capitalized, single] at both
      exact both.symm
  rw [lowerFirst, if_neg (by simp [capitals])]
  cases name with
  | nil => rw [← capitalized]; rfl
  | cons first rest =>
    have large := plain_capitalize plain
    have legal := plain first List.mem_cons_self
    rw [capitalize_cons plain] at large capitalized
    rw [← capitalized, uncapitalize_cons large, uncapitalize_cons plain, toLower_toUpper legal]

/-- The setters of the pair around `Class` have one name, and the fields do not. -/
theorem LookAlike.className_apart {naming : Naming} {property other : String}
    {node nodeOther : Option Json}
    (bare : capitalize (naming.stem property node) = "Class".toList)
    (guarded : capitalize (naming.stem other nodeOther) = "Class_".toList) :
    naming.setterName property node = naming.setterName other nodeOther ∧
      naming.fieldName property node ≠ naming.fieldName other nodeOther := by
  have first := lowerFirst_eq_uncapitalize (plain_stem naming property node) bare (by decide)
  have second := lowerFirst_eq_uncapitalize (plain_stem naming other nodeOther) guarded (by decide)
  constructor
  · unfold setterName accessorName
    rw [bare, guarded]
    decide
  · unfold fieldName
    rw [first, second]
    decide

/-- A plain name keeps its length when it is capitalized. -/
theorem length_capitalize {name : List Char} (plain : Plain name) :
    (capitalize name).length = name.length := by
  cases name with
  | nil => rfl
  | cons first rest => rw [capitalize_cons plain, List.length_cons, List.length_cons]

/-- A keyword and the keyword after an underscore have one field name, and their setters do not. -/
theorem LookAlike.keyword_apart {naming : Naming} {property other : String}
    {node nodeOther : Option Json}
    (reserved : isKeyword (lowerFirst (naming.stem property node)) = true)
    (guarded : lowerFirst (naming.stem other nodeOther) =
      '_' :: lowerFirst (naming.stem property node)) :
    naming.fieldName property node = naming.fieldName other nodeOther ∧
      naming.setterName property node ≠ naming.setterName other nodeOther := by
  have plain := plain_stem naming property node
  have plainOther := plain_stem naming other nodeOther
  have underscored : capitalize (naming.stem other nodeOther) =
      '_' :: lowerFirst (naming.stem property node) := by
    rw [← capitalize_lowerFirst plainOther, guarded]
    rfl
  constructor
  · unfold fieldName
    rw [guarded, guardKeyword, if_pos reserved, guardKeyword,
      if_neg (by simp [(keyword_shape reserved).2])]
  · intro alike
    rcases eq_of_replaced_eq alike with same | ⟨_, named⟩ | ⟨named, _⟩
    · -- The underscore makes one form longer than the other.
      have form := congrArg List.length (capitalize_eq_of_accessorName_eq same)
      rw [underscored, List.length_cons, length_capitalize plain, length_lowerFirst plain] at form
      omega
    · have form : capitalize (naming.stem other nodeOther) = "Class_".toList :=
        capitalize_eq_of_accessorName named
      simp [underscored] at form
    · have form : capitalize (naming.stem other nodeOther) = "Class".toList :=
        capitalize_eq_of_accessorName named
      simp [underscored] at form

/-- An abbreviation and the same name with a small first letter have setters of one name, and their
fields do not. -/
theorem LookAlike.abbreviation_apart {naming : Naming} {property other : String}
    {node nodeOther : Option Json}
    (capitals : startsWithCapitals (naming.stem property node) = true)
    (small : naming.stem other nodeOther = uncapitalize (naming.stem property node)) :
    naming.setterName property node = naming.setterName other nodeOther ∧
      naming.fieldName property node ≠ naming.fieldName other nodeOther := by
  have plain := plain_stem naming property node
  have form :
      capitalize (naming.stem property node) = capitalize (naming.stem other nodeOther) := by
    rw [small, capitalize_uncapitalize plain]
  constructor
  · exact setterName_congr form
  · intro alike
    unfold fieldName at alike
    rw [small] at alike
    exact guardKeyword_abbreviation_ne plain capitals (String.ofList_injective alike)

/-- Two stems can be confused exactly if they have one field name or one name of a setter, and not
both. -/
theorem confusable_iff {naming : Naming} {property other : String} {node nodeOther : Option Json} :
    Confusable (naming.stem property node) (naming.stem other nodeOther) ↔
      ¬(naming.setterName property node = naming.setterName other nodeOther ↔
        naming.fieldName property node = naming.fieldName other nodeOther) := by
  have apart {property other : String} {node nodeOther : Option Json}
      (alike : LookAlike (naming.stem property node) (naming.stem other nodeOther)) :
      ¬(naming.setterName property node = naming.setterName other nodeOther ↔
        naming.fieldName property node = naming.fieldName other nodeOther) := by
    cases alike with
    | abbreviation capitals small =>
      have members := LookAlike.abbreviation_apart capitals small
      exact fun agree => members.2 (agree.mp members.1)
    | className bare guarded =>
      have members := LookAlike.className_apart bare guarded
      exact fun agree => members.2 (agree.mp members.1)
    | keyword reserved guarded =>
      have members := LookAlike.keyword_apart reserved guarded
      exact fun agree => members.2 (agree.mpr members.1)
  constructor
  · rintro (alike | alike)
    · exact apart alike
    · intro agree
      refine apart alike ?_
      rw [eq_comm, agree, eq_comm]
  · intro disagree
    exact Classical.byContradiction fun clear => disagree (setterName_eq_iff clear)

end Naming

end SchemaBeans
