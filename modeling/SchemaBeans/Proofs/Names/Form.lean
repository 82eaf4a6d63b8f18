import SchemaBeans.Proofs.Names.Accessors
import SchemaBeans.Proofs.Names.Delimiters

/-!
# Names and forms

Accessors are named after the capitalized form of a stem, and fields are not. Properties of one form
have one field name all the same, unless a capital stands second in the form
(`fieldName_eq_or_secondIsCapital`); but then a property has this form if it has the field name of
one that does (`capitalize_eq_of_fieldName_eq`). If the underscore separates words, no form is
`Class_` (`capitalize_stem_ne`), so getters of one kind have one name exactly if they have one form
(`getterName_eq_iff_of_form`), although that of `Class` is renamed.
-/
namespace SchemaBeans.Naming

open Identifier Text

/-- A capital stands second in a name that starts with two. -/
theorem secondIsCapital_of_startsWithCapitals {name : List Char}
    (capitals : startsWithCapitals name = true) : secondIsCapital name = true := by
  match name with
  | [_] => simp [startsWithCapitals] at capitals
  | first :: second :: _ =>
    have both : first.isUpper = true ∧ second.isUpper = true := by
      simpa [startsWithCapitals] using capitals
    exact both.2

/-- The second character stays when the first is put in lower case. -/
theorem secondIsCapital_lowerFirst {stem : List Char} (plain : Plain stem) :
    secondIsCapital (lowerFirst stem) = secondIsCapital stem := by
  unfold lowerFirst
  split
  · rfl
  · cases stem with
    | nil => rfl
    | cons first rest =>
      rw [uncapitalize_cons plain]
      cases rest <;> rfl

/-- No capital stands second in a keyword, nor in a keyword after an underscore. -/
theorem not_secondIsCapital_of_isKeyword {name : List Char} (reserved : isKeyword name = true) :
    secondIsCapital name = false ∧ secondIsCapital ('_' :: name) = false := by
  have all : ∀ word ∈ keywords.map String.toList,
      secondIsCapital word = false ∧ secondIsCapital ('_' :: word) = false := by decide +kernel
  refine all name (List.mem_map.mpr ⟨String.ofList name, ?_, String.toList_ofList⟩)
  simpa [isKeyword] using reserved

/-- Properties of one form have one field name, unless a capital stands second in their stems. -/
theorem fieldName_eq_or_secondIsCapital {naming : Naming} {property other : String}
    {node nodeOther : Option Json}
    (form : capitalize (naming.stem property node) = capitalize (naming.stem other nodeOther)) :
    naming.fieldName property node = naming.fieldName other nodeOther ∨
      secondIsCapital (naming.stem other nodeOther) = true := by
  have plain := plain_stem naming property node
  have plainOther := plain_stem naming other nodeOther
  cases capital : secondIsCapital (naming.stem other nodeOther) with
  | true => exact .inr rfl
  | false =>
    have none : secondIsCapital (naming.stem property node) = false := by
      rw [← secondIsCapital_capitalize plain, form, secondIsCapital_capitalize plainOther, capital]
    have single : startsWithCapitals (naming.stem property node) = false :=
      Bool.eq_false_iff.mpr fun both => by
        simp [secondIsCapital_of_startsWithCapitals both] at none
    have singleOther : startsWithCapitals (naming.stem other nodeOther) = false :=
      Bool.eq_false_iff.mpr fun both => by
        simp [secondIsCapital_of_startsWithCapitals both] at capital
    left
    rw [fieldName, fieldName, lowerFirst, lowerFirst, if_neg (by simp [single]),
      if_neg (by simp [singleOther]), uncapitalize_eq_of_capitalize_eq plain plainOther form]

/-- A property with the field name of another has its form too, if a capital stands second in the
stem of the other. -/
theorem capitalize_eq_of_fieldName_eq {naming : Naming} {property other : String}
    {node nodeOther : Option Json}
    (alike : naming.fieldName property node = naming.fieldName other nodeOther)
    (capital : secondIsCapital (naming.stem other nodeOther) = true) :
    capitalize (naming.stem property node) = capitalize (naming.stem other nodeOther) := by
  have second := (secondIsCapital_lowerFirst (plain_stem naming other nodeOther)).trans capital
  -- Of the pairs that can be confused only a keyword and its guarded form have one field name.
  have clear : ¬Confusable (naming.stem property node) (naming.stem other nodeOther) := by
    rintro (looks | looks)
    · cases looks with
      | abbreviation capitals small =>
        exact (LookAlike.abbreviation_apart capitals small).2 alike
      | className bare guarded => exact (LookAlike.className_apart bare guarded).2 alike
      | keyword reserved guarded =>
        rw [guarded, (not_secondIsCapital_of_isKeyword reserved).2] at second
        cases second
    · cases looks with
      | abbreviation capitals small =>
        exact (LookAlike.abbreviation_apart capitals small).2 alike.symm
      | className bare guarded => exact (LookAlike.className_apart bare guarded).2 alike.symm
      | keyword reserved guarded =>
        rw [(not_secondIsCapital_of_isKeyword reserved).1] at second
        cases second
  exact (fieldName_eq_iff_capitalize_eq clear).mp alike

/-- Words that are joined hold no underscore if that separates words. -/
theorem underscore_not_mem_joinWords {naming : Naming} (separator : naming.separates '_' = true)
    {name : List Char} (plain : Plain name) (some : words naming.separates name ≠ []) :
    '_' ∉ naming.joinWords name := by
  have clean {word : List Char} (member : word ∈ words naming.separates name) : '_' ∉ word := by
    intro inside
    simp [not_separator_of_mem_words member inside] at separator
  unfold joinWords
  split
  · contradiction
  · rename_i first later cut
    rw [cut] at clean
    rw [List.mem_append, List.mem_flatMap]
    rintro (inside | ⟨word, member, inside⟩)
    · exact clean List.mem_cons_self inside
    · have listed := List.mem_cons_of_mem first member
      have plainWord : Plain word := fun c known =>
        plain c (mem_of_mem_words (cut ▸ listed) known)
      rw [← List.count_pos_iff, count_capitalize plainWord, List.count_pos_iff] at inside
      exact clean listed inside

/-- A joined name is made of separators alone if it has no words. -/
theorem separates_of_mem_joinWords {naming : Naming} {name : List Char}
    (none : words naming.separates name = []) {c : Char} (inside : c ∈ naming.joinWords name) :
    naming.separates c = true := by
  have left := flatten_words naming.separates name
  rw [none, List.flatten_nil, eq_comm, List.filter_eq_nil_iff] at left
  rw [joinWords, none] at inside
  simpa using left c inside

/-- No form is `Class_` if the underscore separates words and a letter of it does not. -/
theorem capitalize_stem_ne {naming : Naming} (separator : naming.separates '_' = true)
    (letter : naming.separates 'l' = false) (property : String) (node : Option Json) :
    capitalize (naming.stem property node) ≠ "Class_".toList := by
  intro form
  have plain := plain_stem naming property node
  -- After its first character the stem is spelled as the form is.
  obtain ⟨first, spelled, upper⟩ : ∃ first,
      naming.stem property node = first :: "lass_".toList ∧ first.toUpper = 'C' := by
    cases spelled : naming.stem property node with
    | nil => simp [spelled, capitalize] at form
    | cons first rest =>
      rw [spelled] at plain form
      rw [capitalize_cons plain] at form
      obtain ⟨upper, rfl⟩ := List.cons.inj form
      exact ⟨first, rfl, upper⟩
  let name := legalize (givenName property node).toList
  have joined : naming.joinWords name = first :: "lass_".toList := by
    have guarded : guardDigit (naming.joinWords name) = first :: "lass_".toList := spelled
    cases split : naming.joinWords name with
    | nil => simp [split, guardDigit] at guarded
    | cons c rest =>
      rw [split, guardDigit] at guarded
      split at guarded
      · obtain rfl : '_' = first := (List.cons.inj guarded).1
        exact absurd upper (by decide)
      · exact guarded
  by_cases none : words naming.separates name = []
  · have inside : 'l' ∈ naming.joinWords name := by simp [joined]
    have separates := separates_of_mem_joinWords none inside
    simp [letter] at separates
  · have inside : '_' ∈ naming.joinWords name := by simp [joined]
    exact underscore_not_mem_joinWords separator (plain_legalize _) none inside

/-- The getter of anything but a primitive truth value has the other word, and avoids one name. -/
theorem getterName_of_not_isPrimitiveBoolean {naming : Naming} {property : String} {type : TypeRef}
    {node : Option Json} (other : type.isPrimitiveBoolean = false) :
    naming.getterName property type node =
      if String.ofList (capitalize (naming.stem property node)) = "Class" then "getClass_"
      else "get" ++ String.ofList (capitalize (naming.stem property node)) := by
  have avoided (form : String) : "get" ++ form = "getClass" ↔ form = "Class" := by
    have split : "getClass" = "get" ++ "Class" := by decide
    rw [split, String.append_right_inj]
  rw [getterName, other, if_neg Bool.false_ne_true]
  simp only [accessorName, avoided]

/-- Getters have one name exactly if they are named after one form and their types are of one kind,
if neither form is `Class_`. -/
theorem getterName_eq_iff_of_form {naming : Naming} {property other : String}
    {type typeOther : TypeRef} {node nodeOther : Option Json}
    (unguarded : capitalize (naming.stem property node) ≠ "Class_".toList)
    (unguardedOther : capitalize (naming.stem other nodeOther) ≠ "Class_".toList) :
    naming.getterName property type node = naming.getterName other typeOther nodeOther ↔
      capitalize (naming.stem property node) = capitalize (naming.stem other nodeOther) ∧
        type.isPrimitiveBoolean = typeOther.isPrimitiveBoolean := by
  constructor
  · intro alike
    have apart : ¬AroundClass (naming.stem property node) (naming.stem other nodeOther) := by
      rintro (⟨_, guarded⟩ | ⟨_, guarded⟩)
      · exact unguardedOther guarded
      · exact unguarded guarded
    exact ⟨(capitalize_eq_or_of_getterName_eq alike).resolve_right apart,
      isPrimitiveBoolean_eq_of_getterName_eq alike⟩
  · rintro ⟨form, kinds⟩
    exact getterName_congr form kinds

end SchemaBeans.Naming
