import SchemaBeans.Proofs.Names.Form
import SchemaBeans.Rule.Required

/-!
# Names of fields that are resolved again

The name of a field may stand where the name of a property is expected, as an entry of `required` or
as the other name that a schema gives to a property. It leads to the same field then
(`fieldName_resolved`), unless letters or digits separate words. The words of a name are joined to a
text that is joined already (`whole_joinWords`), and the one underscore that guards a field name is
either kept, or it separates words, is dropped with them and is put back (`joinWords_asField`).
-/
namespace SchemaBeans

namespace Naming

open Identifier Text

/-- Whether a name is no identifier for its start or for being a keyword. -/
def needsGuard (name : List Char) : Bool := startsWithDigit name || isKeyword name

/-- The name of a field for joined words. -/
def asField (joined : List Char) : List Char := guardKeyword (lowerFirst (guardDigit joined))

/-- Only the single underscore is a keyword that starts with one. -/
theorem eq_nil_of_isKeyword {name : List Char} (reserved : isKeyword ('_' :: name) = true) :
    name = [] := by
  have all : ∀ word ∈ keywords.map String.toList, word.head? = some '_' → word = ['_'] := by
    decide +kernel
  have known : '_' :: name ∈ keywords.map String.toList :=
    List.mem_map.mpr ⟨String.ofList ('_' :: name), by simpa [isKeyword] using reserved,
      String.toList_ofList⟩
  exact (List.cons.inj (all _ known rfl)).2

/-- A name that needs a guard starts with a letter, a digit or an underscore. -/
theorem head_of_needsGuard {name : List Char} (plain : Plain name)
    (guarded : needsGuard name = true) :
    ∃ first rest, name = first :: rest ∧ (first.isAlphanum = true ∨ first = '_') := by
  rcases Bool.or_eq_true_iff.mp guarded with digit | reserved
  · cases name with
    | nil => cases digit
    | cons first rest =>
      have letter : first.isAlphanum = true :=
        ascii_cases (fun c => isDigit c = true → c.isAlphanum = true) (by decide +kernel)
          (plain first List.mem_cons_self) digit
      exact ⟨first, rest, rfl, .inl letter⟩
  · have all : ∀ word ∈ keywords.map String.toList,
        word.head?.any (fun c => c.isAlphanum || c == '_') = true := by decide +kernel
    have starts := all name (List.mem_map.mpr ⟨String.ofList name, by simpa [isKeyword] using
      reserved, String.toList_ofList⟩)
    cases name with
    | nil => cases starts
    | cons first rest => exact ⟨first, rest, rfl, by simpa using starts⟩

/-- A name that starts with an underscore starts with it in lower case. -/
theorem lowerFirst_underscore (name : List Char) : lowerFirst ('_' :: name) = '_' :: name := by
  unfold lowerFirst
  split <;> rfl

/-- Nothing but a digit at the start is guarded. -/
theorem guardDigit_of_not_startsWithDigit {name : List Char}
    (clear : startsWithDigit name = false) : guardDigit name = name := by
  cases name with
  | nil => rfl
  | cons first rest => exact if_neg (Bool.eq_false_iff.mp clear)

/-- The guard of an underscore is the only one. -/
theorem asField_underscore {name : List Char} (some : name ≠ []) :
    asField ('_' :: name) = '_' :: name := by
  have free : isKeyword ('_' :: name) = false :=
    Bool.eq_false_iff.mpr fun reserved => some (eq_nil_of_isKeyword reserved)
  have clear : guardDigit ('_' :: name) = '_' :: name := guardDigit_of_not_startsWithDigit rfl
  rw [asField, clear, lowerFirst_underscore, guardKeyword, free, if_neg Bool.false_ne_true]

/-- The first letter is put in lower case once. -/
theorem lowerFirst_lowerFirst {name : List Char} (plain : Plain name) :
    lowerFirst (lowerFirst name) = lowerFirst name := by
  cases capitals : startsWithCapitals name with
  | true =>
    have kept : lowerFirst name = name := if_pos capitals
    rw [kept, kept]
  | false =>
    have small : lowerFirst name = uncapitalize name := if_neg (by simp [capitals])
    rw [small, lowerFirst_uncapitalize plain]

/-- A small first letter is no digit if the large one is not. -/
theorem startsWithDigit_lowerFirst {name : List Char} (plain : Plain name) :
    startsWithDigit (lowerFirst name) = startsWithDigit name := by
  unfold lowerFirst
  split
  · rfl
  · cases name with
    | nil => rfl
    | cons first rest =>
      rw [uncapitalize_cons plain]
      exact ascii_cases (fun c => isDigit c.toLower = isDigit c) (by decide +kernel)
        (plain first List.mem_cons_self)

/-- A digit at the start does not change in lower case. -/
theorem lowerFirst_of_startsWithDigit {name : List Char} (plain : Plain name)
    (digit : startsWithDigit name = true) : lowerFirst name = name := by
  unfold lowerFirst
  split
  · rfl
  · cases name with
    | nil => rfl
    | cons first rest =>
      have same : first.toLower = first :=
        ascii_cases (fun c => isDigit c = true → c.toLower = c) (by decide +kernel)
          (plain first List.mem_cons_self) digit
      rw [uncapitalize_cons plain, same]

/-- A field has one guard, for its first character or for a keyword. -/
theorem asField_eq {joined : List Char} (plain : Plain joined) :
    asField joined =
      if needsGuard (lowerFirst joined) then '_' :: lowerFirst joined else lowerFirst joined := by
  unfold needsGuard
  rw [startsWithDigit_lowerFirst plain]
  cases digit : startsWithDigit joined with
  | true =>
    have some : joined ≠ [] := by
      rintro rfl
      cases digit
    have free : isKeyword ('_' :: joined) = false :=
      Bool.eq_false_iff.mpr fun reserved => some (eq_nil_of_isKeyword reserved)
    rw [asField, guardDigit_of_startsWithDigit digit, lowerFirst_underscore, guardKeyword, free,
      lowerFirst_of_startsWithDigit plain digit]
    rfl
  | false => rw [asField, guardDigit_of_not_startsWithDigit digit, guardKeyword, Bool.false_or]

/-- The name of a plain field is plain. -/
theorem plain_asField {joined : List Char} (plain : Plain joined) : Plain (asField joined) := by
  rw [asField_eq plain]
  split
  · exact plain_underscore (plain_lowerFirst plain)
  · exact plain_lowerFirst plain

/-- It makes no difference to the name of a field if the first letter is small already. -/
theorem asField_lowerFirst {joined : List Char} (plain : Plain joined) :
    asField (lowerFirst joined) = asField joined := by
  rw [asField_eq (plain_lowerFirst plain), asField_eq plain, lowerFirst_lowerFirst plain]

/-- The name of a field is the name of a field as it stands. -/
theorem asField_asField {joined : List Char} (plain : Plain joined) :
    asField (asField joined) = asField joined := by
  rw [asField_eq plain]
  split
  · rename_i guarded
    obtain ⟨first, rest, spelled, _⟩ := head_of_needsGuard (plain_lowerFirst plain) guarded
    exact asField_underscore (spelled ▸ List.cons_ne_nil first rest)
  · rename_i free
    rw [asField_lowerFirst plain, asField_eq plain, if_neg free]

/-- All characters of a name separate words, or none does. -/
def Whole (naming : Naming) (name : List Char) : Prop :=
  (∀ c ∈ name, naming.separates c = false) ∨ ∀ c ∈ name, naming.separates c = true

/-- A whole name is joined already. -/
theorem joinWords_of_whole {naming : Naming} {name : List Char} (whole : naming.Whole name) :
    naming.joinWords name = name := by
  rcases whole with clean | separators
  · by_cases none : name = []
    · subst none
      rfl
    · exact joinWords_of_clean none clean
  · have none : words naming.separates name = [] := by
      have run := words_append_separators separators []
      rwa [List.append_nil] at run
    rw [joinWords, none]

section Letters

variable {naming : Naming} (clear : ∀ c, naming.separates c = true → c.isAlphanum = false)

include clear

/-- A character separates words in both cases or in none. -/
theorem separates_case {c : Char} (legal : isChar c = true) :
    naming.separates c.toUpper = naming.separates c ∧
      naming.separates c.toLower = naming.separates c := by
  have kinds : c.isAlphanum = true ∧ c.toUpper.isAlphanum = true ∧ c.toLower.isAlphanum = true ∨
      c.toUpper = c ∧ c.toLower = c :=
    ascii_cases (fun c => c.isAlphanum = true ∧ c.toUpper.isAlphanum = true ∧
      c.toLower.isAlphanum = true ∨ c.toUpper = c ∧ c.toLower = c) (by decide +kernel) legal
  rcases kinds with ⟨own, upper, lower⟩ | ⟨upper, lower⟩
  · have letter {d : Char} (known : d.isAlphanum = true) : naming.separates d = false :=
      DelimitedName.separates_of_isAlphanum clear known
    rw [letter own, letter upper, letter lower]
    exact ⟨rfl, rfl⟩
  · rw [upper, lower]
    exact ⟨rfl, rfl⟩

/-- Words are joined to a whole name. -/
theorem whole_joinWords {name : List Char} (plain : Plain name) :
    naming.Whole (naming.joinWords name) := by
  cases cut : words naming.separates name with
  | nil => exact .inr fun c => separates_of_mem_joinWords cut
  | cons first later =>
    left
    have clean {word : List Char} (member : word ∈ first :: later) {c : Char} (inside : c ∈ word) :
        naming.separates c = false := not_separator_of_mem_words (cut ▸ member) inside
    intro c member
    rw [joinWords, cut] at member
    rcases List.mem_append.mp member with inside | inside
    · exact clean List.mem_cons_self inside
    · obtain ⟨word, known, capital⟩ := List.mem_flatMap.mp inside
      have listed := List.mem_cons_of_mem first known
      have plainWord : Plain word := fun d within =>
        plain d (mem_of_mem_words (cut ▸ listed) within)
      cases word with
      | nil => exact absurd capital (by simp [capitalize])
      | cons d rest =>
        rw [capitalize_cons plainWord] at capital
        rcases List.mem_cons.mp capital with rfl | within
        · rw [(separates_case clear (plainWord d List.mem_cons_self)).1]
          exact clean listed List.mem_cons_self
        · exact clean listed (List.mem_cons_of_mem d within)

/-- A whole name stays whole when its first letter is put in lower case. -/
theorem whole_lowerFirst {name : List Char} (plain : Plain name) (whole : naming.Whole name) :
    naming.Whole (lowerFirst name) := by
  unfold lowerFirst
  split
  · exact whole
  · cases name with
    | nil => exact whole
    | cons first rest =>
      have same := (separates_case clear (plain first List.mem_cons_self)).2
      rw [uncapitalize_cons plain]
      unfold Whole at whole ⊢
      simpa only [List.forall_mem_cons, same] using whole

/-- The name of a field is joined already, or it is but for its guard. -/
theorem joinWords_asField {joined : List Char} (plain : Plain joined)
    (whole : naming.Whole joined) :
    naming.joinWords (asField joined) = asField joined ∨
      naming.joinWords (asField joined) = lowerFirst joined := by
  have small := whole_lowerFirst clear plain whole
  rw [asField_eq plain]
  split
  · rename_i guarded
    obtain ⟨first, rest, spelled, start⟩ := head_of_needsGuard (plain_lowerFirst plain) guarded
    rw [spelled] at small ⊢
    rcases small with clean | separators
    · cases dropped : naming.separates '_' with
      | true =>
        -- The guard is a separator before a word, and is dropped as such.
        right
        have alone : Spaced naming.separates [] [] := by constructor <;> simp
        have lead : ∀ c ∈ ['_'], naming.separates c = true := by simpa using dropped
        have joined := joinWords_spaced lead (List.cons_ne_nil first rest) clean alone
        simpa [spacedText] using joined
      | false =>
        exact .inl (joinWords_of_whole (.inl (List.forall_mem_cons.mpr ⟨dropped, clean⟩)))
    · -- A letter or a digit does not separate words, so the name starts with an underscore.
      have underscore : naming.separates '_' = true := by
        have own := separators first List.mem_cons_self
        rcases start with letter | rfl
        · rw [clear first own] at letter
          cases letter
        · exact own
      exact .inl (joinWords_of_whole (.inr (List.forall_mem_cons.mpr ⟨underscore, separators⟩)))
  · exact .inl (joinWords_of_whole small)

/-- What is given the name of a field resolves to that field. -/
theorem fieldName_of_givenName {property other : String} {node nodeOther : Option Json}
    (named : givenName other nodeOther = naming.fieldName property node) :
    naming.fieldName other nodeOther = naming.fieldName property node := by
  let joined := naming.joinWords (legalize (givenName property node).toList)
  have plain : Plain joined := plain_joinWords naming (plain_legalize _)
  have whole : naming.Whole joined := whole_joinWords clear (plain_legalize _)
  have made : naming.fieldName property node = String.ofList (asField joined) := rfl
  have again : naming.fieldName other nodeOther =
      String.ofList (asField (naming.joinWords (legalize (asField joined)))) := by
    rw [← String.toList_ofList (l := asField joined), ← made, ← named]
    rfl
  rw [again, made, legalize_eq_self (plain_asField plain)]
  rcases joinWords_asField clear plain whole with kept | dropped
  · rw [kept, asField_asField plain]
  · rw [dropped, asField_lowerFirst plain]

/-- The name of a field resolves to itself. So it leads to its field as the other name that a schema
gives to a property, which no empty text is, and as an entry of `required` that names no declared
property. -/
theorem fieldName_resolved (property : String) (node : Option Json) :
    let field := naming.fieldName property node
    naming.fieldName field none = field ∧
      (∀ (other : String) (schema : Option Json),
        (schema.bind (·.get? "javaName")).bind Json.nonemptyText? = some field →
        naming.fieldName other schema = field) ∧
      ∀ (context : RuleContext) (properties : Option (Entries Json)),
        context.naming = naming → Required.propertyNode properties field = none →
        Required.fieldName context properties field = field := by
  intro field
  have alone : naming.fieldName field none = field := fieldName_of_givenName clear rfl
  refine ⟨alone, fun other schema named => ?_, fun context properties shared undeclared => ?_⟩
  · have given : givenName other schema = field := by rw [givenName, named, Option.getD_some]
    exact fieldName_of_givenName clear given
  · rw [Required.fieldName, undeclared, shared]
    exact alone

end Letters

/-- A field with the guard of a keyword is found by its own name, although the underscore of the
guard separates words. -/
theorem fieldName_resolved_keyword :
    let context : RuleContext := .ofSettings {}
    let schema : Json := .object [("javaName", .string "_for")]
    let properties : Entries Json := [("For", .null), ("other", schema)]
    context.naming.separates '_' = true ∧ context.naming.fieldName "For" none = "_for" ∧
      context.naming.fieldName "_for" none = "_for" ∧
      context.naming.fieldName "other" (some schema) = "_for" ∧
      Required.fieldName context (some properties) "_for" = "_for" := by
  intro context schema properties
  have clear : ∀ c, context.naming.separates c = true → c.isAlphanum = false := by
    intro c separator
    have listed : c = '-' ∨ c = ' ' ∨ c = '_' := by
      simpa [separates, context, RuleContext.ofSettings] using separator
    rcases listed with rfl | rfl | rfl <;> decide
  have field : context.naming.fieldName "For" none = "_for" := by decide
  obtain ⟨alone, given, listed⟩ := fieldName_resolved clear "For" none
  rw [field] at alone given listed
  exact ⟨by decide, field, alone, given "other" (some schema) rfl,
    listed context (some properties) rfl rfl⟩

end Naming

end SchemaBeans
