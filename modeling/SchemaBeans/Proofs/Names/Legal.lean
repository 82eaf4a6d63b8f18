import SchemaBeans.Proofs.Names.LookAlike
import SchemaBeans.Proofs.Text.Numerals

/-!
# Names that are legal

A stem starts with no digit (`isDigit_head_stem`), and a name that is guarded as a keyword is none
any more, so a name that is not empty makes a legal field name. An empty name passes all guards as
it is. So the name of a field is legal exactly if the name from which it is made is not empty
(`isLegal_fieldName_iff`).
-/
namespace SchemaBeans

/-- A digit of ASCII is a digit. -/
theorem Text.isDigit_of_ascii {c : Char} (digit : c.isDigit = true) : isDigit c = true := by
  simp [isDigit, decimalValue?_of_isDigit digit]

namespace Naming

open Identifier

/-- Words are joined to nothing only if there is nothing to cut into words. -/
theorem joinWords_eq_nil_iff {naming : Naming} {name : List Char} :
    naming.joinWords name = [] ↔ name = [] := by
  unfold joinWords
  split
  · rfl
  · rename_i first later cut
    have word : first ≠ [] := Text.ne_nil_of_mem_words (cut ▸ List.mem_cons_self)
    refine iff_of_false (by simp [word]) ?_
    rintro rfl
    simp [Text.words, Text.firstRun, Text.consWord] at cut

/-- A guard of digits leaves nothing only of nothing. -/
theorem guardDigit_eq_nil_iff {name : List Char} : guardDigit name = [] ↔ name = [] := by
  cases name with
  | nil => rfl
  | cons first rest =>
    rw [guardDigit]
    split <;> simp

/-- The stem of a property is empty exactly if the given name is. -/
theorem stem_eq_nil_iff {naming : Naming} {property : String} {node : Option Json} :
    naming.stem property node = [] ↔ givenName property node = "" := by
  rw [stem, normalize, guardDigit_eq_nil_iff, joinWords_eq_nil_iff, legalize, List.map_eq_nil_iff,
    String.toList_eq_nil_iff]

/-- A name that starts with a digit of ASCII is guarded. -/
theorem isDigit_head_guardDigit {name : List Char} {first : Char}
    (starts : (guardDigit name).head? = some first) : first.isDigit = false := by
  cases name with
  | nil => simp [guardDigit] at starts
  | cons c rest =>
    rw [guardDigit] at starts
    split at starts
    · obtain rfl : '_' = first := by simpa using starts
      decide
    · rename_i clear
      obtain rfl : c = first := by simpa using starts
      simpa using mt Text.isDigit_of_ascii clear

/-- The stem of a property starts with no digit. -/
theorem isDigit_head_stem {naming : Naming} {property : String} {node : Option Json} {first : Char}
    (starts : (naming.stem property node).head? = some first) : first.isDigit = false :=
  isDigit_head_guardDigit starts

/-- A small first letter keeps a name plain. -/
theorem plain_lowerFirst {name : List Char} (plain : Plain name) : Plain (lowerFirst name) := by
  unfold lowerFirst
  split
  · exact plain
  · exact plain_uncapitalize plain

/-- A small first letter makes no digit. -/
theorem isDigit_head_lowerFirst {name : List Char} (plain : Plain name)
    (clear : ∀ first, name.head? = some first → first.isDigit = false) {first : Char}
    (starts : (lowerFirst name).head? = some first) : first.isDigit = false := by
  unfold lowerFirst at starts
  split at starts
  · exact clear first starts
  · cases name with
    | nil => simp [uncapitalize] at starts
    | cons c rest =>
      rw [uncapitalize_cons plain] at starts
      obtain rfl : c.toLower = first := by simpa using starts
      exact ascii_cases (fun c => c.isDigit = false → c.toLower.isDigit = false) (by decide)
        (plain c List.mem_cons_self) (clear c rfl)

/-- A plain name that is not empty, starts with no digit and is no keyword is legal. -/
theorem isLegal_of_plain {name : List Char} (plain : Plain name) (nonempty : name ≠ [])
    (clear : ∀ first, name.head? = some first → first.isDigit = false)
    (free : isKeyword name = false) : isLegal name = true := by
  cases name with
  | nil => exact absurd rfl nonempty
  | cons first rest =>
    rw [isLegal, List.all_eq_true.mpr plain, clear first rfl, free]
    rfl

/-- A plain name that is not empty and starts with no digit is legal once it is guarded as a
keyword. -/
theorem isLegal_guardKeyword {name : List Char} (plain : Plain name) (nonempty : name ≠ [])
    (clear : ∀ first, name.head? = some first → first.isDigit = false) :
    isLegal (guardKeyword name) = true := by
  unfold guardKeyword
  split
  · rename_i reserved
    refine isLegal_of_plain (plain_underscore plain) (List.cons_ne_nil _ _)
      (fun first starts => ?_) (keyword_shape reserved).2
    obtain rfl : '_' = first := Option.some.inj starts
    decide
  · rename_i free
    exact isLegal_of_plain plain nonempty clear (Bool.eq_false_iff.mpr free)

/-- The name of a field is legal exactly if the given name is not empty. -/
theorem isLegal_fieldName_iff {naming : Naming} {property : String} {node : Option Json} :
    isLegal (naming.fieldName property node).toList = true ↔ givenName property node ≠ "" := by
  have plain := plain_stem naming property node
  have empty : naming.stem property node = [] ↔ givenName property node = "" := stem_eq_nil_iff
  rw [fieldName, String.toList_ofList]
  constructor
  · intro legal missing
    rw [empty.mpr missing] at legal
    exact absurd legal (by decide)
  · intro given
    refine isLegal_guardKeyword (plain_lowerFirst plain) ?_ fun first starts =>
      isDigit_head_lowerFirst plain (fun c begins => isDigit_head_stem begins) starts
    rw [ne_eq, ← List.length_eq_zero_iff, length_lowerFirst plain, List.length_eq_zero_iff, empty]
    exact given

/-- The name of a field is empty exactly if the given name is. -/
theorem fieldName_eq_empty_iff {naming : Naming} {property : String} {node : Option Json} :
    naming.fieldName property node = "" ↔ givenName property node = "" := by
  constructor
  · intro missing
    refine Classical.byContradiction fun given => ?_
    have legal : isLegal (naming.fieldName property node).toList = true :=
      isLegal_fieldName_iff.mpr given
    rw [missing] at legal
    exact absurd legal (by decide)
  · intro missing
    rw [fieldName, stem_eq_nil_iff.mpr missing]
    decide

/-- The given name is empty exactly if the property has an empty name, and no other name in its
schema. -/
theorem givenName_eq_empty_iff {property : String} {node : Option Json} :
    givenName property node = "" ↔
      property = "" ∧ (node.bind (·.get? "javaName")).bind Json.nonemptyText? = none := by
  unfold givenName
  cases named : (node.bind (·.get? "javaName")).bind Json.nonemptyText? with
  | none => simp
  | some name =>
    obtain ⟨value, _, text⟩ := Option.bind_eq_some_iff.mp named
    have given : name ≠ "" := by simpa using (Option.filter_eq_some_iff.mp text).2
    simp [given]

end Naming

end SchemaBeans
