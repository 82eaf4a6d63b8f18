import SchemaBeans.Proofs.Generation.ClassName
import SchemaBeans.Proofs.Names.Accessors
import SchemaBeans.Proofs.Names.Legal

/-!
# Legal names of accessors and classes

The name of an accessor starts with one of four words, and no keyword does: it is a legal identifier
whatever its property is called (`Accessor.isLegal_name`). The name of a class starts with no word,
and is legal exactly if it is made from a name that is not empty (`isLegal_className_iff`). What a
class is named after never is empty (`classNameBase_ne_empty`), so a class that is given no name has
a legal one (`derived_names_legal`).
-/
namespace SchemaBeans

open Identifier

namespace Naming

/-- A legal name that no keyword starts with stays legal before identifier characters. -/
theorem isLegal_append {word form : List Char} (legal : isLegal word = true)
    (apart : ∀ keyword ∈ keywords, word.isPrefixOf keyword.toList = false) (plain : Plain form) :
    isLegal (word ++ form) = true := by
  cases word with
  | nil => cases legal
  | cons first rest =>
    have free : isKeyword (first :: rest ++ form) = false := by
      cases reserved : isKeyword (first :: rest ++ form) with
      | false => rfl
      | true =>
        have known : String.ofList (first :: rest ++ form) ∈ keywords := by
          simpa [isKeyword] using reserved
        have starts := List.isPrefixOf_iff_prefix.mpr (List.prefix_append (first :: rest) form)
        have clear := apart _ known
        rw [String.toList_ofList, starts] at clear
        cases clear
    refine isLegal_of_plain (fun c member => ?_) (List.cons_ne_nil _ _) (fun c starts => ?_) free
    · rcases List.mem_append.mp member with inside | inside
      · exact isChar_of_isLegal legal inside
      · exact plain c inside
    · obtain rfl : first = c := Option.some.inj starts
      simp only [isLegal, Bool.and_eq_true, Bool.not_eq_true'] at legal
      exact legal.1.2

/-- A capital at the start makes no digit. -/
theorem isDigit_head_capitalize {name : List Char} (plain : Plain name)
    (clear : ∀ first, name.head? = some first → first.isDigit = false) {first : Char}
    (starts : (capitalize name).head? = some first) : first.isDigit = false := by
  cases name with
  | nil => simp [capitalize] at starts
  | cons c rest =>
    rw [capitalize_cons plain] at starts
    obtain rfl : c.toUpper = first := by simpa using starts
    exact ascii_cases (fun c => c.isDigit = false → c.toUpper.isDigit = false) (by decide)
      (plain c List.mem_cons_self) (clear c rfl)

/-- The name of a class is legal exactly if the given name is not empty. -/
theorem isLegal_className_iff {naming : Naming} {given : String} {node : Option Json} :
    isLegal (naming.className given node).toList = true ↔ givenName given node ≠ "" := by
  have plain := plain_stem naming given node
  have empty : naming.stem given node = [] ↔ givenName given node = "" := stem_eq_nil_iff
  constructor
  · intro legal missing
    rw [className, empty.mpr missing] at legal
    exact absurd legal (by decide)
  · intro named
    have nonempty : capitalize (naming.stem given node) ≠ [] := by
      rw [ne_eq, ← List.length_eq_zero_iff, length_capitalize plain, List.length_eq_zero_iff, empty]
      exact named
    have guarded : naming.className given node =
        String.ofList (guardKeyword (capitalize (naming.stem given node))) := by
      simp only [className, List.isEmpty_eq_false_iff.mpr nonempty, Bool.or_false, guardKeyword]
    rw [guarded, String.toList_ofList]
    exact isLegal_guardKeyword (plain_capitalize plain) nonempty fun first =>
      isDigit_head_capitalize plain fun c => isDigit_head_stem

end Naming

namespace Accessor

/-- The words of accessors are legal names, and no keyword starts with one of them. -/
theorem isLegal_word : ∀ word ∈ ["is", "get", "set", "with"], isLegal word.toList = true ∧
    ∀ keyword ∈ keywords, word.toList.isPrefixOf keyword.toList = false := by decide +kernel

/-- A name that avoids two others is none of them. -/
theorem avoidClass_not_mem (name : String) :
    Naming.avoidClass name ∉ ["getClass", "setClass"] := by
  unfold Naming.avoidClass
  split
  · decide
  · split
    · decide
    · simp [*]

/-- The name of an accessor is legal, whatever the property is called, and is not that of a method
of all objects nor of a setter to it. -/
theorem isLegal_name (naming : Naming) (property : String) (node : Option Json)
    (accessor : Accessor) :
    isLegal (accessor.name naming property node).toList = true ∧
      accessor.name naming property node ∉ ["getClass", "setClass"] := by
  rw [Naming.name_eq_avoidClass]
  refine ⟨?_, avoidClass_not_mem _⟩
  unfold Naming.avoidClass
  split
  · decide
  · split
    · decide
    · obtain ⟨legal, apart⟩ := isLegal_word accessor.word accessor.word_mem
      rw [String.toList_append, String.toList_ofList]
      exact Naming.isLegal_append legal apart
        (Naming.plain_capitalize (Naming.plain_stem naming property node))

end Accessor

namespace RuleContext

/-- What a class is named after is not empty. -/
theorem classNameBase_ne_empty (schema : Schema) : classNameBase schema ≠ "" := by
  have kept {name : Option String} {given : String}
      (found : name.filter (· ≠ "") = some given) : given ≠ "" := by
    simpa using (Option.filter_eq_some_iff.mp found).2
  unfold classNameBase
  simp only []
  cases title : schema.title?.filter (· ≠ "") with
  | some given => exact kept title
  | none =>
    cases file : (schema.source.map fileStem).filter (· ≠ "") with
    | some given => exact kept file
    | none => exact (by decide : defaultClassName ≠ "")

/-- The name that a class is given from its schema is legal. -/
theorem isLegal_classNameFor (context : RuleContext) (schema : Schema) {className : Option String}
    (missing : className.filter (· ≠ "") = none) :
    isLegal (context.classNameFor schema className).toList = true := by
  rw [classNameFor, missing, Option.getD_none, Naming.isLegal_className_iff]
  exact classNameBase_ne_empty schema

/-- All names are legal that are derived from a property or a schema and not given: those of the
accessors of a property, whatever it is called, and that of the class of a schema, whatever its
title and its source are. -/
theorem derived_names_legal (context : RuleContext) :
    (∀ (property : String) (node : Option Json) (accessor : Accessor),
      let name := accessor.name context.naming property node
      isLegal name.toList = true ∧ name ∉ ["getClass", "setClass"]) ∧
    ∀ (schema : Schema) (className package : Option String),
      className = none ∨ className = some "" →
      let name := context.classNameFor schema className
      isLegal name.toList = true ∧
        (context.emptyClass schema className package).name = name ∧
        ∀ target, context.generate schema className package = .ok target → target.name = name := by
  refine ⟨fun property node => Accessor.isLegal_name context.naming property node, ?_⟩
  intro schema className package missing name
  have unnamed : className.filter (· ≠ "") = none := by
    rcases missing with rfl | rfl <;> rfl
  exact ⟨context.isLegal_classNameFor schema unnamed, rfl,
    fun target => context.name_of_generate⟩

/-- The class of a file that is called `_`, and the getter of a property that is called `class` but
for a delimiter, have guarded names. -/
theorem derived_names_legal_guarded :
    let context : RuleContext := .ofSettings { wordDelimiters := "1b" }
    let schema : Schema := { content := [("title", .string "")], source := some "b\\_.json" }
    ∃ target, context.generate schema (some "") = .ok target ∧
      target.name = "__" ∧ isLegal target.name.toList = true ∧
      context.naming.getterName "1class" .object none = "getClass_" ∧
      isLegal (context.naming.getterName "1class" .object none).toList = true := by
  intro context schema
  obtain ⟨accessors, classes⟩ := derived_names_legal context
  obtain ⟨legal, _, named⟩ := classes schema (some "") none (.inr rfl)
  have generated : context.generate schema (some "") = .ok _ :=
    generate_eq_ok_iff.mpr ⟨_, _, rfl, rfl, rfl⟩
  have name := named _ generated
  refine ⟨_, generated, name.trans (by decide), ?_, by decide,
    (accessors "1class" none (.getter .object)).1⟩
  rw [name]
  exact legal

end RuleContext

end SchemaBeans
