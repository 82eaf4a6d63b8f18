import Mathlib.Data.List.Basic
import SchemaBeans.Names.Identifier
import SchemaBeans.Proofs.Java.Literal

/-!
# Annotations as Java source

The source of an annotation is a sign `@` and a simple name, alone or with pairs of a key and a
constant in parentheses. Constants are truth values, string literals, decimal numerals of type `int`
with or without a minus, and names. Which texts are identifiers is a parameter (`NameClass`).

The rendering of a text denotes it exactly if the text stands on one line. An annotation whose name
and keys are names is rendered on one line exactly if each of its texts stands on one, and if its
integers are of type `int` besides, that line is the source of an annotation with the same name,
keys and constants (`render_isSource_iff`).
-/
namespace SchemaBeans

namespace Java

open Annotation

/-- A class of identifiers. -/
structure NameClass where
  /-- Whether a text is an identifier. -/
  isName : List Char → Prop
  /-- An identifier stands on one line. -/
  oneLine : ∀ {name}, isName name → OneLine name
  /-- An identifier holds no point. -/
  noPoint : ∀ {name}, isName name → '.' ∉ name

/-- A text of characters of a class without line ends stands on one line. -/
theorem oneLine_of_forall {isKind : Char → Bool} (lineFeed : isKind '\n' = false)
    (carriageReturn : isKind '\r' = false) {text : List Char}
    (kind : ∀ c ∈ text, isKind c = true) : OneLine text := by
  intro c member
  have known := kind c member
  constructor
  · rintro rfl
    simp [lineFeed] at known
  · rintro rfl
    simp [carriageReturn] at known

/-- The identifiers of ASCII. -/
def asciiNames : NameClass where
  isName name := Identifier.isLegal name = true
  oneLine legal := oneLine_of_forall rfl rfl fun _ => Identifier.isChar_of_isLegal legal
  noPoint legal member := by cases Identifier.isChar_of_isLegal legal member

/-- Whether a text is a decimal numeral: a zero, or digits that do not start with one. -/
def IsNumeral (text : List Char) : Prop :=
  text = ['0'] ∨
    ∃ first rest, text = first :: rest ∧ first ≠ '0' ∧ ∀ c ∈ text, c.isDigit = true

/-- The first natural number that is not of type `int`; with a minus it still is. -/
def intLimit : Nat := 0x80000000

/-- A constant of an annotation. -/
inductive Constant where
  /-- A truth value. -/
  | truth (value : Bool)
  /-- The units of a text. -/
  | text (units : List Nat)
  /-- An integer. -/
  | int (value : Int)
  /-- What a name stands for. -/
  | name (name : List Char)

/-- The constant for a value of a parameter; no value is written as a name. -/
def constantOf : ParamValue → Constant
  | .bool value => .truth value
  | .text value => .text (units value.toList)
  | .int value => .int value
  | .none => .name ParamValue.none.render.toList

/-- Whether a text is white space within a line. -/
def IsGap (text : List Char) : Prop := ∀ c ∈ text, c ∈ [' ', '\t', '\x0c']

namespace NameClass

variable (names : NameClass)

/-- Identifiers with points between them. -/
inductive IsQualified : List Char → Prop
  /-- An identifier alone. -/
  | simple {name : List Char} (known : names.isName name) : IsQualified name
  /-- An identifier and a point before others. -/
  | within {package name : List Char} (known : names.isName package) (inner : IsQualified name) :
    IsQualified (package ++ '.' :: name)

/-- The source of a constant. -/
inductive SpellsConstant : Constant → List Char → Prop
  /-- A truth value. -/
  | truth (value : Bool) : SpellsConstant (.truth value) (toString value).toList
  /-- A string literal. -/
  | text {source : List Char} {denoted : List Nat} (read : readLiteral source = some denoted) :
    SpellsConstant (.text denoted) source
  /-- A numeral of type `int`. -/
  | numeral {digits : List Char} (decimal : IsNumeral digits)
    (small : Nat.ofDigitChars 10 digits 0 < intLimit) :
    SpellsConstant (.int (Nat.ofDigitChars 10 digits 0)) digits
  /-- A numeral after a minus. -/
  | negative {digits : List Char} (decimal : IsNumeral digits)
    (small : Nat.ofDigitChars 10 digits 0 ≤ intLimit) :
    SpellsConstant (.int (-Nat.ofDigitChars 10 digits 0)) ('-' :: digits)
  /-- A name. -/
  | name {name : List Char} (known : names.isName name) : SpellsConstant (.name name) name

/-- The source of pairs of a key and a constant. -/
inductive SpellsPairs : List (List Char × Constant) → List Char → Prop
  /-- One pair. -/
  | one {key before after source : List Char} {constant : Constant} (known : names.isName key)
    (first : IsGap before) (second : IsGap after)
    (value : names.SpellsConstant constant source) :
    SpellsPairs [(key, constant)] (key ++ before ++ '=' :: (after ++ source))
  /-- A pair and a comma before others. -/
  | more {pair : List Char × Constant} {pairs : List (List Char × Constant)}
    {source gap later : List Char} (first : SpellsPairs [pair] source) (between : IsGap gap)
    (rest : SpellsPairs pairs later) : SpellsPairs (pair :: pairs) (source ++ ',' :: (gap ++ later))

/-- The source of an annotation of a name with pairs of a key and a constant. -/
inductive SpellsAnnotation : List Char → List (List Char × Constant) → List Char → Prop
  /-- A name alone. -/
  | marker {name : List Char} (known : names.isName name) : SpellsAnnotation name [] ('@' :: name)
  /-- A name and pairs in parentheses. -/
  | normal {name source : List Char} {pairs : List (List Char × Constant)}
    (known : names.isName name) (inner : names.SpellsPairs pairs source) :
    SpellsAnnotation name pairs ('@' :: (name ++ '(' :: (source ++ [')'])))

/-- Whether a value has the source of a constant: a text stands on one line, an integer is of type
`int`, and the word for no value is a name. -/
def Fits : ParamValue → Prop
  | .bool _ => True
  | .text value => OneLine value.toList
  | .int value => -intLimit ≤ value ∧ value < intLimit
  | .none => names.isName ParamValue.none.render.toList

end NameClass

/-- Texts one after the other stand on one line together. -/
theorem oneLine_append {text later : List Char} :
    OneLine (text ++ later) ↔ OneLine text ∧ OneLine later := List.forall_mem_append

/-- A character and a text stand on one line together. -/
theorem oneLine_cons {c : Char} {text : List Char} :
    OneLine (c :: text) ↔ (c ≠ '\n' ∧ c ≠ '\r') ∧ OneLine text := List.forall_mem_cons

/-- Texts with others between them stand on one line together. -/
theorem oneLine_intercalate {between : List Char} (inLine : OneLine between)
    (texts : List (List Char)) :
    OneLine (between.intercalate texts) ↔ ∀ text ∈ texts, OneLine text := by
  induction texts with
  | nil => simp [OneLine]
  | cons text later ih =>
    cases later with
    | nil => simp
    | cons next later =>
      rw [List.intercalate_cons_cons, oneLine_append, oneLine_append, ih,
        @List.forall_mem_cons _ _ text]
      simp only [inLine, and_true]

section Numerals

/-- The digits of a number above zero start with another digit. -/
theorem toDigits_eq_cons {value : Nat} (positive : 0 < value) :
    ∃ first rest, Nat.toDigits 10 value = first :: rest ∧ first ≠ '0' := by
  induction value using Nat.strongRecOn with
  | ind value ih =>
    rw [Nat.toDigits_eq_if (by decide)]
    by_cases single : value < 10
    · have nonzero : ∀ digit : Fin 10, 0 < digit.val → digit.val.digitChar ≠ '0' := by decide
      rw [if_pos single]
      exact ⟨value.digitChar, [], rfl, nonzero ⟨value, single⟩ positive⟩
    · have smaller : value / 10 < value := by omega
      obtain ⟨first, rest, digits, other⟩ := ih (value / 10) smaller (by omega)
      rw [if_neg single, digits]
      exact ⟨first, rest ++ [(value % 10).digitChar], rfl, other⟩

/-- A natural number is written as a numeral. -/
theorem isNumeral_toDigits (value : Nat) : IsNumeral (Nat.toDigits 10 value) := by
  rcases Nat.eq_zero_or_pos value with rfl | positive
  · exact .inl rfl
  · obtain ⟨first, rest, digits, nonzero⟩ := toDigits_eq_cons positive
    exact .inr ⟨first, rest, digits, nonzero,
      fun c member => Nat.isDigit_of_mem_toDigits (by decide) (by decide) member⟩

/-- An integer is written with the digits of its amount, after a minus if it is below zero. -/
theorem toList_render_int (value : Int) : (ParamValue.int value).render.toList =
    if 0 ≤ value then Nat.toDigits 10 value.natAbs else '-' :: Nat.toDigits 10 value.natAbs := by
  rw [ParamValue.render, Int.toString_eq_repr, Int.repr_eq_if]
  split
  · rename_i nonnegative
    rw [Nat.toList_repr, show value.toNat = value.natAbs by omega]
  · rename_i negative
    rw [String.toList_append, Nat.toList_repr, show (-value).toNat = value.natAbs by omega]
    rfl

end Numerals

/-- Escapes do not end a line, and hide no end of one. -/
theorem oneLine_flatMap_escapeChar (text : List Char) :
    OneLine (text.flatMap ParamValue.escapeChar) ↔ OneLine text := by
  induction text with
  | nil => exact Iff.rfl
  | cons c rest ih =>
    have own : OneLine (ParamValue.escapeChar c) ↔ c ≠ '\n' ∧ c ≠ '\r' := by
      unfold ParamValue.escapeChar
      split <;> simp [OneLine]
    rw [List.flatMap_cons, oneLine_append, ih, own, oneLine_cons]

/-- A value is rendered on one line, unless it is a text that does not stand on one. -/
theorem oneLine_render_value (value : ParamValue) :
    OneLine value.render.toList ↔ ∀ text, value = .text text → OneLine text.toList := by
  cases value with
  | bool value => cases value <;> simp [ParamValue.render] <;> decide
  | text value =>
    have quote : OneLine ['"'] := by decide
    rw [ParamValue.render, String.toList_ofList, List.cons_append, ← List.singleton_append,
      oneLine_append, oneLine_append, oneLine_flatMap_escapeChar]
    simp [quote]
  | int value =>
    have digits : OneLine (Nat.toDigits 10 value.natAbs) :=
      oneLine_of_forall rfl rfl fun _ => Nat.isDigit_of_mem_toDigits (by decide) (by decide)
    have whole : OneLine (ParamValue.int value).render.toList := by
      rw [toList_render_int]
      split
      · exact digits
      · exact oneLine_cons.mpr ⟨by decide, digits⟩
    simp [whole]
  | none =>
    have whole : OneLine ParamValue.none.render.toList := by decide
    simp [whole]

namespace NameClass

variable {names : NameClass}

/-- A value that fits is rendered as the source of its constant. -/
theorem spellsConstant_render {value : ParamValue} (fits : names.Fits value) :
    names.SpellsConstant (constantOf value) value.render.toList := by
  cases value with
  | bool value =>
    have written : (ParamValue.bool value).render = toString value := by cases value <;> rfl
    exact written ▸ .truth value
  | text value =>
    have oneLine : OneLine value.toList := fits
    have read := readLiteral_render_text value
    rw [if_pos oneLine] at read
    exact .text read
  | int value =>
    have least : -intLimit ≤ value := fits.1
    have greatest : value < intLimit := fits.2
    have decimal := isNumeral_toDigits value.natAbs
    have amount : Nat.ofDigitChars 10 (Nat.toDigits 10 value.natAbs) 0 = value.natAbs :=
      Nat.ofDigitChars_ten_toDigits
    rw [toList_render_int]
    split
    · have spelled := @SpellsConstant.numeral names _ decimal (by omega)
      rw [amount] at spelled
      rwa [show (value.natAbs : Int) = value by omega] at spelled
    · have spelled := @SpellsConstant.negative names _ decimal (by omega)
      rw [amount] at spelled
      rwa [show -(value.natAbs : Int) = value by omega] at spelled
  | none => exact .name fits

/-- The last part of a name is an identifier. -/
theorem isName_afterLast {name : List Char} (qualified : names.IsQualified name) :
    names.isName (Text.afterLast '.' name) := by
  induction qualified with
  | simple known => exact (Text.afterLast_of_not_mem (names.noPoint known)).symm ▸ known
  | @within package name known inner ih => exact (Text.afterLast_append_cons ..).symm ▸ ih

/-- A space is white space. -/
theorem isGap_space : IsGap [' '] := by simp [IsGap]

/-- A parameter as the pair of its key and its constant. -/
def pairOf (param : String × ParamValue) : List Char × Constant :=
  (param.1.toList, constantOf param.2)

/-- A parameter whose key is an identifier and whose value fits is rendered as its pair. -/
theorem spellsPairs_renderParam {param : String × ParamValue}
    (known : names.isName param.1.toList) (fits : names.Fits param.2) :
    names.SpellsPairs [pairOf param] (renderParam param).toList := by
  have pair := SpellsPairs.one known isGap_space isGap_space (spellsConstant_render fits)
  simpa [renderParam, pairOf] using pair

/-- Parameters whose keys are identifiers and whose values fit are rendered as their pairs. -/
theorem spellsPairs_intercalate {params : Entries ParamValue} (some : params ≠ [])
    (known : ∀ param ∈ params, names.isName param.1.toList)
    (fits : ∀ param ∈ params, names.Fits param.2) :
    names.SpellsPairs (params.map pairOf) (", ".intercalate (params.map renderParam)).toList := by
  induction params with
  | nil => exact absurd rfl some
  | cons param later ih =>
    have first :=
      spellsPairs_renderParam (known param List.mem_cons_self) (fits param List.mem_cons_self)
    cases later with
    | nil => simpa using first
    | cons next later =>
      have rest := ih (List.cons_ne_nil next later)
        (fun other member => known other (List.mem_cons_of_mem param member))
        (fun other member => fits other (List.mem_cons_of_mem param member))
      have both := SpellsPairs.more first isGap_space rest
      simpa [String.intercalate_cons_cons] using both

/-- An annotation whose names are names and whose values fit is rendered as its source. -/
theorem spellsAnnotation_render {note : Annotation}
    (qualified : names.IsQualified note.name.toList)
    (known : ∀ param ∈ note.params, names.isName param.1.toList)
    (fits : ∀ param ∈ note.params, names.Fits param.2) :
    names.SpellsAnnotation note.simpleName.toList (note.params.map pairOf)
      note.render.toList := by
  have simple : names.isName note.simpleName.toList := by
    rw [simpleName, String.toList_ofList]
    exact isName_afterLast qualified
  unfold Annotation.render
  split
  · rename_i none
    rw [List.isEmpty_iff.mp none]
    simpa using SpellsAnnotation.marker simple
  · rename_i some
    have pairs := spellsPairs_intercalate (fun none => some (List.isEmpty_iff.mpr none)) known fits
    simpa using SpellsAnnotation.normal simple pairs

/-- A pair whose key is an identifier is rendered on one line, unless its value is a text that does
not stand on one. -/
theorem oneLine_renderParam {param : String × ParamValue} (known : names.isName param.1.toList) :
    OneLine (renderParam param).toList ↔
      ∀ text, param.2 = .text text → OneLine text.toList := by
  have equals : OneLine " = ".toList := by decide
  rw [renderParam, String.toList_append, String.toList_append, oneLine_append,
    oneLine_append, ← oneLine_render_value]
  simp only [names.oneLine known, equals, true_and]

/-- An annotation whose names are names is rendered on one line exactly if each of its texts stands
on one. -/
theorem oneLine_render {note : Annotation} (qualified : names.IsQualified note.name.toList)
    (known : ∀ param ∈ note.params, names.isName param.1.toList) :
    OneLine note.render.toList ↔
      ∀ key text, (key, ParamValue.text text) ∈ note.params → OneLine text.toList := by
  have simple : OneLine note.simpleName.toList := by
    rw [simpleName, String.toList_ofList]
    exact names.oneLine (isName_afterLast qualified)
  have sign : OneLine "@".toList := by decide
  have opening : OneLine "(".toList := by decide
  have comma : OneLine ", ".toList := by decide
  have closing : OneLine ")".toList := by decide
  have lines : OneLine note.render.toList ↔
      ∀ param ∈ note.params, OneLine (renderParam param).toList := by
    unfold Annotation.render
    split
    · rename_i none
      have whole : OneLine ("@" ++ note.simpleName).toList := by
        rw [String.toList_append]
        exact oneLine_append.mpr ⟨sign, simple⟩
      refine iff_of_true whole fun param member => ?_
      rw [List.isEmpty_iff.mp none] at member
      cases member
    · simp only [String.toList_append, oneLine_append, String.toList_intercalate,
        oneLine_intercalate comma, sign, opening, closing, simple, true_and, and_true,
        List.forall_mem_map]
  rw [lines]
  constructor
  · intro inLine key text member
    exact (oneLine_renderParam (known _ member)).mp (inLine _ member) text rfl
  · intro inLine param member
    refine (oneLine_renderParam (known param member)).mpr fun text same => ?_
    exact inLine param.1 text (same ▸ member)

end NameClass

/-- The rendering of a text is a literal that denotes this text alone, exactly if the text stands on
one line. An annotation whose name and keys are names is rendered on one line exactly if its texts
stand on one line, and if its values fit as the source of its name, keys and constants. -/
theorem render_isSource_iff (names : NameClass) :
    (∀ value other : String,
      readLiteral (ParamValue.text value).render.toList = some (units other.toList) ↔
        value = other ∧ OneLine value.toList) ∧
    ∀ note : Annotation, names.IsQualified note.name.toList →
      (∀ param ∈ note.params, names.isName param.1.toList) →
      (OneLine note.render.toList ↔
        ∀ key text, (key, ParamValue.text text) ∈ note.params → OneLine text.toList) ∧
      ((∀ param ∈ note.params, names.Fits param.2) →
        names.SpellsAnnotation note.simpleName.toList (note.params.map NameClass.pairOf)
          note.render.toList) :=
  ⟨readLiteral_render_text_eq_some_iff, fun _ qualified known =>
    ⟨NameClass.oneLine_render qualified known,
      NameClass.spellsAnnotation_render qualified known⟩⟩

/-- An annotation with a quoted text and a truth value is rendered as a line of Java source. -/
theorem isSource_quoted_text :
    let note : Annotation := ⟨"io.swagger.annotations.ApiModelProperty",
      [("value", .text "The \"id\""), ("required", .bool true)]⟩
    note.render = "@ApiModelProperty(value = \"The \\\"id\\\"\", required = true)" ∧
      OneLine note.render.toList ∧
      asciiNames.SpellsAnnotation "ApiModelProperty".toList
        [("value".toList, .text (units "The \"id\"".toList)), ("required".toList, .truth true)]
        note.render.toList := by
  intro note
  have name : note.name.toList = "io".toList ++ '.' :: ("swagger".toList ++ '.' ::
      ("annotations".toList ++ '.' :: "ApiModelProperty".toList)) := by decide
  have qualified : asciiNames.IsQualified note.name.toList :=
    name ▸ .within rfl (.within rfl (.within rfl (.simple rfl)))
  have known : ∀ param ∈ note.params, asciiNames.isName param.1.toList :=
    List.forall_mem_cons.mpr ⟨rfl, List.forall_mem_singleton.mpr rfl⟩
  have inLine : OneLine "The \"id\"".toList := by decide
  have fits : ∀ param ∈ note.params, asciiNames.Fits param.2 :=
    List.forall_mem_cons.mpr ⟨inLine, List.forall_mem_singleton.mpr trivial⟩
  have law := (render_isSource_iff asciiNames).2 note qualified known
  have simple : note.simpleName.toList = "ApiModelProperty".toList := by decide
  have spelled := law.2 fits
  rw [simple] at spelled
  refine ⟨by decide, law.1.mpr fun key text member => ?_, spelled⟩
  exact fits _ member

/-- The rendering of a text need not be a literal that denotes it. -/
theorem not_forall_readLiteral_render_text : ¬∀ value : String,
    readLiteral (ParamValue.text value).render.toList = some (units value.toList) := by
  intro always
  have broken := always "a\nb"
  rw [readLiteral_render_text_eq_some_iff] at broken
  exact absurd broken.2 (by decide)

end Java

end SchemaBeans
