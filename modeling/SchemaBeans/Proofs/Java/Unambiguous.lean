import SchemaBeans.Proofs.Java.Annotation
import SchemaBeans.Rule.Context

/-!
# Annotations that are told apart

A value is rendered between a key and a comma or a closing parenthesis, and texts may hold commas,
parentheses, equals signs and quotes of their own. Still no text passes for more than a text: from a
rendered value and what follows it both can be told (`render_append_inj`), because a text ends at
the first quote that no backslash precedes (`escapeChars_append_inj`), a numeral ends with its
digits, and the first character tells one kind of value from another. So annotations of one name are
rendered alike only if they have the same parameters (`render_eq_iff`).
-/
namespace SchemaBeans

namespace Java

open Annotation

/-- A text starts with no character of a class. -/
def StartsOutside (isKind : Char → Bool) (text : List Char) : Prop :=
  ∀ c, text.head? = some c → isKind c = false

/-- A run of characters of a class ends where the next character is of another. -/
theorem run_append_inj {isKind : Char → Bool} {run other rest later : List Char}
    (kind : ∀ c ∈ run, isKind c = true) (kindOther : ∀ c ∈ other, isKind c = true)
    (ends : StartsOutside isKind rest) (endsLater : StartsOutside isKind later)
    (same : run ++ rest = other ++ later) : run = other ∧ rest = later := by
  have taken {run rest : List Char} (kind : ∀ c ∈ run, isKind c = true)
      (ends : StartsOutside isKind rest) : (run ++ rest).takeWhile isKind = run := by
    have nothing : rest.takeWhile isKind = [] := by
      cases rest with
      | nil => rfl
      | cons c rest => simp [ends c rfl]
    rw [List.takeWhile_append_of_pos kind, nothing, List.append_nil]
  have runs : run = other := by rw [← taken kind ends, same, taken kindOther endsLater]
  subst runs
  exact ⟨rfl, List.append_cancel_left same⟩

section Texts

/-- No character is escaped to what starts with a quote. -/
theorem escapeChar_append_ne (c : Char) (rest later : List Char) :
    ParamValue.escapeChar c ++ rest ≠ '"' :: later := by
  unfold ParamValue.escapeChar
  split
  · simp
  · rename_i plain
    intro same
    exact plain (.inr (List.cons.inj same).1)

/-- An escaped character ends where the next begins. -/
theorem escapeChar_append_inj {c other : Char} {rest later : List Char}
    (same : ParamValue.escapeChar c ++ rest = ParamValue.escapeChar other ++ later) :
    c = other ∧ rest = later := by
  unfold ParamValue.escapeChar at same
  split at same
  · split at same
    · simpa using same
    · rename_i plain
      exact absurd (.inl (List.cons.inj same).1.symm) plain
  · rename_i plain
    split at same
    · exact absurd (.inl (List.cons.inj same).1) plain
    · simpa using same

/-- An escaped text ends at the first quote that no backslash precedes. -/
theorem escapeChars_append_inj {text other rest later : List Char}
    (same : text.flatMap ParamValue.escapeChar ++ '"' :: rest =
      other.flatMap ParamValue.escapeChar ++ '"' :: later) : text = other ∧ rest = later := by
  induction text generalizing other with
  | nil =>
    cases other with
    | nil => exact ⟨rfl, (List.cons.inj same).2⟩
    | cons c other =>
      rw [List.flatMap_cons, List.append_assoc] at same
      exact absurd same.symm (escapeChar_append_ne c _ rest)
  | cons c text ih =>
    rw [List.flatMap_cons, List.append_assoc] at same
    cases other with
    | nil => exact absurd same (escapeChar_append_ne c _ later)
    | cons d other =>
      rw [List.flatMap_cons, List.append_assoc] at same
      obtain ⟨rfl, tails⟩ := escapeChar_append_inj same
      obtain ⟨rfl, rests⟩ := ih tails
      exact ⟨rfl, rests⟩

end Texts

section Integers

/-- Whether a character starts an integer. -/
def startsInteger (c : Char) : Bool := c == '-' || c.isDigit

/-- The digits of an amount are digits. -/
theorem isDigit_toDigits (amount : Nat) : ∀ c ∈ Nat.toDigits 10 amount, c.isDigit = true :=
  fun _ => Nat.isDigit_of_mem_toDigits (by decide) (by decide)

/-- The digits of an amount start with one. -/
theorem exists_digit_toDigits (amount : Nat) :
    ∃ first rest, Nat.toDigits 10 amount = first :: rest ∧ first.isDigit = true := by
  cases written : Nat.toDigits 10 amount with
  | nil => exact absurd written Nat.toDigits_ne_nil
  | cons first rest =>
    exact ⟨first, rest, rfl, isDigit_toDigits amount first (written ▸ List.mem_cons_self)⟩

/-- An amount is known from its digits. -/
theorem toDigits_inj {amount other : Nat}
    (same : Nat.toDigits 10 amount = Nat.toDigits 10 other) : amount = other := by
  have read (value : Nat) : Nat.ofDigitChars 10 (Nat.toDigits 10 value) 0 = value :=
    Nat.ofDigitChars_ten_toDigits
  rw [← read amount, same, read]

/-- The digits of an amount are none of an integer below zero. -/
theorem toDigits_append_ne (amount : Nat) (rest later : List Char) :
    Nat.toDigits 10 amount ++ rest ≠ '-' :: later := by
  obtain ⟨first, digits, written, digit⟩ := exists_digit_toDigits amount
  intro same
  rw [written, List.cons_append] at same
  rw [(List.cons.inj same).1] at digit
  exact absurd digit (by decide)

/-- An integer ends with its digits. -/
theorem renderInt_append_inj {value other : Int} {rest later : List Char}
    (ends : StartsOutside Char.isDigit rest) (endsLater : StartsOutside Char.isDigit later)
    (same : (ParamValue.int value).render.toList ++ rest =
      (ParamValue.int other).render.toList ++ later) : value = other ∧ rest = later := by
  have amounts (same : Nat.toDigits 10 value.natAbs ++ rest =
      Nat.toDigits 10 other.natAbs ++ later) : value.natAbs = other.natAbs ∧ rest = later := by
    obtain ⟨digits, rests⟩ := run_append_inj (isDigit_toDigits value.natAbs)
      (isDigit_toDigits other.natAbs) ends endsLater same
    exact ⟨toDigits_inj digits, rests⟩
  rw [toList_render_int, toList_render_int] at same
  split at same
  · split at same
    · obtain ⟨amount, rests⟩ := amounts same
      exact ⟨by omega, rests⟩
    · exact absurd same (toDigits_append_ne value.natAbs rest _)
  · split at same
    · exact absurd same.symm (toDigits_append_ne other.natAbs later _)
    · obtain ⟨amount, rests⟩ := amounts (List.cons.inj same).2
      exact ⟨by omega, rests⟩

/-- A value starts as integers do exactly if it is one. -/
theorem startsInteger_render_iff (value : ParamValue) (rest : List Char) :
    (value.render.toList ++ rest).head?.any startsInteger = true ↔
      ∃ number, value = .int number := by
  cases value with
  | bool value => cases value <;> simp [ParamValue.render] <;> decide
  | text value =>
    simp [ParamValue.render]
    decide
  | none =>
    simp [ParamValue.render]
    decide
  | int value =>
    obtain ⟨first, digits, written, digit⟩ := exists_digit_toDigits value.natAbs
    rw [toList_render_int, written]
    split <;> simp [startsInteger, digit]

end Integers

/-- From a rendered value and what follows it, unless that is a digit, both can be told. -/
theorem render_append_inj {value other : ParamValue} {rest later : List Char}
    (ends : StartsOutside Char.isDigit rest) (endsLater : StartsOutside Char.isDigit later)
    (same : value.render.toList ++ rest = other.render.toList ++ later) :
    value = other ∧ rest = later := by
  have integers : (∃ number, value = .int number) ↔ ∃ number, other = .int number := by
    rw [← startsInteger_render_iff value rest, same, startsInteger_render_iff]
  cases value with
  | int number =>
    obtain ⟨numberOther, rfl⟩ := integers.mp ⟨number, rfl⟩
    obtain ⟨rfl, rests⟩ := renderInt_append_inj ends endsLater same
    exact ⟨rfl, rests⟩
  | text text =>
    cases other with
    | text textOther =>
      simp only [ParamValue.render, String.toList_ofList, List.cons_append, List.append_assoc,
        List.nil_append] at same
      obtain ⟨texts, rests⟩ := escapeChars_append_inj (List.cons.inj same).2
      exact ⟨congrArg ParamValue.text (String.toList_inj.mp texts), rests⟩
    | bool truth => cases truth <;> simp [ParamValue.render] at same
    | int number => exact absurd (integers.mpr ⟨number, rfl⟩) (by simp)
    | none => simp [ParamValue.render] at same
  | bool truth =>
    cases other with
    | bool truthOther =>
      cases truth <;> cases truthOther <;> simp [ParamValue.render] at same ⊢ <;> exact same
    | text text => cases truth <;> simp [ParamValue.render] at same
    | int number => exact absurd (integers.mpr ⟨number, rfl⟩) (by simp)
    | none => cases truth <;> simp [ParamValue.render] at same
  | none =>
    cases other with
    | none => simpa [ParamValue.render] using same
    | bool truth => cases truth <;> simp [ParamValue.render] at same
    | text text => simp [ParamValue.render] at same
    | int number => exact absurd (integers.mpr ⟨number, rfl⟩) (by simp)

/-- A key that can be told from what follows it: it holds no space, as no identifier does. -/
def IsKey (key : String) : Prop := ' ' ∉ key.toList

/-- An identifier can be told from what follows it. -/
theorem isKey_of_isLegal {key : String} (legal : Identifier.isLegal key.toList = true) :
    IsKey key := by
  intro member
  cases Identifier.isChar_of_isLegal legal member

/-- From a rendered parameter and what follows it, unless that is a digit, both can be told. -/
theorem renderParam_append_inj {param other : String × ParamValue} {rest later : List Char}
    (key : IsKey param.1) (keyOther : IsKey other.1)
    (ends : StartsOutside Char.isDigit rest) (endsLater : StartsOutside Char.isDigit later)
    (same : (renderParam param).toList ++ rest = (renderParam other).toList ++ later) :
    param = other ∧ rest = later := by
  have inKey {key : String} (known : IsKey key) : ∀ c ∈ key.toList, (c != ' ') = true := by
    intro c member
    rw [bne_iff_ne]
    rintro rfl
    exact known member
  have space (text : List Char) : StartsOutside (· != ' ') (" = ".toList ++ text) := by
    simp [StartsOutside]
  simp only [renderParam, String.toList_append, List.append_assoc] at same
  obtain ⟨keys, tails⟩ := run_append_inj (inKey key) (inKey keyOther) (space _) (space _) same
  obtain ⟨values, rests⟩ := render_append_inj ends endsLater (List.append_cancel_left tails)
  exact ⟨Prod.ext (String.toList_inj.mp keys) values, rests⟩

/-- Parameters in parentheses are known from their rendering. -/
theorem renderParams_inj {param other : String × ParamValue} {params others : Entries ParamValue}
    (keys : ∀ key ∈ Entries.keys (param :: params), IsKey key)
    (keysOther : ∀ key ∈ Entries.keys (other :: others), IsKey key)
    (same : (", ".intercalate ((param :: params).map renderParam)).toList ++ [')'] =
      (", ".intercalate ((other :: others).map renderParam)).toList ++ [')']) :
    param :: params = other :: others := by
  have comma (text : List Char) : StartsOutside Char.isDigit (", ".toList ++ text) := by
    simp [StartsOutside]
  have closing : StartsOutside Char.isDigit [')'] := by simp [StartsOutside]
  induction params generalizing param other others with
  | nil =>
    have key := keys param.1 List.mem_cons_self
    have keyOther := keysOther other.1 List.mem_cons_self
    cases others with
    | nil =>
      simp only [List.map_singleton, String.intercalate_singleton] at same
      rw [(renderParam_append_inj key keyOther closing closing same).1]
    | cons nextOther others =>
      simp only [List.map_cons, List.map_nil, String.intercalate_singleton,
        String.intercalate_cons_cons, String.toList_append, List.append_assoc] at same
      have rests := (renderParam_append_inj key keyOther closing (comma _) same).2
      simp at rests
  | cons next params ih =>
    simp only [List.map_cons, String.intercalate_cons_cons, String.toList_append,
      List.append_assoc] at same ih
    have key := keys param.1 List.mem_cons_self
    have keyOther := keysOther other.1 List.mem_cons_self
    cases others with
    | nil =>
      simp only [List.map_nil, String.intercalate_singleton] at same
      have rests := (renderParam_append_inj key keyOther (comma _) closing same).2
      simp at rests
    | cons nextOther others =>
      simp only [List.map_cons, String.intercalate_cons_cons, String.toList_append,
        List.append_assoc] at same
      obtain ⟨rfl, rests⟩ := renderParam_append_inj key keyOther (comma _) (comma _) same
      have later := ih (fun key member => keys key (List.mem_cons_of_mem _ member))
        (fun key member => keysOther key (List.mem_cons_of_mem _ member))
        (List.append_cancel_left rests)
      rw [later]

/-- Annotations of one name are rendered alike exactly if they have the same parameters. In
particular one without a parameter, whatever its texts hold, is not rendered like one with it. -/
theorem render_eq_iff (name : String) {params others : Entries ParamValue}
    (keys : ∀ key ∈ params.keys, IsKey key) (keysOther : ∀ key ∈ others.keys, IsKey key) :
    (render ⟨name, params⟩ = render ⟨name, others⟩ ↔ params = others) ∧
      ∀ key ∈ others.keys, key ∉ params.keys →
        render ⟨name, params⟩ ≠ render ⟨name, others⟩ := by
  have inj (same : render ⟨name, params⟩ = render ⟨name, others⟩) : params = others := by
    have texts := congrArg String.toList same
    unfold Annotation.render at texts
    cases params with
    | nil =>
      cases others with
      | nil => rfl
      | cons other others => simp [simpleName] at texts
    | cons param params =>
      cases others with
      | nil => simp [simpleName] at texts
      | cons other others =>
        simp only [List.isEmpty_cons, Bool.false_eq_true, if_false, simpleName,
          String.toList_append, List.append_assoc, List.append_cancel_left_eq] at texts
        exact renderParams_inj keys keysOther texts
  refine ⟨⟨inj, fun same => same ▸ rfl⟩, fun key known missing same => ?_⟩
  exact missing (inj same ▸ known)

/-- A description that is worded like the rest of an annotation stays a description. -/
theorem render_ne_of_forged_description :
    let forged : Entries ParamValue := [("value", .text "The id\", required = true)")]
    let honest : Entries ParamValue := [("value", .text "The id"), ("required", .bool true)]
    (∀ key ∈ forged.keys, IsKey key) ∧ (∀ key ∈ honest.keys, IsKey key) ∧
      "required" ∉ forged.keys ∧
      render ⟨Metadata.apiModelProperty, forged⟩ =
        "@ApiModelProperty(value = \"The id\\\", required = true)\")" ∧
      render ⟨Metadata.apiModelProperty, forged⟩ ≠ render ⟨Metadata.apiModelProperty, honest⟩ := by
  intro forged honest
  have legal : ∀ key ∈ forged.keys ++ honest.keys, Identifier.isLegal key.toList = true := by decide
  have keys : ∀ key ∈ forged.keys, IsKey key :=
    fun key member => isKey_of_isLegal (legal key (List.mem_append_left _ member))
  have keysOther : ∀ key ∈ honest.keys, IsKey key :=
    fun key member => isKey_of_isLegal (legal key (List.mem_append_right _ member))
  have missing : "required" ∉ forged.keys := by decide
  refine ⟨keys, keysOther, missing, by decide, ?_⟩
  exact (render_eq_iff Metadata.apiModelProperty keys keysOther).2 "required" (by decide) missing

end Java

end SchemaBeans
