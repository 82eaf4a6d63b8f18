import Mathlib.Data.List.Basic
import SchemaBeans.Text.Numerals

/-!
# Decimal numerals

The decimal numerals of an integer are digits after an optional sign, with as many zeros in front as
they have room for. Each of them is read as the integer (`Decimal.integer?_eq`), whatever else can
be read.
-/
namespace SchemaBeans.Text

/-- Digits that are not too many. -/
structure IsDigits (digits : List Char) : Prop where
  /-- There is a digit. -/
  nonempty : digits ≠ []
  /-- All are digits of ASCII. -/
  each : ∀ c ∈ digits, c.isDigit = true
  /-- They can be read. -/
  short : digits.length ≤ maxDigits

/-- A text is a decimal numeral of an integer. -/
inductive Decimal : Int → List Char → Prop where
  /-- Digits without a sign. -/
  | plain {digits : List Char} (given : IsDigits digits) :
    Decimal (Nat.ofDigitChars 10 digits 0) digits
  /-- Digits after a plus. -/
  | plus {digits : List Char} (given : IsDigits digits) :
    Decimal (Nat.ofDigitChars 10 digits 0) ('+' :: digits)
  /-- Digits after a minus. -/
  | minus {digits : List Char} (given : IsDigits digits) :
    Decimal (-Nat.ofDigitChars 10 digits 0) ('-' :: digits)

/-- The codes of the digits of ASCII. -/
theorem toNat_of_isDigit {c : Char} (digit : c.isDigit = true) : 48 ≤ c.toNat ∧ c.toNat ≤ 57 := by
  simpa [Char.isDigit, UInt32.le_iff_toNat_le] using digit

/-- The value of a digit of ASCII. -/
theorem decimalValue?_of_isDigit {c : Char} (digit : c.isDigit = true) :
    decimalValue? c = some (c.toNat - 48) := by
  have ascii : c.toNat < 128 := by
    have codes := toNat_of_isDigit digit
    omega
  rw [decimalValue?, if_pos ascii, if_pos digit]

/-- The values of digits without underscores. -/
theorem digitValues?_of_isDigit {digits : List Char} (nonempty : digits ≠ [])
    (each : ∀ c ∈ digits, c.isDigit = true) :
    digitValues? digits = some (digits.map fun c => c.toNat - 48) := by
  fun_induction digitValues? digits with
  | case1 => exact absurd rfl nonempty
  | case2 c => simp [decimalValue?_of_isDigit (each c List.mem_cons_self)]
  | case3 c rest ih =>
    have wrong := each '_' (by simp)
    cases wrong
  | case4 c d rest apart ih =>
    have value := decimalValue?_of_isDigit (each c List.mem_cons_self)
    have later := ih (List.cons_ne_nil d rest) fun e member => each e (List.mem_cons_of_mem c member)
    rw [value, later]
    rfl

/-- Digits are read as the number they denote. -/
theorem IsDigits.natural?_eq {digits : List Char} (given : IsDigits digits) :
    natural? digits = some (Nat.ofDigitChars 10 digits 0) := by
  have few : (digits.map fun c => c.toNat - 48).length ≤ maxDigits := by
    rw [List.length_map]
    exact given.short
  simp only [natural?, digitValues?_of_isDigit given.nonempty given.each, bind, Option.bind,
    if_pos few, ofDigits, List.foldl_map]
  rfl

/-- A text without characters of a class stays as it is. -/
theorem trim_eq_self {drops : Char → Bool} {text : List Char}
    (clean : ∀ c ∈ text, drops c = false) : trim drops text = text := by
  have kept {part : List Char} (clean : ∀ c ∈ part, drops c = false) :
      part.dropWhile drops = part := by
    cases part with
    | nil => rfl
    | cons first rest => rw [List.dropWhile_cons, clean first List.mem_cons_self]; rfl
  have backwards : ∀ c ∈ text.reverse, drops c = false := fun c member =>
    clean c (List.mem_reverse.mp member)
  rw [trim, kept clean, kept backwards, List.reverse_reverse]

/-- No digit of ASCII is blank. -/
theorem isIntegerBlank_of_isDigit {c : Char} (digit : c.isDigit = true) :
    isIntegerBlank c = false := by
  have codes := toNat_of_isDigit digit
  simp [isIntegerBlank, isBlank]
  omega

/-- No character of a decimal numeral is blank. -/
theorem Decimal.not_blank {count : Int} {text : List Char} (decimal : Decimal count text) :
    ∀ c ∈ text, isIntegerBlank c = false := by
  cases decimal with
  | plain given => exact fun c member => isIntegerBlank_of_isDigit (given.each c member)
  | plus given | minus given =>
    intro c member
    rcases List.mem_cons.mp member with rfl | digit
    · decide
    · exact isIntegerBlank_of_isDigit (given.each c digit)

/-- A decimal numeral is read as its integer. -/
theorem Decimal.integer?_eq {count : Int} {text : String} (decimal : Decimal count text.toList) :
    integer? text = some count := by
  rw [integer?, trim_eq_self decimal.not_blank]
  generalize text.toList = chars at decimal
  cases decimal with
  | plain given =>
    -- Digits start with no sign.
    split
    · cases given.each '-' List.mem_cons_self
    · cases given.each '+' List.mem_cons_self
    · rw [given.natural?_eq]
      rfl
  | plus given =>
    simp only [given.natural?_eq]
    rfl
  | minus given =>
    simp only [given.natural?_eq]
    rfl

/-- A decimal numeral is not empty. -/
theorem Decimal.ne_empty {count : Int} {text : String} (decimal : Decimal count text.toList) :
    text ≠ "" := by
  rintro rfl
  generalize empty : ("" : String).toList = chars at decimal
  cases decimal with
  | plain given => exact given.nonempty empty.symm
  | plus given | minus given => cases empty

end SchemaBeans.Text
