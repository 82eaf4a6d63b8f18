import SchemaBeans.Text.Parts

/-!
# Digits and numerals

A decimal digit of Unicode stands in a block of ten that begins with its zero, so a table of zeros
gives the value of each. The larger class of all digits adds the superscripts, the circled and the
other digits that have a value of their own and no place in a positional numeral.

Hexadecimal digits are written in lower case and read in either case; what is written reads back
(`hexValue?_hexDigit`).

A setting holds an integer as decimal digits of any script, with a sign before them, single
underscores between them and blanks around them. The information separators are not blank here.
A numeral has at most `maxDigits` digits.
-/
namespace SchemaBeans.Text

/-- The zeros of the blocks of ten decimal digits (general category Nd). -/
def decimalZeros : List Nat := [
  0x30, 0x660, 0x6F0, 0x7C0, 0x966, 0x9E6, 0xA66, 0xAE6, 0xB66, 0xBE6, 0xC66, 0xCE6, 0xD66, 0xDE6,
  0xE50, 0xED0, 0xF20, 0x1040, 0x1090, 0x17E0, 0x1810, 0x1946, 0x19D0, 0x1A80, 0x1A90, 0x1B50,
  0x1BB0, 0x1C40, 0x1C50, 0xA620, 0xA8D0, 0xA900, 0xA9D0, 0xA9F0, 0xAA50, 0xABF0, 0xFF10, 0x104A0,
  0x10D30, 0x11066, 0x110F0, 0x11136, 0x111D0, 0x112F0, 0x11450, 0x114D0, 0x11650, 0x116C0,
  0x11730, 0x118E0, 0x11950, 0x11C50, 0x11D50, 0x11DA0, 0x16A60, 0x16AC0, 0x16B50, 0x1D7CE,
  0x1D7D8, 0x1D7E2, 0x1D7EC, 0x1D7F6, 0x1E140, 0x1E2F0, 0x1E950, 0x1FBF0]

/-- Digits that are no decimal digits, as first and last code point of each run. -/
def otherDigits : List (Nat × Nat) := [
  (0xB2, 0xB3), (0xB9, 0xB9), (0x1369, 0x1371), (0x19DA, 0x19DA), (0x2070, 0x2070),
  (0x2074, 0x2079), (0x2080, 0x2089), (0x2460, 0x2468), (0x2474, 0x247C), (0x2488, 0x2490),
  (0x24EA, 0x24EA), (0x24F5, 0x24FD), (0x24FF, 0x24FF), (0x2776, 0x277E), (0x2780, 0x2788),
  (0x278A, 0x2792), (0x10A40, 0x10A43), (0x10E60, 0x10E68), (0x11052, 0x1105A), (0x1F100, 0x1F10A)]

/-- The value of a decimal digit: its distance from the zero of its block. -/
def decimalValue? (c : Char) : Option Nat :=
  if c.toNat < 128 then
    if c.isDigit then some (c.toNat - 48) else none
  else
    (decimalZeros.find? fun first => first ≤ c.toNat && c.toNat < first + 10).map (c.toNat - ·)

/-- Whether a character is a digit of either class. -/
def isDigit (c : Char) : Bool :=
  (decimalValue? c).isSome || otherDigits.any fun run => run.1 ≤ c.toNat && c.toNat ≤ run.2

/-- The digit for a value below sixteen. -/
def hexDigit (value : Nat) : Char :=
  Char.ofNat (if value < 10 then 48 + value else 87 + value)

/-- The value of a digit, in lower or upper case. -/
def hexValue? (c : Char) : Option Nat :=
  if '0' ≤ c && c ≤ '9' then some (c.toNat - 48)
  else if 'a' ≤ c && c ≤ 'f' then some (c.toNat - 87)
  else if 'A' ≤ c && c ≤ 'F' then some (c.toNat - 55)
  else none

/-- A written digit reads back. -/
theorem hexValue?_hexDigit {value : Nat} (small : value < 16) :
    hexValue? (hexDigit value) = some value := by
  have all : ∀ n : Fin 16, hexValue? (hexDigit n) = some n.val := by decide
  exact all ⟨value, small⟩

/-- A number in exactly `width` digits; digits beyond the width are dropped on the left. -/
def hexPadded : Nat → Nat → List Char
  | 0, _ => []
  | width + 1, value => hexPadded width (value / 16) ++ [hexDigit (value % 16)]

/-- The number of digits is the width. -/
@[simp] theorem length_hexPadded (width value : Nat) : (hexPadded width value).length = width := by
  induction width generalizing value with
  | zero => rfl
  | succ width ih => simp [hexPadded, ih]

/-- The longest numeral that is read, in digits. -/
def maxDigits : Nat := 4300

/-- Whether a character may surround an integer. -/
def isIntegerBlank (c : Char) : Bool :=
  isBlank c && !(0x1C ≤ c.toNat && c.toNat ≤ 0x1F)

/-- The values of digits in which single underscores may stand between two digits. -/
def digitValues? : List Char → Option (List Nat)
  | [] => none
  | [c] => (decimalValue? c).map ([·])
  | c :: '_' :: rest => do
    let value ← decimalValue? c
    let later ← digitValues? rest
    some (value :: later)
  | c :: d :: rest => do
    let value ← decimalValue? c
    let later ← digitValues? (d :: rest)
    some (value :: later)

/-- The number that decimal digits denote, the most significant first. -/
def ofDigits (digits : List Nat) : Nat :=
  digits.foldl (fun value digit => 10 * value + digit) 0

/-- The number that digits with underscores denote, if there are not too many. -/
def natural? (text : List Char) : Option Nat := do
  let digits ← digitValues? text
  if digits.length ≤ maxDigits then some (ofDigits digits) else none

/-- The integer that a text denotes. -/
def integer? (text : String) : Option Int :=
  match trim isIntegerBlank text.toList with
  | '-' :: rest => (natural? rest).map fun value => -(value : Int)
  | '+' :: rest => (natural? rest).map Int.ofNat
  | rest => (natural? rest).map Int.ofNat

end SchemaBeans.Text
