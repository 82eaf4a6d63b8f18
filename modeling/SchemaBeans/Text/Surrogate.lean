/-!
# Surrogates

An escape of four hexadecimal digits denotes a UTF-16 unit. A high unit directly before a low one
denotes with it a single character above U+FFFF; a unit without its partner denotes no character.
A text may hold such a unit nevertheless, as a code point of its own. Here it is held as a stand-in:
a private-use character that is not in use beside it, another one for each unit (`standInAmong`).
Neither a surrogate nor a private-use character is printable, blank, a digit or a letter, so a text
with stand-ins is treated as the text that they stand in. Whoever writes a text out has to tell the
two apart, because no encoding takes a surrogate.

The units of a character denote it (`joinSurrogates_unitsOfChar`), and so does its code point
(`joinSurrogates_map_toNat`).
-/
namespace SchemaBeans.Text

/-- Whether a unit is the first of a pair. -/
def isHighSurrogate (unit : Nat) : Bool := 0xD800 ≤ unit && unit ≤ 0xDBFF

/-- Whether a unit is the second of a pair. -/
def isLowSurrogate (unit : Nat) : Bool := 0xDC00 ≤ unit && unit ≤ 0xDFFF

/-- Whether a unit is one of a pair. -/
def isSurrogate (unit : Nat) : Bool := isHighSurrogate unit || isLowSurrogate unit

/-- The characters of the two planes for private use. -/
def privateUse : List Char := (List.range' 0xF0000 0x20000).map Char.ofNat

/-- The private-use characters that are not in use. -/
def spareChars (used : List Char) : List Char := privateUse.filter fun c => !used.contains c

/-- The stand-in for a unit without its partner beside characters in use. There is one for every
unit unless less than 2048 of the 131072 private-use characters are left. -/
def standInAmong (used : List Char) (unit : Nat) : Char :=
  (spareChars used)[unit - 0xD800]?.getD '\uFFFD'

/-- The unit that a stand-in is for. -/
def unitOfStandIn (used : List Char) (c : Char) : Nat := 0xD800 + (spareChars used).idxOf c

/-- The character of a code point, or the stand-in for half of a pair. -/
def charOfUnit (standIn : Nat → Char) (unit : Nat) : Char :=
  if isSurrogate unit then standIn unit else Char.ofNat unit

/-- The characters that units and code points denote, with stand-ins for halves of pairs. -/
def joinSurrogates (standIn : Nat → Char) : List Nat → List Char
  | [] => []
  | [unit] => [charOfUnit standIn unit]
  | first :: second :: rest =>
    if isHighSurrogate first && isLowSurrogate second then
      Char.ofNat (0x10000 + (first - 0xD800) * 0x400 + (second - 0xDC00)) ::
        joinSurrogates standIn rest
    else charOfUnit standIn first :: joinSurrogates standIn (second :: rest)

/-- The two units of a character above U+FFFF, and its one unit otherwise. -/
def unitsOfChar (c : Char) : List Nat :=
  if c.toNat < 0x10000 then [c.toNat]
  else [0xD800 + (c.toNat - 0x10000) / 0x400, 0xDC00 + (c.toNat - 0x10000) % 0x400]

/-- No character is the first half of a pair. -/
@[simp] theorem isHighSurrogate_toNat (c : Char) : isHighSurrogate c.toNat = false := by
  have valid : c.toNat < 0xD800 ∨ 0xDFFF < c.toNat ∧ c.toNat < 0x110000 := c.valid
  simp only [isHighSurrogate, Bool.and_eq_false_iff, decide_eq_false_iff_not]
  omega

/-- No character is the second half of a pair. -/
@[simp] theorem isLowSurrogate_toNat (c : Char) : isLowSurrogate c.toNat = false := by
  have valid : c.toNat < 0xD800 ∨ 0xDFFF < c.toNat ∧ c.toNat < 0x110000 := c.valid
  simp only [isLowSurrogate, Bool.and_eq_false_iff, decide_eq_false_iff_not]
  omega

section StandIn

variable (standIn : Nat → Char)

/-- The code point of a character denotes it. -/
@[simp] theorem charOfUnit_toNat (c : Char) : charOfUnit standIn c.toNat = c := by
  simp [charOfUnit, isSurrogate]

/-- Characters that stand for themselves are read as they are. -/
theorem joinSurrogates_map_toNat (text : List Char) :
    joinSurrogates standIn (text.map Char.toNat) = text := by
  induction text with
  | nil => rfl
  | cons c rest ih =>
    cases rest with
    | nil => simp [joinSurrogates]
    | cons d rest =>
      simp only [List.map_cons] at ih
      simp [joinSurrogates, ih]

/-- The units of a character denote it. -/
theorem joinSurrogates_unitsOfChar (c : Char) : joinSurrogates standIn (unitsOfChar c) = [c] := by
  have valid : c.toNat < 0xD800 ∨ 0xDFFF < c.toNat ∧ c.toNat < 0x110000 := c.valid
  unfold unitsOfChar
  split
  · simp [joinSurrogates]
  · have high : isHighSurrogate (0xD800 + (c.toNat - 0x10000) / 0x400) = true := by
      simp only [isHighSurrogate, Bool.and_eq_true, decide_eq_true_eq]
      omega
    have low : isLowSurrogate (0xDC00 + (c.toNat - 0x10000) % 0x400) = true := by
      simp only [isLowSurrogate, Bool.and_eq_true, decide_eq_true_eq]
      omega
    have same : 0x10000 + (0xD800 + (c.toNat - 0x10000) / 0x400 - 0xD800) * 0x400 +
        (0xDC00 + (c.toNat - 0x10000) % 0x400 - 0xDC00) = c.toNat := by omega
    simp only [joinSurrogates, high, low, Bool.and_self, if_true, same, Char.ofNat_toNat]

end StandIn

end SchemaBeans.Text
