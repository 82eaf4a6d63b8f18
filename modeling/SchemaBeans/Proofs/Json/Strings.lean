import SchemaBeans.Json.Printer
import SchemaBeans.Json.Reader

/-!
# Strings that are read back

A written string reads back as the text it was written from (`readString_writeString`), whichever
characters that holds. Each character is written in one of three forms, by a letter, by code, or as
it is, and each form is read as units that denote the character wherever they stand (`Denotes`).
-/
namespace SchemaBeans

namespace Text

/-- Units denote characters, whatever units follow and whatever stands in for surrogates. -/
def Denotes (units : List Nat) (text : List Char) : Prop :=
  ∀ standIn rest, joinSurrogates standIn (units ++ rest) = text ++ joinSurrogates standIn rest

/-- No units denote no characters. -/
theorem denotes_nil : Denotes [] [] := fun _ _ => rfl

/-- Units one after the other denote characters one after the other. -/
theorem Denotes.append {units more : List Nat} {text later : List Char}
    (first : Denotes units text) (second : Denotes more later) :
    Denotes (units ++ more) (text ++ later) := by
  intro standIn rest
  rw [List.append_assoc, first, second, List.append_assoc]

/-- The characters that units denote are read from them. -/
theorem Denotes.joinSurrogates_eq {units : List Nat} {text : List Char}
    (denotes : Denotes units text) (standIn : Nat → Char) :
    joinSurrogates standIn units = text := by
  have alone := denotes standIn []
  simpa [joinSurrogates] using alone

/-- The code point of a character denotes it. -/
theorem denotes_toNat (c : Char) : Denotes [c.toNat] [c] := by
  intro standIn rest
  cases rest with
  | nil => simp [joinSurrogates]
  | cons next later => simp [joinSurrogates]

/-- The units of a character denote it. -/
theorem denotes_unitsOfChar (c : Char) : Denotes (unitsOfChar c) [c] := by
  unfold Denotes
  intro standIn
  have alone := joinSurrogates_unitsOfChar standIn c
  unfold unitsOfChar at alone ⊢
  split
  · exact denotes_toNat c standIn
  · rename_i large
    rw [if_neg large] at alone
    intro rest
    -- The two units are read as a pair before any unit that follows is looked at.
    rw [joinSurrogates] at alone
    split at alone
    · rename_i pair
      rw [List.cons_append, List.cons_append, List.nil_append, joinSurrogates, if_pos pair,
        (List.cons.inj alone).1, List.singleton_append]
    · cases congrArg List.length alone

/-- A unit of a character has at most four hexadecimal digits. -/
theorem lt_of_mem_unitsOfChar {c : Char} {unit : Nat} (member : unit ∈ unitsOfChar c) :
    unit < 0x10000 := by
  have valid : c.toNat < 0xD800 ∨ 0xDFFF < c.toNat ∧ c.toNat < 0x110000 := c.valid
  unfold unitsOfChar at member
  split at member
  · obtain rfl := List.mem_singleton.mp member
    assumption
  · simp only [List.mem_cons, List.not_mem_nil, or_false] at member
    omega

end Text

namespace Json

open Text

/-- Four digits that are written are read as their value. -/
theorem hexUnit?_hexDigit {a b c d : Nat} (first : a < 16) (second : b < 16) (third : c < 16)
    (fourth : d < 16) : hexUnit? (hexDigit a) (hexDigit b) (hexDigit c) (hexDigit d) =
      some ((a * 16 + b) * 256 + c * 16 + d) := by
  rw [hexUnit?, hexValue?_hexDigit first, hexValue?_hexDigit second, hexValue?_hexDigit third,
    hexValue?_hexDigit fourth]
  rfl

/-- The letter of an escape stands for the character that is escaped. -/
theorem escapedChar?_of_escapeLetter? {c letter : Char} (escaped : escapeLetter? c = some letter) :
    escapedChar? letter = some c := by
  unfold escapeLetter? at escaped
  split at escaped <;> cases escaped <;> rfl

section Units

variable {opening more after : List Char} {units : List Nat}

/-- An escape by a letter is read as the code point of its character. -/
theorem readUnits_letter {letter char : Char} (escaped : escapedChar? letter = some char)
    (follows : readUnits opening more = .ok (units, after)) :
    readUnits opening ('\\' :: letter :: more) = .ok (char.toNat :: units, after) := by
  have noCode : letter ≠ 'u' := by
    rintro rfl
    cases escaped
  rw [readUnits]
  · rw [escaped]
    simp only [follows]
    rfl
  all_goals simp_all

/-- An escape by code is read as its unit. -/
theorem readUnits_codeEscape {unit : Nat} (small : unit < 0x10000)
    (follows : readUnits opening more = .ok (units, after)) :
    readUnits opening (codeEscape unit ++ more) = .ok (unit :: units, after) := by
  -- Such an escape has to be followed by a character, and what can be read to its end is.
  obtain ⟨next, later, rfl⟩ : ∃ next later, more = next :: later := by
    cases more with
    | nil => cases follows
    | cons next later => exact ⟨next, later, rfl⟩
  have digit (value : Nat) : value % 16 < 16 := Nat.mod_lt _ (by decide)
  have read := hexUnit?_hexDigit (digit (unit / 16 / 16 / 16)) (digit (unit / 16 / 16))
    (digit (unit / 16)) (digit unit)
  have same : (unit / 16 / 16 / 16 % 16 * 16 + unit / 16 / 16 % 16) * 256 +
      unit / 16 % 16 * 16 + unit % 16 = unit := by omega
  have written : codeEscape unit ++ next :: later =
      '\\' :: 'u' :: hexDigit (unit / 16 / 16 / 16 % 16) :: hexDigit (unit / 16 / 16 % 16) ::
        hexDigit (unit / 16 % 16) :: hexDigit (unit % 16) :: next :: later := rfl
  rw [written, readUnits, read, same]
  simp only [follows]
  rfl

/-- Escapes by code are read as their units. -/
theorem readUnits_codeEscapes {own : List Nat} (small : ∀ unit ∈ own, unit < 0x10000)
    (follows : readUnits opening more = .ok (units, after)) :
    readUnits opening (own.flatMap codeEscape ++ more) = .ok (own ++ units, after) := by
  induction own with
  | nil => exact follows
  | cons unit rest ih =>
    have later := ih fun other member => small other (List.mem_cons_of_mem unit member)
    rw [List.flatMap_cons, List.append_assoc,
      readUnits_codeEscape (small unit List.mem_cons_self) later]
    rfl

/-- A character that needs no escape is read as its code point. -/
theorem readUnits_raw {c : Char} (unescaped : escapeLetter? c = none) (visible : 0x20 ≤ c.toNat)
    (follows : readUnits opening more = .ok (units, after)) :
    readUnits opening (c :: more) = .ok (c.toNat :: units, after) := by
  have noQuote : c ≠ '"' := by
    rintro rfl
    cases unescaped
  have noBackslash : c ≠ '\\' := by
    rintro rfl
    cases unescaped
  rw [readUnits]
  · rw [if_neg (by omega), follows]
    rfl
  all_goals simp_all

/-- A written character is read as units that denote it. -/
theorem readUnits_writeChar (asciiOnly : Bool) (c : Char)
    (follows : readUnits opening more = .ok (units, after)) :
    ∃ own, Denotes own [c] ∧
      readUnits opening (writeChar asciiOnly c ++ more) = .ok (own ++ units, after) := by
  unfold writeChar
  cases escaped : escapeLetter? c with
  | some letter =>
    exact ⟨[c.toNat], denotes_toNat c,
      readUnits_letter (escapedChar?_of_escapeLetter? escaped) follows⟩
  | none =>
    by_cases byCode : (c.toNat < 0x20 || (asciiOnly && 0x7F ≤ c.toNat)) = true
    · refine ⟨unitsOfChar c, denotes_unitsOfChar c, ?_⟩
      simp only [byCode, if_true]
      exact readUnits_codeEscapes (fun unit => lt_of_mem_unitsOfChar) follows
    · refine ⟨[c.toNat], denotes_toNat c, ?_⟩
      have visible : 0x20 ≤ c.toNat := by
        simp only [Bool.or_eq_true, decide_eq_true_eq] at byCode
        omega
      simp only [byCode]
      exact readUnits_raw escaped visible follows

/-- Written characters are read as units that denote them. -/
theorem readUnits_writeChars (opening after : List Char) (asciiOnly : Bool) (text : List Char) :
    ∃ own, Denotes own text ∧
      readUnits opening (text.flatMap (writeChar asciiOnly) ++ '"' :: after) = .ok (own, after) := by
  induction text with
  | nil => exact ⟨[], denotes_nil, rfl⟩
  | cons c rest ih =>
    obtain ⟨units, denotes, later⟩ := ih
    obtain ⟨own, first, read⟩ := readUnits_writeChar asciiOnly c later
    refine ⟨own ++ units, first.append denotes, ?_⟩
    rw [List.flatMap_cons, List.append_assoc, read]

end Units

/-- A written string is read back, and nothing of what follows it. -/
theorem readString_writeString (standIn : Nat → Char) (asciiOnly : Bool) (text : String)
    (after : List Char) : ∃ inside, writeString asciiOnly text ++ after = '"' :: inside ∧
      readString standIn inside = .ok (text, after) := by
  refine ⟨text.toList.flatMap (writeChar asciiOnly) ++ '"' :: after, ?_, ?_⟩
  · simp only [writeString, List.cons_append, List.append_assoc, List.nil_append]
  · unfold readString
    obtain ⟨units, denotes, read⟩ := readUnits_writeChars
      ('"' :: (text.toList.flatMap (writeChar asciiOnly) ++ '"' :: after)) after asciiOnly
      text.toList
    rw [read]
    simp only [bind, Except.bind, denotes.joinSurrogates_eq, String.ofList_toList]
    rfl

end Json

end SchemaBeans
