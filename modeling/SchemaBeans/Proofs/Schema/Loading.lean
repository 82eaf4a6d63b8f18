import SchemaBeans.Schema.Load

/-!
# Faults of loading that are no defects

Whatever is wrong with a file is a defect of its schema, with two exceptions (`load_escapes_iff`):
the path may hold the character with code zero, and an integer in the file may have more digits
than are read. Both are faults of another kind, and whoever reports defects does not expect them.
-/
namespace SchemaBeans

namespace Text

/-- Bytes below 128 stand for the characters of their codes. -/
theorem decodeUtf8_ascii {text : List Char} (ascii : ∀ c ∈ text, c.toNat < 128) :
    decodeUtf8 (text.map fun c => UInt8.ofNat c.toNat) = .ok text := by
  have decoded (place : Nat) : decodeUtf8From place none (text.map fun c => UInt8.ofNat c.toNat) =
      .ok text := by
    induction text generalizing place with
    | nil => rfl
    | cons first rest ih =>
      have code := ascii first List.mem_cons_self
      have byte : (UInt8.ofNat first.toNat).toNat = first.toNat := by
        rw [UInt8.toNat_ofNat']
        omega
      have small : UInt8.ofNat first.toNat < 0x80 := by
        rw [UInt8.lt_iff_toNat_lt, byte]
        exact code
      have later := ih (fun c member => ascii c (List.mem_cons_of_mem first member)) (place + 1)
      rw [List.map_cons, decodeUtf8From, if_pos small, later, byte, Char.ofNat_toNat]
      rfl
  exact decoded 0

/-- A text without carriage returns has its line ends already. -/
theorem unifyLineEnds_eq_self {text : List Char} (clean : '\r' ∉ text) :
    unifyLineEnds text = text := by
  fun_induction unifyLineEnds text <;> simp_all

end Text

namespace Json

open Text

/-- Neither a named value nor a number of another form starts with many ones. -/
theorem readScalar_ones {count : Nat} (many : maxDigits < count) :
    readScalar (List.replicate count '1' ++ ['}']) = .error (.tooManyDigits count) := by
  obtain ⟨rest, rfl⟩ : ∃ rest, count = rest + 1 := ⟨count - 1, by unfold maxDigits at many; omega⟩
  have unnamed : (constants.findSome? fun named =>
      (named.1.isPrefixOf? (List.replicate (rest + 1) '1' ++ ['}'])).map (named.2, ·)) = none := by
    rw [List.replicate_succ, List.cons_append]
    rfl
  have digit : ∀ c ∈ List.replicate (rest + 1) '1', c.isDigit = true := by
    intro c member
    rw [List.eq_of_mem_replicate member]
    rfl
  have digits : naturalPart? (List.replicate (rest + 1) '1' ++ ['}']) =
      some (List.replicate (rest + 1) '1', ['}']) := by
    have taken : (List.replicate (rest + 1) '1' ++ ['}']).takeWhile Char.isDigit =
        List.replicate (rest + 1) '1' := by
      rw [List.takeWhile_append_of_pos digit]
      simp
    have dropped : (List.replicate (rest + 1) '1' ++ ['}']).dropWhile Char.isDigit = ['}'] := by
      rw [List.dropWhile_append_of_pos digit]
      simp
    have shape (more : List Char) : naturalPart? ('1' :: more) =
        if (('1' :: more).takeWhile Char.isDigit).isEmpty then none
        else some (('1' :: more).takeWhile Char.isDigit, ('1' :: more).dropWhile Char.isDigit) :=
      rfl
    rw [List.replicate_succ, List.cons_append] at taken dropped ⊢
    rw [shape, taken, dropped]
    rfl
  have sign : numberSign (List.replicate (rest + 1) '1' ++ ['}']) =
    (false, List.replicate (rest + 1) '1' ++ ['}']) := rfl
  have tooLong : ¬(List.replicate (rest + 1) '1').length ≤ maxDigits := by
    rw [List.length_replicate]
    omega
  rw [readScalar, unnamed]
  simp only [readNumber, sign, digits]
  have whole : ((fractionPart ['}']).1.isEmpty &&
      (exponentPart (fractionPart ['}']).2).1.isEmpty) = true := rfl
  rw [if_pos whole, if_neg tooLong, List.length_replicate]

/-- An object that holds one integer of ones under the key `n`. -/
def integerObject (count : Nat) : List Char :=
  ['{', '"', 'n', '"', ':'] ++ (List.replicate count '1' ++ ['}'])

/-- An object that holds an integer with too many digits is not read. -/
theorem readChars_integerObject {count : Nat} (many : maxDigits < count) :
    readChars (integerObject count) = .error (.tooManyDigits count) := by
  obtain ⟨rest, rfl⟩ : ∃ rest, count = rest + 1 := ⟨count - 1, by unfold maxDigits at many; omega⟩
  obtain ⟨depth, enough⟩ : ∃ depth, 2 * (integerObject (rest + 1)).length + 2 = depth + 3 := by
    refine ⟨2 * (integerObject (rest + 1)).length - 1, ?_⟩
    simp only [integerObject, List.length_append, List.length_cons]
    omega
  -- An error passes through every reader above, so what these do with a value does not matter.
  let ones := List.replicate (rest + 1) '1' ++ ['}']
  let standIn := standIn (integerObject (rest + 1))
  have value : readValue standIn (depth + 1) ones = .error (.tooManyDigits (rest + 1)) :=
    readScalar_ones many
  obtain ⟨afterValue, member⟩ : ∃ next,
      readMembers standIn (depth + 2) ('"' :: 'n' :: '"' :: ':' :: ones) =
        (readValue standIn (depth + 1) ones).bind next := ⟨_, rfl⟩
  obtain ⟨afterMembers, object⟩ : ∃ next,
      readValue standIn (depth + 3) (integerObject (rest + 1)) =
        (readMembers standIn (depth + 2) ('"' :: 'n' :: '"' :: ':' :: ones)).bind next := ⟨_, rfl⟩
  obtain ⟨afterObject, text⟩ : ∃ next, readChars (integerObject (rest + 1)) =
      (readValue standIn (2 * (integerObject (rest + 1)).length + 2)
        (integerObject (rest + 1))).bind next := ⟨_, rfl⟩
  rw [text, enough, object, member, value]
  rfl

end Json

namespace Schema

/-- A file cannot be loaded, and not because of a defect of its schema. -/
def Escapes (read : FileReader) (path : String) : Prop :=
  '\x00' ∈ path.toList ∨
    ∃ bytes text count, read (Path.normalize path) = .ok bytes ∧
      Text.decodeUtf8 bytes = .ok text ∧
      Json.readChars (Text.unifyLineEnds text) = .error (.tooManyDigits count)

/-- Reading a text gives a defect, unless an integer has too many digits. -/
theorem readText_unreported_iff (source : String) (text : List Char) :
    (∃ failure, readText source text = .error failure ∧ failure.isReported = false) ↔
      ∃ count, Json.readChars text = .error (.tooManyDigits count) := by
  unfold readText
  cases Json.readChars text with
  | ok value => simp
  | error fault =>
    cases fault with
    | malformed cause rest => simp [Failure.isReported]
    | tooManyDigits count => simp [Failure.isReported]

/-- Bytes give a defect where they give no schema, unless an integer has too many digits. -/
theorem ofBytes_unreported_iff (source : String) (bytes : List UInt8) :
    (∃ failure, ofBytes source bytes = .error failure ∧ failure.isReported = false) ↔
      ∃ text count, Text.decodeUtf8 bytes = .ok text ∧
        Json.readChars (Text.unifyLineEnds text) = .error (.tooManyDigits count) := by
  unfold ofBytes
  cases Text.decodeUtf8 bytes with
  | error fault => simp [Failure.isReported]
  | ok text =>
    have texts := readText_unreported_iff source (Text.unifyLineEnds text)
    simp only [Except.ok.injEq, exists_and_left, exists_eq_left', ← texts]
    cases readText source (Text.unifyLineEnds text) with
    | error failure =>
      constructor
      · rintro ⟨other, failed, unreported⟩
        obtain rfl : failure = other := Except.error.inj failed
        exact ⟨failure, rfl, unreported⟩
      · rintro ⟨other, failed, unreported⟩
        obtain rfl : failure = other := Except.error.inj failed
        exact ⟨failure, rfl, unreported⟩
    | ok value =>
      constructor
      · rintro ⟨failure, failed, unreported⟩
        cases value with
        | object content => cases failed
        | _ =>
          obtain rfl := Except.error.inj failed
          cases unreported
      · rintro ⟨failure, failed, _⟩
        cases failed

/-- Loading gives a defect where it gives no schema, unless the file escapes. -/
theorem load_unreported_iff (read : FileReader) (path : String) :
    (∃ failure, load read path = .error failure ∧ failure.isReported = false) ↔
      Escapes read path := by
  unfold load Escapes
  by_cases null : '\x00' ∈ path.toList
  · rw [if_pos (List.contains_iff_mem.mpr null)]
    exact iff_of_true ⟨_, rfl, rfl⟩ (.inl null)
  · rw [if_neg (mt List.contains_iff_mem.mp null)]
    cases read (Path.normalize path) with
    | error fault => simp [null, Failure.isReported]
    | ok bytes =>
      simp only [ofBytes_unreported_iff]
      simp [null]

/-- A file that holds a JSON object escapes if an integer in it has too many digits. -/
theorem escapes_of_integerObject {read : FileReader} {path : String} {count : Nat}
    (many : Text.maxDigits < count)
    (stored : read (Path.normalize path) =
      .ok ((Json.integerObject count).map fun c => UInt8.ofNat c.toNat)) :
    Escapes read path := by
  have ascii : ∀ c ∈ Json.integerObject count, c.toNat < 128 := by
    intro c member
    simp only [Json.integerObject, List.mem_append, List.mem_cons, List.not_mem_nil, or_false,
      List.mem_replicate] at member
    rcases member with (rfl | rfl | rfl | rfl | rfl) | ⟨_, rfl⟩ | rfl <;> decide
  have clean : '\r' ∉ Json.integerObject count := by simp [Json.integerObject]
  refine .inr ⟨_, _, count, stored, Text.decodeUtf8_ascii ascii, ?_⟩
  rw [Text.unifyLineEnds_eq_self clean]
  exact Json.readChars_integerObject many

end Schema

end SchemaBeans
