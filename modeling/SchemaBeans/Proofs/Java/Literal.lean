import SchemaBeans.Model.Annotation
import SchemaBeans.Proofs.Json.Strings
import SchemaBeans.Text.Numerals

/-!
# String literals of Java

Java source is read in two passes. The first replaces the escapes by code, a backslash with letters
`u` and four hexadecimal digits, wherever they stand; a backslash that follows an open backslash
starts none. The second reads the units between two quotes, with an escape by letter or by octal
digits after a backslash, and refuses a line feed and a carriage return. A text denotes its UTF-16
units, and it is determined by them (`units_injective`).

The rendering of a text is a literal that denotes the text if that stands on one line, and no
literal otherwise (`readLiteral_render_text`).
-/
namespace SchemaBeans

namespace Java

/-- The units that a text denotes. -/
def units (text : List Char) : List Nat := text.flatMap Text.unitsOfChar

/-- Whether a text holds neither a line feed nor a carriage return. -/
def OneLine (text : List Char) : Prop := ∀ c ∈ text, c ≠ '\n' ∧ c ≠ '\r'

/-- Whether a text stands on one line can be computed. -/
instance (text : List Char) : Decidable (OneLine text) :=
  List.decidableBAll (fun c => c ≠ '\n' ∧ c ≠ '\r') text

/-- A pass over a text: each step gives the units that are complete and the next state, and the last
state has to be one in which the text may end. -/
def pass {State Input : Type} (step : State → Input → Option (List Nat × State))
    (mayEnd : State → Bool) : State → List Input → Option (List Nat)
  | state, [] => if mayEnd state then some [] else none
  | state, input :: rest =>
    match step state input with
    | some (complete, next) => (pass step mayEnd next rest).map (complete ++ ·)
    | none => none

/-- What the first pass has seen of an escape by code. -/
inductive CodeScan where
  /-- Nothing. -/
  | clear
  /-- A backslash. -/
  | backslash
  /-- A backslash and a letter `u`. -/
  | letter
  /-- Digits with a value; others are missing after the next one. -/
  | digits (missing value : Nat)

/-- Whether nothing of an escape by code has been seen. -/
def CodeScan.isClear : CodeScan → Bool
  | clear => true
  | _ => false

/-- The first pass at a character. -/
def codeStep : CodeScan → Char → Option (List Nat × CodeScan)
  | .clear, c =>
    if c = '\\' then some ([], .backslash) else some (Text.unitsOfChar c, .clear)
  | .backslash, c =>
    if c = 'u' then some ([], .letter) else some ('\\'.toNat :: Text.unitsOfChar c, .clear)
  | .letter, c =>
    if c = 'u' then some ([], .letter)
    else (Text.hexValue? c).map fun digit => ([], .digits 2 digit)
  | .digits 0 value, c =>
    (Text.hexValue? c).map fun digit => ([16 * value + digit], .clear)
  | .digits (missing + 1) value, c =>
    (Text.hexValue? c).map fun digit => ([], .digits missing (16 * value + digit))

/-- The units of a source after the first pass. -/
def replaceCodes (source : List Char) : Option (List Nat) :=
  pass codeStep CodeScan.isClear .clear source

/-- The unit that a letter denotes after a backslash. -/
def letterEscape? (unit : Nat) : Option Nat :=
  if unit = 'b'.toNat then some 8
  else if unit = 't'.toNat then some 9
  else if unit = 'n'.toNat then some 10
  else if unit = 'f'.toNat then some 12
  else if unit = 'r'.toNat then some 13
  else if unit = 's'.toNat then some 32
  else if unit ∈ ['"'.toNat, '\''.toNat, '\\'.toNat] then some unit
  else none

/-- The value of an octal digit. -/
def octalValue? (unit : Nat) : Option Nat :=
  if '0'.toNat ≤ unit ∧ unit ≤ '7'.toNat then some (unit - '0'.toNat) else none

/-- Where the second pass stands. -/
inductive LiteralScan where
  /-- Between the quotes. -/
  | inside
  /-- After a backslash. -/
  | escaped
  /-- After octal digits with a value, which others may follow. -/
  | octal (possible value : Nat)
  /-- After the closing quote. -/
  | closed

/-- Whether the closing quote has been read. -/
def LiteralScan.isClosed : LiteralScan → Bool
  | closed => true
  | _ => false

/-- The second pass at a unit between the quotes. -/
def insideStep (unit : Nat) : Option (List Nat × LiteralScan) :=
  if unit = '"'.toNat then some ([], .closed)
  else if unit = '\\'.toNat then some ([], .escaped)
  else if unit = '\n'.toNat ∨ unit = '\r'.toNat then none
  else some ([unit], .inside)

/-- The second pass at a unit. An escape has up to three octal digits if the first is at most three,
and up to two otherwise. -/
def literalStep : LiteralScan → Nat → Option (List Nat × LiteralScan)
  | .inside, unit => insideStep unit
  | .escaped, unit =>
    match octalValue? unit with
    | some digit => some ([], .octal (if digit ≤ 3 then 2 else 1) digit)
    | none => (letterEscape? unit).map fun denoted => ([denoted], .inside)
  | .octal 0 value, unit =>
    (insideStep unit).map fun (denoted, next) => (value :: denoted, next)
  | .octal (possible + 1) value, unit =>
    match octalValue? unit with
    | some digit => some ([], .octal possible (8 * value + digit))
    | none => (insideStep unit).map fun (denoted, next) => (value :: denoted, next)
  | .closed, _ => none

/-- The units that a literal denotes after its opening quote. -/
def readBody (body : List Nat) : Option (List Nat) :=
  pass literalStep LiteralScan.isClosed .inside body

/-- The units that a source denotes as a string literal. -/
def readLiteral (source : List Char) : Option (List Nat) :=
  match replaceCodes source with
  | some (opening :: body) => if opening = '"'.toNat then readBody body else none
  | _ => none

/-- The units of a text determine it. -/
theorem units_injective {text other : List Char} (same : units text = units other) :
    text = other := by
  have denotes (text : List Char) : Text.Denotes (units text) text := by
    induction text with
    | nil => exact Text.denotes_nil
    | cons c rest ih => exact (Text.denotes_unitsOfChar c).append ih
  let standIn (_ : Nat) := '\uFFFD'
  calc text = Text.joinSurrogates standIn (units text) :=
        ((denotes text).joinSurrogates_eq standIn).symm
    _ = Text.joinSurrogates standIn (units other) := by rw [same]
    _ = other := (denotes other).joinSurrogates_eq standIn

/-- A unit below the surrogates is a unit of no other character. -/
theorem eq_of_mem_unitsOfChar {c other : Char} (small : other.toNat < 0xD800)
    (member : other.toNat ∈ Text.unitsOfChar c) : other = c := by
  unfold Text.unitsOfChar at member
  split at member
  · exact Char.toNat_inj.mp (List.mem_singleton.mp member)
  · simp only [List.mem_cons, List.not_mem_nil, or_false] at member
    omega

section Pass

variable {State Input : Type} {step : State → Input → Option (List Nat × State)}
  {mayEnd : State → Bool} {state next : State} {input : Input} {complete : List Nat}

/-- A pass goes on after a step. -/
theorem pass_cons (taken : step state input = some (complete, next)) (rest : List Input) :
    pass step mayEnd state (input :: rest) =
      (pass step mayEnd next rest).map (complete ++ ·) := by
  rw [pass, taken]

/-- A pass ends at the first step that fails. -/
theorem pass_cons_of_none (failed : step state input = none) (rest : List Input) :
    pass step mayEnd state (input :: rest) = none := by
  rw [pass, failed]

/-- One output after the other is written in front of the rest. -/
theorem map_append_append (first second : List Nat) (rest : Option (List Nat)) :
    (rest.map (second ++ ·)).map (first ++ ·) = rest.map (first ++ second ++ ·) := by
  cases rest <;> simp

end Pass

/-- The units of a rendered character after the first pass. -/
def escapedUnits (c : Char) : List Nat :=
  if c = '\\' ∨ c = '"' then ['\\'.toNat, c.toNat] else Text.unitsOfChar c

/-- The first pass leaves the escape of a rendered character. -/
theorem replaceCodes_escapeChar (c : Char) (rest : List Char) :
    replaceCodes (ParamValue.escapeChar c ++ rest) =
      (replaceCodes rest).map (escapedUnits c ++ ·) := by
  unfold ParamValue.escapeChar escapedUnits replaceCodes
  by_cases special : c = '\\' ∨ c = '"'
  · -- The second of two backslashes starts no escape by code, whatever follows.
    rw [if_pos special, if_pos special]
    have opened : codeStep .clear '\\' = some ([], .backslash) := rfl
    have complete : codeStep .backslash c = some (['\\'.toNat, c.toNat], .clear) := by
      rcases special with rfl | rfl <;> rfl
    rw [List.cons_append, List.singleton_append, pass_cons opened, pass_cons complete,
      map_append_append, List.nil_append]
  · rw [if_neg special, if_neg special]
    have raw : codeStep .clear c = some (Text.unitsOfChar c, .clear) :=
      if_neg fun same => special (.inl same)
    exact pass_cons raw rest

/-- The first pass leaves the escapes of rendered characters. -/
theorem replaceCodes_escapeChars (text rest : List Char) :
    replaceCodes (text.flatMap ParamValue.escapeChar ++ rest) =
      (replaceCodes rest).map (text.flatMap escapedUnits ++ ·) := by
  induction text with
  | nil => simp
  | cons c text ih =>
    rw [List.flatMap_cons, List.append_assoc, replaceCodes_escapeChar, ih, map_append_append,
      List.flatMap_cons]

/-- The second pass reads units that are neither special nor ends of lines as they are. -/
theorem readBody_plain {own : List Nat}
    (plain : ∀ special ∈ ['"', '\\', '\n', '\r'], special.toNat ∉ own) (rest : List Nat) :
    readBody (own ++ rest) = (readBody rest).map (own ++ ·) := by
  induction own with
  | nil => simp
  | cons unit own ih =>
    have later := ih fun special known member =>
      plain special known (List.mem_cons_of_mem unit member)
    have apart (special : Char) (known : special ∈ ['"', '\\', '\n', '\r']) :
        unit ≠ special.toNat := by
      rintro rfl
      exact plain special known List.mem_cons_self
    have raw : literalStep .inside unit = some ([unit], .inside) := by
      have noQuote := apart '"' (by decide)
      have noBackslash := apart '\\' (by decide)
      have noFeed := apart '\n' (by decide)
      have noReturn := apart '\r' (by decide)
      simp only [literalStep, insideStep, noQuote, noBackslash, noFeed, noReturn, if_false,
        or_self]
    unfold readBody at later ⊢
    rw [List.cons_append, pass_cons raw, later, map_append_append, List.singleton_append]

/-- The second pass reads a rendered character as itself, and refuses the end of a line. -/
theorem readBody_escapedUnits (c : Char) (rest : List Nat) :
    readBody (escapedUnits c ++ rest) =
      if c = '\n' ∨ c = '\r' then none else (readBody rest).map (Text.unitsOfChar c ++ ·) := by
  unfold escapedUnits
  by_cases special : c = '\\' ∨ c = '"'
  · have inLine : ¬(c = '\n' ∨ c = '\r') := by rcases special with rfl | rfl <;> decide
    rw [if_pos special, if_neg inLine]
    have opened : literalStep .inside '\\'.toNat = some ([], .escaped) := rfl
    have denoted : literalStep .escaped c.toNat = some (Text.unitsOfChar c, .inside) := by
      rcases special with rfl | rfl <;> rfl
    unfold readBody
    rw [List.cons_append, List.singleton_append, pass_cons opened, pass_cons denoted,
      map_append_append, List.nil_append]
  · rw [if_neg special]
    by_cases ending : c = '\n' ∨ c = '\r'
    · rw [if_pos ending]
      have refused : literalStep .inside c.toNat = none := by
        rcases ending with rfl | rfl <;> rfl
      have alone : Text.unitsOfChar c = [c.toNat] := by
        rcases ending with rfl | rfl <;> rfl
      rw [alone]
      exact pass_cons_of_none refused rest
    · rw [if_neg ending]
      refine readBody_plain (fun other known member => ?_) rest
      simp only [List.mem_cons, List.not_mem_nil, or_false] at known
      have small : other.toNat < 0xD800 := by rcases known with rfl | rfl | rfl | rfl <;> decide
      obtain rfl := eq_of_mem_unitsOfChar small member
      rcases known with quote | backslash | ended
      · exact special (.inr quote)
      · exact special (.inl backslash)
      · exact ending ended

/-- The second pass reads rendered characters up to the closing quote, if they stand on one line. -/
theorem readBody_escapedUnits_quote (text : List Char) :
    readBody (text.flatMap escapedUnits ++ ['"'.toNat]) =
      if OneLine text then some (units text) else none := by
  induction text with
  | nil => rfl
  | cons c rest ih =>
    rw [List.flatMap_cons, List.append_assoc, readBody_escapedUnits, ih]
    by_cases ending : c = '\n' ∨ c = '\r'
    · have broken : ¬OneLine (c :: rest) := fun oneLine =>
        ending.elim (oneLine c List.mem_cons_self).1 (oneLine c List.mem_cons_self).2
      rw [if_pos ending, if_neg broken]
    · have same : OneLine (c :: rest) ↔ OneLine rest := by
        simp only [OneLine, List.forall_mem_cons, ne_eq, not_or.mp ending, not_false_eq_true,
          and_self, true_and]
      rw [if_neg ending]
      by_cases oneLine : OneLine rest
      · rw [if_pos oneLine, if_pos (same.mpr oneLine)]
        rfl
      · rw [if_neg oneLine, if_neg fun whole => oneLine (same.mp whole)]
        rfl

/-- The rendering of a text denotes the text if that stands on one line, and is no literal
otherwise. -/
theorem readLiteral_render_text (value : String) :
    readLiteral (ParamValue.text value).render.toList =
      if OneLine value.toList then some (units value.toList) else none := by
  have closing : replaceCodes ['"'] = some ['"'.toNat] := rfl
  have replaced : replaceCodes (ParamValue.text value).render.toList =
      some ('"'.toNat :: (value.toList.flatMap escapedUnits ++ ['"'.toNat])) := by
    have opened : codeStep .clear '"' = some (['"'.toNat], .clear) := rfl
    have body := replaceCodes_escapeChars value.toList ['"']
    rw [closing] at body
    unfold replaceCodes at body ⊢
    rw [ParamValue.render, String.toList_ofList, List.cons_append, pass_cons opened, body]
    rfl
  rw [readLiteral, replaced]
  exact readBody_escapedUnits_quote value.toList

/-- What looks like an escape by code in a text is denoted as it stands. -/
example : readLiteral (ParamValue.text "\\u000a").render.toList = some (units "\\u000a".toList) := by
  decide

/-- The rendering of a text denotes this text alone, and only if it stands on one line. -/
theorem readLiteral_render_text_eq_some_iff (value other : String) :
    readLiteral (ParamValue.text value).render.toList = some (units other.toList) ↔
      value = other ∧ OneLine value.toList := by
  rw [readLiteral_render_text]
  constructor
  · intro denotes
    split at denotes
    · rename_i oneLine
      exact ⟨String.toList_inj.mp (units_injective (Option.some.inj denotes)), oneLine⟩
    · cases denotes
  · rintro ⟨rfl, oneLine⟩
    exact if_pos oneLine

end Java

end SchemaBeans
