import SchemaBeans.Json.Basic
import SchemaBeans.Text.Numerals
import SchemaBeans.Text.Parts
import SchemaBeans.Text.Surrogate

/-!
# Reading JSON

Each reader takes the text from its place on and returns what it read with the text that follows.
A fault carries the text from the fault on, which fixes its offset: the length of the whole text
less that of the rest. Values nest, so readers of values take a bound on the number of readers that
are under way. Of any two readers one inside the other, the outer or the one between them has taken
a character, so twice the number of characters bounds it, and `Json.read` allows for more.

Besides the constants of the standard, NaN and the two infinities are read. Of two entries with one
key the later value stands in the place of the earlier. A string may hold surrogates without their
partners; they are read as stand-ins that no string of the text holds as characters (`standIn`).
-/
namespace SchemaBeans.Json

open Text

/-- What is wrong at a place of a text. -/
inductive SyntaxCause where
  /-- The text starts with a byte order mark. -/
  | byteOrderMark
  /-- No value starts here. -/
  | valueExpected
  /-- No key starts here. -/
  | keyExpected
  /-- No colon follows a key. -/
  | colonExpected
  /-- Neither a comma nor the closing bracket follows a value. -/
  | commaExpected
  /-- A control character stands in a string. -/
  | controlCharacter
  /-- The string that starts here has no end. -/
  | unterminatedString
  /-- An unknown escape. -/
  | invalidEscape
  /-- An escape by code without its four hexadecimal digits. -/
  | invalidCodeEscape
  /-- Text after the value. -/
  | extraData
deriving DecidableEq, Repr

/-- The wording of a cause. -/
def SyntaxCause.message : SyntaxCause → String
  | byteOrderMark => "Unexpected UTF-8 BOM (decode using utf-8-sig)"
  | valueExpected => "Expecting value"
  | keyExpected => "Expecting property name enclosed in double quotes"
  | colonExpected => "Expecting ':' delimiter"
  | commaExpected => "Expecting ',' delimiter"
  | controlCharacter => "Invalid control character at"
  | unterminatedString => "Unterminated string starting at"
  | invalidEscape => "Invalid \\escape"
  | invalidCodeEscape => "Invalid \\uXXXX escape"
  | extraData => "Extra data"

/-- Why a text is not read. -/
inductive Fault where
  /-- The text is no JSON; `rest` is what stands from the fault on. -/
  | malformed (cause : SyntaxCause) (rest : List Char)
  /-- An integer has more digits than are read. -/
  | tooManyDigits (count : Nat)
deriving DecidableEq, Repr

/-- A fault of the text that is left. -/
def fault {α : Type} (cause : SyntaxCause) (rest : List Char) : Except Fault α :=
  .error (.malformed cause rest)

/-- Whether a character may stand between tokens. -/
def isSpace (c : Char) : Bool := c == ' ' || c == '\t' || c == '\n' || c == '\r'

/-- The text after its leading space. -/
def skipSpace (text : List Char) : List Char := text.dropWhile isSpace

/-- The character of a one-letter escape. -/
def escapedChar? : Char → Option Char
  | '"' => some '"'
  | '\\' => some '\\'
  | '/' => some '/'
  | 'b' => some '\x08'
  | 'f' => some '\x0c'
  | 'n' => some '\n'
  | 'r' => some '\r'
  | 't' => some '\t'
  | _ => none

/-- The value of four hexadecimal digits. -/
def hexUnit? (a b c d : Char) : Option Nat := do
  some (((← hexValue? a) * 16 + (← hexValue? b)) * 256 + (← hexValue? c) * 16 + (← hexValue? d))

/-- The units of a string after its opening quote, and the text after its closing quote. The text
from the opening quote on is `opening`. A code escape has to be followed by a character. -/
def readUnits (opening : List Char) : List Char → Except Fault (List Nat × List Char)
  | [] => fault .unterminatedString opening
  | '"' :: rest => .ok ([], rest)
  | ['\\'] => fault .unterminatedString opening
  | '\\' :: 'u' :: a :: b :: c :: d :: e :: rest =>
    match hexUnit? a b c d with
    | none => fault .invalidCodeEscape ('u' :: a :: b :: c :: d :: e :: rest)
    | some unit => do
      let (units, after) ← readUnits opening (e :: rest)
      return (unit :: units, after)
  | '\\' :: 'u' :: rest => fault .invalidCodeEscape ('u' :: rest)
  | '\\' :: c :: rest =>
    match escapedChar? c with
    | none => fault .invalidEscape ('\\' :: c :: rest)
    | some char => do
      let (units, after) ← readUnits opening rest
      return (char.toNat :: units, after)
  | c :: rest =>
    if c.toNat < 0x20 then fault .controlCharacter (c :: rest)
    else do
      let (units, after) ← readUnits opening rest
      return (c.toNat :: units, after)

/-- The string whose opening quote stood before the text. -/
def readString (standIn : Nat → Char) (rest : List Char) : Except Fault (String × List Char) := do
  let (units, after) ← readUnits ('"' :: rest) rest
  return (String.ofList (joinSurrogates standIn units), after)

/-- The digits of an integer without sign: a zero alone, or digits that do not start with zero. -/
def naturalPart? : List Char → Option (List Char × List Char)
  | '0' :: rest => some (['0'], rest)
  | text =>
    let digits := text.takeWhile Char.isDigit
    if digits.isEmpty then none else some (digits, text.dropWhile Char.isDigit)

/-- A point with the digits after it, if there are any. -/
def fractionPart : List Char → List Char × List Char
  | '.' :: rest =>
    let digits := rest.takeWhile Char.isDigit
    if digits.isEmpty then ([], '.' :: rest) else ('.' :: digits, rest.dropWhile Char.isDigit)
  | text => ([], text)

/-- The sign of an exponent, if there is one. -/
def exponentSign : List Char → List Char × List Char
  | '+' :: rest => (['+'], rest)
  | '-' :: rest => (['-'], rest)
  | text => ([], text)

/-- The letter of an exponent with the sign and the digits after it, if there are digits. -/
def exponentPart : List Char → List Char × List Char
  | [] => ([], [])
  | c :: rest =>
    if c == 'e' || c == 'E' then
      let (sign, unsigned) := exponentSign rest
      let digits := unsigned.takeWhile Char.isDigit
      if digits.isEmpty then ([], c :: rest)
      else (c :: sign ++ digits, unsigned.dropWhile Char.isDigit)
    else ([], c :: rest)

/-- The sign of a number, if there is one. -/
def numberSign : List Char → Bool × List Char
  | '-' :: rest => (true, rest)
  | text => (false, text)

/-- The value of decimal digits. -/
def digitsValue (digits : List Char) : Nat :=
  ofDigits (digits.map fun c => c.toNat - 48)

/-- A number: an integer if neither a fraction nor an exponent follows its digits. -/
def readNumber (text : List Char) : Except Fault (Json × List Char) :=
  let (negative, unsigned) := numberSign text
  match naturalPart? unsigned with
  | none => fault .valueExpected text
  | some (digits, afterDigits) =>
    let (fraction, afterFraction) := fractionPart afterDigits
    let (exponent, after) := exponentPart afterFraction
    if fraction.isEmpty && exponent.isEmpty then
      if digits.length ≤ maxDigits then
        let value : Int := digitsValue digits
        .ok (.int (if negative then -value else value), after)
      else .error (.tooManyDigits digits.length)
    else
      let sign := if negative then ['-'] else []
      .ok (.float (String.ofList (sign ++ digits ++ fraction ++ exponent)), after)

/-- The values that have a name. -/
def constants : List (List Char × Json) := [
  (['n', 'u', 'l', 'l'], .null),
  (['t', 'r', 'u', 'e'], .bool true),
  (['f', 'a', 'l', 's', 'e'], .bool false),
  (['N', 'a', 'N'], .float "NaN"),
  (['I', 'n', 'f', 'i', 'n', 'i', 't', 'y'], .float "Infinity"),
  (['-', 'I', 'n', 'f', 'i', 'n', 'i', 't', 'y'], .float "-Infinity")]

/-- A value that is neither a string, an array nor an object. -/
def readScalar (text : List Char) : Except Fault (Json × List Char) :=
  match constants.findSome? fun named => (named.1.isPrefixOf? text).map (named.2, ·) with
  | some found => .ok found
  | none => readNumber text

mutual

/-- The value that starts the text. -/
def readValue (standIn : Nat → Char) : Nat → List Char → Except Fault (Json × List Char)
  | 0, text => fault .valueExpected text
  | _ + 1, '"' :: rest => do
    let (text, after) ← readString standIn rest
    return (.string text, after)
  | depth + 1, '[' :: rest =>
    match skipSpace rest with
    | ']' :: after => .ok (.array [], after)
    | inner => do
      let (items, after) ← readItems standIn depth inner
      return (.array items, after)
  | depth + 1, '{' :: rest =>
    match skipSpace rest with
    | '}' :: after => .ok (.object [], after)
    | inner => do
      let (members, after) ← readMembers standIn depth inner
      return (.object (Entries.ofPairs members), after)
  | _ + 1, text => readScalar text

/-- The items of an array from one of them on, up to the closing bracket. -/
def readItems (standIn : Nat → Char) : Nat → List Char → Except Fault (List Json × List Char)
  | 0, text => fault .valueExpected text
  | depth + 1, text => do
    let (item, after) ← readValue standIn depth text
    match skipSpace after with
    | ']' :: rest => return ([item], rest)
    | ',' :: rest =>
      let (items, last) ← readItems standIn depth (skipSpace rest)
      return (item :: items, last)
    | rest => fault .commaExpected rest

/-- The members of an object from one of them on, up to the closing brace. -/
def readMembers (standIn : Nat → Char) :
    Nat → List Char → Except Fault (List (String × Json) × List Char)
  | 0, text => fault .keyExpected text
  | depth + 1, '"' :: text => do
    let (key, afterKey) ← readString standIn text
    match skipSpace afterKey with
    | ':' :: beforeValue =>
      let (value, after) ← readValue standIn depth (skipSpace beforeValue)
      match skipSpace after with
      | '}' :: rest => return ([(key, value)], rest)
      | ',' :: rest =>
        let (members, last) ← readMembers standIn depth (skipSpace rest)
        return ((key, value) :: members, last)
      | rest => fault .commaExpected rest
    | rest => fault .colonExpected rest
  | _ + 1, text => fault .keyExpected text

end

/-- The value of a text that holds one value and space around it, with the given stand-ins for
surrogates without their partners. -/
def readWith (standIn : Nat → Char) (text : List Char) : Except Fault Json := do
  if text.head? == some '\uFEFF' then fault .byteOrderMark text
  else
    let (value, after) ← readValue standIn (2 * text.length + 2) (skipSpace text)
    match skipSpace after with
    | [] => return value
    | rest => fault .extraData rest

/-- Characters that the strings of a text hold, all of them among others: those that follow a quote,
be it the first or the last of a string, up to the next one. -/
def charsInUse : List Char → List Char
  | [] => []
  | '"' :: rest =>
    match readString (fun _ => '\uFFFD') rest with
    | .ok (text, _) => text.toList ++ charsInUse rest
    | .error _ => charsInUse rest
  | _ :: rest => charsInUse rest

/-- The stand-in for a surrogate without its partner in a text. -/
def standIn (text : List Char) (unit : Nat) : Char := standInAmong (charsInUse text) unit

/-- The value of a text that holds one value and space around it. -/
def readChars (text : List Char) : Except Fault Json := readWith (standIn text) text

/-- The surrogates without their partners that the value of a text holds, with their stand-ins. -/
def unpaired (text : List Char) : List (Nat × Char) :=
  match readChars text with
  | .error _ => []
  | .ok value =>
    let used := charsInUse text
    (value.chars.filter fun c => !used.contains c).map fun c => (unitOfStandIn used c, c)

/-- The value of a text. -/
def read (text : String) : Except Fault Json := readChars text.toList

end SchemaBeans.Json
