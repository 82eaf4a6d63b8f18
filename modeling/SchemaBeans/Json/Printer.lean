import SchemaBeans.Json.Basic
import SchemaBeans.Text.Numerals
import SchemaBeans.Text.Surrogate

/-!
# Writing JSON

A style says where line ends and spaces stand and which characters are escaped. The quote, the
backslash and the characters below U+0020 are escaped in every style, the latter by a letter where
there is one.
-/
namespace SchemaBeans.Json

open Text

/-- How a value is laid out. -/
structure Style where
  /-- The spaces for each level of nesting; without it a value stands on one line. -/
  indent : Option Nat
  /-- What separates items on one line. -/
  comma : List Char
  /-- What separates a key from its value. -/
  colon : List Char
  /-- Whether the characters outside printable ASCII are escaped by their code. -/
  asciiOnly : Bool

/-- One line without spaces. -/
def Style.compact : Style := ⟨none, [','], [':'], false⟩

/-- A line for each item, with the given number of spaces for each level. -/
def Style.indented (width : Nat) : Style := ⟨some width, [','], [':', ' '], false⟩

/-- One line of ASCII with a space after each comma and colon. -/
def Style.spaced : Style := ⟨none, [',', ' '], [':', ' '], true⟩

/-- The escape of a unit by its code. -/
def codeEscape (unit : Nat) : List Char := '\\' :: 'u' :: hexPadded 4 unit

/-- The letter of a one-letter escape. -/
def escapeLetter? : Char → Option Char
  | '"' => some '"'
  | '\\' => some '\\'
  | '\x08' => some 'b'
  | '\x0c' => some 'f'
  | '\n' => some 'n'
  | '\r' => some 'r'
  | '\t' => some 't'
  | _ => none

/-- The written form of a character in a string. -/
def writeChar (asciiOnly : Bool) (c : Char) : List Char :=
  match escapeLetter? c with
  | some letter => ['\\', letter]
  | none =>
    if c.toNat < 0x20 || (asciiOnly && 0x7F ≤ c.toNat) then (unitsOfChar c).flatMap codeEscape
    else [c]

/-- The written form of a string. -/
def writeString (asciiOnly : Bool) (text : String) : List Char :=
  '"' :: text.toList.flatMap (writeChar asciiOnly) ++ ['"']

/-- The start of a line at a level of nesting. -/
def Style.newLine (style : Style) (level : Nat) : List Char :=
  match style.indent with
  | none => []
  | some width => '\n' :: List.replicate (width * level) ' '

/-- What stands between two items at a level of nesting. -/
def Style.separator (style : Style) (level : Nat) : List Char :=
  style.comma ++ style.newLine level

mutual

/-- The written form of a value at a level of nesting. -/
def write (style : Style) (level : Nat) : Json → List Char
  | .null => ['n', 'u', 'l', 'l']
  | .bool true => ['t', 'r', 'u', 'e']
  | .bool false => ['f', 'a', 'l', 's', 'e']
  | .int value => (toString value).toList
  | .float literal => literal.toList
  | .string text => writeString style.asciiOnly text
  | .array [] => ['[', ']']
  | .array (item :: items) =>
    '[' :: style.newLine (level + 1) ++ write style (level + 1) item ++
      writeItems style (level + 1) items ++ style.newLine level ++ [']']
  | .object [] => ['{', '}']
  | .object ((key, value) :: entries) =>
    '{' :: style.newLine (level + 1) ++ writeString style.asciiOnly key ++ style.colon ++
      write style (level + 1) value ++ writeEntries style (level + 1) entries ++
      style.newLine level ++ ['}']

/-- The written form of items after another item. -/
def writeItems (style : Style) (level : Nat) : List Json → List Char
  | [] => []
  | item :: items =>
    style.separator level ++ write style level item ++ writeItems style level items

/-- The written form of entries after another entry. -/
def writeEntries (style : Style) (level : Nat) : List (String × Json) → List Char
  | [] => []
  | (key, value) :: entries =>
    style.separator level ++ writeString style.asciiOnly key ++ style.colon ++
      write style level value ++ writeEntries style level entries

end

/-- The text of a value. -/
def render (style : Style) (value : Json) : String := String.ofList (write style 0 value)

end SchemaBeans.Json
