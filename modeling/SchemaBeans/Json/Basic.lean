import SchemaBeans.Entries

/-!
# JSON values

The value of a JSON text. Integers are exact and of any size; any other number is held by its
spelling, because nothing is computed with it. The entries of an object keep the order of the text.
-/
namespace SchemaBeans

/-- A JSON value. -/
inductive Json where
  /-- The null value. -/
  | null
  /-- A truth value. -/
  | bool (value : Bool)
  /-- A number without fraction and exponent. -/
  | int (value : Int)
  /-- A number with fraction or exponent, an infinity or not a number, by its spelling. -/
  | float (literal : String)
  /-- A text. -/
  | string (text : String)
  /-- Values in order. -/
  | array (items : List Json)
  /-- Values under keys, in order. -/
  | object (entries : List (String × Json))
deriving Inhabited, Repr

namespace Json

/-- The word for the kind of a value in messages. -/
def kind : Json → String
  | null => "NoneType"
  | bool _ => "bool"
  | int _ => "int"
  | float _ => "float"
  | string _ => "str"
  | array _ => "list"
  | object _ => "dict"

/-- The text of a text value. -/
def text? : Json → Option String
  | string text => some text
  | _ => none

/-- The text of a text value that is not empty. -/
def nonemptyText? (value : Json) : Option String :=
  value.text?.filter (· ≠ "")

/-- The entries of an object. -/
def entries? : Json → Option (Entries Json)
  | object entries => some entries
  | _ => none

/-- The value under a key of an object; another value has no keys. -/
def get? (value : Json) (key : String) : Option Json :=
  value.entries?.bind (·.get? key)

/-- Whether the value is the given text. -/
def isText (value : Json) (text : String) : Bool :=
  value.text? == some text

mutual

/-- The characters of the texts and keys of a value. -/
def chars : Json → List Char
  | .string text => text.toList
  | .array items => charsOfItems items
  | .object entries => charsOfEntries entries
  | _ => []

/-- The characters of the texts and keys of values. -/
def charsOfItems : List Json → List Char
  | [] => []
  | item :: items => chars item ++ charsOfItems items

/-- The characters of the texts and keys of entries. -/
def charsOfEntries : List (String × Json) → List Char
  | [] => []
  | (key, value) :: entries => key.toList ++ chars value ++ charsOfEntries entries

end

end Json

end SchemaBeans
