import SchemaBeans.Json.Basic
import SchemaBeans.Model.TypeRef
import SchemaBeans.Names.Identifier
import SchemaBeans.Text.Case
import SchemaBeans.Text.Numerals
import SchemaBeans.Text.Parts

/-!
# Names of members

A property of a schema has a field, a getter, a setter and a builder, and each takes its name from
the property. A name is made legal character by character, its words are joined in camel case, and
a digit at its start is guarded by an underscore. Whatever creates a member and whatever looks it
up later has to use one `Naming`; then both compute the same name.
-/
namespace SchemaBeans

open Text

/-- How names of properties become names of members. -/
structure Naming where
  /-- The characters that separate words in the name of a property. -/
  delimiters : String
deriving DecidableEq, Repr

namespace Naming

/-- The text with its first character in upper case. -/
def capitalize : List Char → List Char
  | [] => []
  | first :: rest => upper first ++ rest

/-- The text with its first character in lower case. -/
def uncapitalize : List Char → List Char
  | [] => []
  | first :: rest => lower first ++ rest

/-- The text with an underscore for every character that no identifier holds. -/
def legalize (name : List Char) : List Char :=
  name.map fun c => if Identifier.isChar c then c else '_'

/-- A name made legal holds identifier characters alone. -/
theorem isChar_of_mem_legalize {name : List Char} {c : Char} (member : c ∈ legalize name) :
    Identifier.isChar c = true := by
  obtain ⟨source, _, rfl⟩ := List.mem_map.mp member
  split
  · assumption
  · decide

/-- A name of identifier characters alone is legal as it stands. -/
theorem legalize_eq_self {name : List Char} (legal : ∀ c ∈ name, Identifier.isChar c = true) :
    legalize name = name := by
  rw [legalize, List.map_congr_left fun c member => if_pos (legal c member)]
  exact List.map_id name

/-- The text with an underscore before a digit at its start. -/
def guardDigit : List Char → List Char
  | [] => []
  | first :: rest => if isDigit first then '_' :: first :: rest else first :: rest

/-- Whether a text starts with two capitals, as an abbreviation does. Names are made legal before
they are asked, so the capitals of ASCII are all there are. -/
def startsWithCapitals : List Char → Bool
  | first :: second :: _ => first.isUpper && second.isUpper
  | _ => false

/-- The text with its first character in lower case, unless it starts with two capitals. -/
def lowerFirst (name : List Char) : List Char :=
  if startsWithCapitals name then name else uncapitalize name

/-- The text with an underscore before it if it is a keyword. -/
def guardKeyword (name : List Char) : List Char :=
  if Identifier.isKeyword name then '_' :: name else name

/-- Whether a character separates words. -/
def separates (naming : Naming) (c : Char) : Bool := naming.delimiters.toList.contains c

/-- The words joined in camel case; a text of delimiters alone stays as it is. -/
def joinWords (naming : Naming) (name : List Char) : List Char :=
  match words naming.separates name with
  | [] => name
  | first :: later => first ++ later.flatMap capitalize

/-- The words joined in camel case, with a digit at the start guarded. -/
def normalize (naming : Naming) (name : List Char) : List Char :=
  guardDigit (naming.joinWords name)

/-- The name from which the names of the members are made: a text that is not empty under
`javaName` in the schema of the property, and otherwise the name of the property. -/
def givenName (property : String) (node : Option Json) : String :=
  ((node.bind (·.get? "javaName")).bind Json.nonemptyText?).getD property

/-- The given name in legal characters and camel case. -/
def stem (naming : Naming) (property : String) (node : Option Json) : List Char :=
  naming.normalize (legalize (givenName property node).toList)

/-- The name of the field of a property. -/
def fieldName (naming : Naming) (property : String) (node : Option Json) : String :=
  String.ofList (guardKeyword (lowerFirst (naming.stem property node)))

/-- A name that starts with the given word. -/
def accessorName (naming : Naming) (word : String) (property : String) (node : Option Json) :
    String :=
  word ++ String.ofList (capitalize (naming.stem property node))

/-- The name of the getter of a property. Every object has a method `getClass` already. -/
def getterName (naming : Naming) (property : String) (type : TypeRef) (node : Option Json) :
    String :=
  let word := if type.isPrimitiveBoolean then "is" else "get"
  let name := naming.accessorName word property node
  if name = "getClass" then "getClass_" else name

/-- The name of the setter of a property, which is named as the getter is. -/
def setterName (naming : Naming) (property : String) (node : Option Json) : String :=
  let name := naming.accessorName "set" property node
  if name = "setClass" then "setClass_" else name

/-- The name of the builder of a property. -/
def builderName (naming : Naming) (property : String) (node : Option Json) : String :=
  naming.accessorName "with" property node

/-- The name of the class for a schema of the given name; an empty name is guarded too. -/
def className (naming : Naming) (given : String) (node : Option Json) : String :=
  let name := capitalize (naming.stem given node)
  String.ofList (if Identifier.isKeyword name || name.isEmpty then '_' :: name else name)

end Naming

end SchemaBeans
