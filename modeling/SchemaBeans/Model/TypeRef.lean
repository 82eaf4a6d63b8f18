import SchemaBeans.Text.Parts

/-!
# References to Java types

A type is referred to by its full name, which may carry type arguments. The simple name drops the
package and keeps the arguments. A list type names its item type simply, and lists hold no
primitive types, so an item type is boxed first.
-/
namespace SchemaBeans

/-- A reference to a type. -/
structure TypeRef where
  /-- The full name with type arguments. -/
  name : String
  /-- Whether the type is primitive. -/
  primitive : Bool := false
deriving DecidableEq, Repr, Inhabited

namespace TypeRef

/-- The text type. -/
def string : TypeRef := ⟨"java.lang.String", false⟩

/-- The class of integers. -/
def integer : TypeRef := ⟨"java.lang.Integer", false⟩

/-- The primitive type of integers. -/
def int : TypeRef := ⟨"int", true⟩

/-- The class of long integers. -/
def longInteger : TypeRef := ⟨"java.lang.Long", false⟩

/-- The primitive type of long integers. -/
def long : TypeRef := ⟨"long", true⟩

/-- The class of numbers. -/
def number : TypeRef := ⟨"java.lang.Double", false⟩

/-- The primitive type of numbers. -/
def double : TypeRef := ⟨"double", true⟩

/-- The class of truth values. -/
def truth : TypeRef := ⟨"java.lang.Boolean", false⟩

/-- The primitive type of truth values. -/
def boolean : TypeRef := ⟨"boolean", true⟩

/-- The type of all objects. -/
def object : TypeRef := ⟨"java.lang.Object", false⟩

/-- The type of a method that returns nothing. -/
def void : TypeRef := ⟨"void", true⟩

/-- The name without the package, with the type arguments. -/
def simpleName (type : TypeRef) : String :=
  let name := type.name.toList
  String.ofList (Text.afterLast '.' (Text.beforeFirst '<' name) ++ Text.fromFirst '<' name)

/-- Whether the type is the primitive type of truth values. -/
def isPrimitiveBoolean (type : TypeRef) : Bool := type.primitive && type.name == "boolean"

/-- The type of lists whose items have the given type. -/
def listOf (item : TypeRef) : TypeRef := ⟨"java.util.List<" ++ item.simpleName ++ ">", false⟩

/-- The class that stands for a primitive type; any other type stands for itself. -/
def boxed (type : TypeRef) : TypeRef :=
  if type.primitive then
    match type.name with
    | "int" => integer
    | "long" => longInteger
    | "double" => number
    | "boolean" => truth
    | _ => type
  else type

end TypeRef

end SchemaBeans
