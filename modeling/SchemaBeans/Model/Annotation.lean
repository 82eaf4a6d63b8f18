import SchemaBeans.Entries
import SchemaBeans.Text.Parts

/-!
# Annotations

An annotation has a name and parameters. It is rendered by its simple name and its parameters in
the order of their first writing; texts stand between double quotes, with a backslash before each
quote and each backslash.
-/
namespace SchemaBeans

/-- The value of a parameter. -/
inductive ParamValue where
  /-- A truth value. -/
  | bool (value : Bool)
  /-- A text. -/
  | text (value : String)
  /-- An integer. -/
  | int (value : Int)
  /-- No value. -/
  | none
deriving DecidableEq, Repr, Inhabited

/-- A character between quotes. -/
def ParamValue.escapeChar (c : Char) : List Char :=
  if c = '\\' ∨ c = '"' then ['\\', c] else [c]

/-- The written form of a value. That of an integer is in decimal whatever its length; numerals beyond
`Text.maxDigits` digits, which are not read either, are out of account. -/
def ParamValue.render : ParamValue → String
  | bool true => "true"
  | bool false => "false"
  | text value => String.ofList ('"' :: value.toList.flatMap escapeChar ++ ['"'])
  | int value => toString value
  | none => "None"

/-- An annotation of a member. -/
structure Annotation where
  /-- The full name. -/
  name : String
  /-- The parameters in the order of their first writing. -/
  params : Entries ParamValue := []
deriving DecidableEq, Repr, Inhabited

namespace Annotation

/-- The name without the package. -/
def simpleName (note : Annotation) : String :=
  String.ofList (Text.afterLast '.' note.name.toList)

/-- Write a parameter. -/
def param (note : Annotation) (key : String) (value : ParamValue) : Annotation :=
  { note with params := note.params.put key value }

/-- Write parameters one after the other. -/
def withParams (note : Annotation) (params : List (String × ParamValue)) : Annotation :=
  params.foldl (fun written pair => written.param pair.1 pair.2) note

/-- The written form of a parameter. -/
def renderParam (param : String × ParamValue) : String := param.1 ++ " = " ++ param.2.render

/-- The written form; an annotation without parameters has no parentheses. -/
def render (note : Annotation) : String :=
  if note.params.isEmpty then "@" ++ note.simpleName
  else
    "@" ++ note.simpleName ++ "(" ++
      ", ".intercalate (note.params.map renderParam) ++ ")"

end Annotation

end SchemaBeans
