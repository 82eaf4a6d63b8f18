import SchemaBeans.Files.Tree
import SchemaBeans.Json.Reader
import SchemaBeans.Text.Printable
import SchemaBeans.Text.Utf8

/-!
# Schemas and their shape

A schema is a JSON object with the place it comes from. Two of its keywords have to have a shape:
`properties` is an object or absent, and `required` is an array of texts. What is wrong with a
schema is a `Defect`; a message names the source first, if there is one.
-/
namespace SchemaBeans

/-- A schema document. -/
structure Schema where
  /-- The keywords and their values. -/
  content : Entries Json
  /-- The file the schema comes from. -/
  source : Option String := none

/-- What is wrong with a schema. -/
inductive Defect where
  /-- The file under a path cannot be read. -/
  | unreadable (fault : ReadFault) (path : String)
  /-- The bytes of the file are no text. -/
  | notText (fault : Text.Utf8Fault)
  /-- The text of the file is no JSON. -/
  | notJson (cause : Json.SyntaxCause) (place : Text.Position)
  /-- The value of the file is no object. -/
  | rootNotObject
  /-- The value of `properties`, of the given kind, is no object. -/
  | propertiesNotObject (kind : String)
  /-- The value of `required`, of the given kind, is no array. -/
  | requiredNotArray (kind : String)
  /-- An item of `required`, of the given kind, is no text. -/
  | requiredItemNotText (index : Nat) (kind : String)
deriving DecidableEq, Repr

namespace Defect

/-- The wording of the bytes that are no text. -/
def bytesMessage (fault : Text.Utf8Fault) : String :=
  let place :=
    if fault.count = 1 then
      s!"byte 0x{String.ofList (Text.hexPadded 2 fault.byte.toNat)} in position {fault.first}"
    else s!"bytes in position {fault.first}-{fault.first + fault.count - 1}"
  let reason :=
    match fault.cause with
    | .invalidStart => "invalid start byte"
    | .invalidContinuation => "invalid continuation byte"
    | .unexpectedEnd => "unexpected end of data"
  s!"'utf-8' codec can't decode {place}: {reason}"

/-- The wording of a defect. -/
def message : Defect → String
  | unreadable fault path =>
    s!"cannot read schema: [Errno {fault.code}] {fault.reason}: {Text.quoted path}"
  | notText fault => s!"cannot read schema: {bytesMessage fault}"
  | notJson cause place =>
    s!"invalid JSON: {cause.message}: line {place.line} column {place.column} " ++
      s!"(char {place.offset})"
  | rootNotObject => "schema root must be an object"
  | propertiesNotObject kind => s!"'properties' must be an object, got {kind}"
  | requiredNotArray kind => s!"'required' must be an array of strings, got {kind}"
  | requiredItemNotText index kind => s!"'required'[{index}] must be a string, got {kind}"

end Defect

/-- A defect with the source of its schema. -/
structure MalformedSchema where
  /-- What is wrong. -/
  defect : Defect
  /-- The source of the schema. -/
  source : Option String
deriving DecidableEq, Repr

/-- The wording of a defect after the source, unless that is missing or empty. -/
def MalformedSchema.message (malformed : MalformedSchema) : String :=
  match malformed.source with
  | none | some "" => malformed.defect.message
  | some source => source ++ ": " ++ malformed.defect.message

namespace Schema

/-- The value of a keyword. -/
def get? (schema : Schema) (keyword : String) : Option Json := schema.content.get? keyword

/-- Whether a keyword is present, with whatever value. -/
def contains (schema : Schema) (keyword : String) : Bool := (schema.get? keyword).isSome

/-- The title, if it is a text. -/
def title? (schema : Schema) : Option String := (schema.get? "title").bind Json.text?

/-- The description, if it is a text that is not empty. -/
def description? (schema : Schema) : Option String :=
  (schema.get? "description").bind Json.nonemptyText?

/-- The declared properties; the keyword may be absent or null. -/
def properties? (schema : Schema) : Except MalformedSchema (Option (Entries Json)) :=
  match schema.get? "properties" with
  | none | some .null => .ok none
  | some (.object properties) => .ok (some properties)
  | some value => .error ⟨.propertiesNotObject value.kind, schema.source⟩

end Schema

/-- The texts of an array from an index on, or the first item that is none. -/
def textItems (index : Nat) : List Json → Except Defect (List String)
  | [] => .ok []
  | .string text :: rest => (textItems (index + 1) rest).map (text :: ·)
  | value :: _ => .error (.requiredItemNotText index value.kind)

/-- The names in the value of `required`, with repetitions. -/
def requiredNames (node : Json) (source : Option String) :
    Except MalformedSchema (List String) :=
  match node with
  | .array items => (textItems 0 items).mapError fun defect => ⟨defect, source⟩
  | value => .error ⟨.requiredNotArray value.kind, source⟩

end SchemaBeans
