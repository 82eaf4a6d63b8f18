import SchemaBeans.Schema.Basic

/-!
# Loading a schema, and failures

The file under a path is read, decoded, and its line ends are unified before its text is read as
JSON. Every defect names the normal form of the path as its source, and so does the schema.

A malformed schema is a fault of its file: batches and the command line report it beside the results
for other files (`Failure.isReported`). Any other failure stops the operation in which it arises.
-/
namespace SchemaBeans

/-- Why an operation fails. -/
inductive Failure where
  /-- A schema does not have the shape that is expected. -/
  | malformed (schema : MalformedSchema)
  /-- A class has a field of the name already. -/
  | duplicateField (className field : String)
  /-- No rule handles a keyword. -/
  | unknownRule (keyword : String)
  /-- An integer in a schema has too many digits. -/
  | tooManyDigits (count : Nat)
  /-- A path holds the character with code zero. -/
  | nullInPath
  /-- There are jobs and no workers. -/
  | noWorkers
  /-- The level of the log is the name of something else. -/
  | invalidLogLevel
  /-- The level of the log is given without a name. -/
  | missingLogLevel
  /-- The number of workers is given without a numeral. -/
  | missingWorkers
  /-- A text that is printed holds a surrogate without its partner. -/
  | unpairedSurrogate
deriving DecidableEq, Repr

namespace Failure

/-- The wording of a failure. That of a text that cannot be printed is the reason alone; which text
and which place in it are left out. -/
def message : Failure → String
  | malformed schema => schema.message
  | duplicateField className field => s!"Field already defined in {className}: {field}"
  | unknownRule keyword => s!"Unknown rule: {keyword}"
  | tooManyDigits count =>
    s!"Exceeds the limit ({Text.maxDigits} digits) for integer string conversion: " ++
      s!"value has {count} digits; use sys.set_int_max_str_digits() to increase the limit"
  | nullInPath => "embedded null byte"
  | noWorkers => "max_workers must be greater than 0"
  | invalidLogLevel => "Unable to configure logger 'loom_core'"
  | missingLogLevel => "'list' object has no attribute 'upper'"
  | missingWorkers => "'<' not supported between instances of 'list' and 'int'"
  | unpairedSurrogate => "surrogates not allowed"

/-- Whether a failure is reported beside the results for other files. -/
def isReported : Failure → Bool
  | malformed _ => true
  | _ => false

end Failure

end SchemaBeans

namespace SchemaBeans.Schema

/-- The value of a text, with faults as defects of the source. -/
def readText (source : String) (text : List Char) : Except Failure Json :=
  match Json.readChars text with
  | .ok value => .ok value
  | .error (.malformed cause rest) =>
    let place := Text.Position.of text (text.length - rest.length)
    .error (.malformed ⟨.notJson cause place, some source⟩)
  | .error (.tooManyDigits count) => .error (.tooManyDigits count)

/-- The schema that bytes stand for. -/
def ofBytes (source : String) (bytes : List UInt8) : Except Failure Schema :=
  match Text.decodeUtf8 bytes with
  | .error fault => .error (.malformed ⟨.notText fault, some source⟩)
  | .ok text => do
    match ← readText source (Text.unifyLineEnds text) with
    | .object content => return { content, source := some source }
    | _ => .error (.malformed ⟨.rootNotObject, some source⟩)

/-- The schema in the file under a path. -/
def load (read : FileReader) (path : String) : Except Failure Schema :=
  let source := Path.normalize path
  if path.toList.contains '\x00' then .error .nullInPath
  else
    match read source with
    | .error fault => .error (.malformed ⟨.unreadable fault source, some source⟩)
    | .ok bytes => ofBytes source bytes

/-- The surrogates without their partners in the file under a path, with their stand-ins. -/
def unpaired (read : FileReader) (path : String) : List (Nat × Char) :=
  match read (Path.normalize path) with
  | .error _ => []
  | .ok bytes =>
    match Text.decodeUtf8 bytes with
    | .error _ => []
    | .ok text => Json.unpaired (Text.unifyLineEnds text)

end SchemaBeans.Schema
