import SchemaBeans.Json.Printer
import SchemaBeans.Log.Event
import SchemaBeans.Schema.Load
import SchemaBeans.Text.Case

/-!
# Records of a log

A log keeps the events from a threshold on and writes each as a line of text or as a JSON object.
The threshold is set by name in any case; an unknown name means `INFO`. Two names belong to other
things of the logging system than levels and are refused.
-/
namespace SchemaBeans

/-- The thresholds by name. -/
def namedThresholds : List (String × Nat) := [
  ("CRITICAL", 50), ("FATAL", 50), ("ERROR", 40), ("WARNING", 30), ("WARN", 30), ("INFO", 20),
  ("DEBUG", 10), ("NOTSET", 0)]

/-- The names that are no thresholds and cannot be used as such. -/
def refusedThresholds : List String := ["BASIC_FORMAT", "_STYLES"]

/-- The least rank of the events that are kept. -/
def thresholdOf (name : String) : Except Failure Nat :=
  let name := String.ofList (name.toList.flatMap Text.upper)
  if refusedThresholds.contains name then .error .invalidLogLevel
  else .ok ((namedThresholds.lookup name).getD LogLevel.info.rank)

/-- How a log is kept. -/
structure LogSettings where
  /-- The least rank of the events that are kept. -/
  threshold : Nat
  /-- Whether events are written as JSON. -/
  asJson : Bool

namespace Event

/-- An event as a line: its level in eight columns, its logger and its wording. -/
def toLine (event : Event) : String :=
  let level := event.level.name
  let padding := String.ofList (List.replicate (8 - level.length) ' ')
  s!"[{padding}{level}] {event.logger}: {event.message}"

/-- An event as a JSON object. -/
def toJson (event : Event) : Json :=
  .object [("name", .string event.logger), ("levelname", .string event.level.name),
    ("message", .string event.message)]

/-- An event as a record of a log. -/
def record (settings : LogSettings) (event : Event) : String :=
  if settings.asJson then event.toJson.render .spaced else event.toLine

end Event

/-- The records of the events that are kept, in order. -/
def LogSettings.records (settings : LogSettings) (events : List Event) : List String :=
  (events.filter fun event => settings.threshold ≤ event.level.rank).map
    (Event.record settings)

end SchemaBeans
