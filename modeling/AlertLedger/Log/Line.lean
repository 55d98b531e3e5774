/-
# Log lines

A log event as a line, either a JSON object or words for a reader.
-/
import AlertLedger.Json.Value
import AlertLedger.Log.Event

namespace AlertLedger

open Json (Value)

/-- The value of a field as a JSON value. -/
def LogValue.toJson : LogValue → Value
  | .text s => .string s
  | .number n => .natural n
  | .absent => .null

/-- The value of a field for a reader. -/
def LogValue.render : LogValue → String
  | .text s => s
  | .number n => toString n
  | .absent => ""

namespace LogEvent

/-- An event as a JSON object with its fields among the other members. -/
def toJson (time : String) (e : LogEvent) : Value :=
  .object <|
    [("timestamp", .string time), ("level", .string e.level.label), ("message", .string e.message)]
    ++ e.shownFields.map (fun (name, v) => (name, v.toJson))
    ++ [("target", .string e.target)]

/-- An event in words. -/
def words (time : String) (e : LogEvent) : String :=
  let fields := e.shownFields.map fun (name, v) => s!", {name}: {v.render}"
  s!"{time} {e.level.label} {e.target}: {e.message}" ++ String.join fields

/-- The line of an event that happened at a time. -/
def line (format : LogFormat) (time : String) (e : LogEvent) : String :=
  match format with
  | .json => (e.toJson time).render
  | .text => e.words time

end LogEvent

end AlertLedger
