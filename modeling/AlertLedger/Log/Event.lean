/-
# Log events

What is logged, with the parts that log it. An event says where it comes from by a target, a path
whose parts are separated by double colons, so that a filter can select a whole branch. The fields
of an event are the same each time it is logged, but some may be without value.
-/
import AlertLedger.Log.Level
import AlertLedger.Alert.Event
import AlertLedger.Text.Quote

namespace AlertLedger

/-- The value of a field of a log event. -/
inductive LogValue where
  | text (s : String)
  | number (n : Nat)
  /-- There is none, and the field is not shown. -/
  | absent
deriving DecidableEq, Repr

/-- The text that there may be. -/
def LogValue.ofText? (s? : Option String) : LogValue := (s?.map .text).getD .absent

/-- One log event. -/
structure LogEvent where
  level : LogLevel
  target : String
  message : String
  fields : List (String × LogValue) := []
deriving DecidableEq, Repr

namespace LogEvent

/-- Whether an event has a field, with or without value. The message counts as one. -/
def hasField (e : LogEvent) (name : String) : Bool :=
  name == "message" || e.fields.any (·.1 == name)

/-- The fields that have a value. -/
def shownFields (e : LogEvent) : List (String × LogValue) :=
  e.fields.filter (·.2 != .absent)

/-! ## The trail -/

/-- An entry is handed to the sink. -/
def appending (e : Entry) : LogEvent where
  level := .debug
  target := "application::state_aware_marker"
  message := match e.transition with
    | .enter _ => "appending alert state"
    | .inhibited _ => "appending inhibited alert state"
  fields := ("fingerprint", .text e.alert.render) :: match e.transition with
    | .enter s => [("state", .text s.name)]
    | .inhibited inhibitors => [("inhibited_by", .text (Text.quoteList inhibitors))]

/-! ## Replays -/

/-- How a log event names the alert of an operation: by its number, in words that say that there
may be none. -/
def optionalAlert : Option Fingerprint → String
  | some f => s!"Some(Fingerprint({f.bits.toNat}))"
  | none => "None"

/-- An operation of a stream is about to be applied. -/
def replaying (operation : String) (alert : Option Fingerprint) : LogEvent where
  level := .trace
  target := "application::replay"
  message := "replaying operation"
  fields := [("op", .text operation), ("fingerprint", .text (optionalAlert alert))]

/-! ## Sinks -/

/-- An entry goes nowhere. -/
def discarding (e : Entry) : LogEvent where
  level := .trace
  target := "adapters::audit::discard_state_appender"
  message := match e.transition with
    | .enter _ => "state log disabled, discarding"
    | .inhibited _ => "state log disabled, discarding inhibition"
  fields := ("fingerprint", .text e.alert.render) :: match e.transition with
    | .enter s => [("state", .text s.name)]
    | .inhibited _ => []

/-- A row goes to the log. -/
def row (e : StateEvent) : LogEvent where
  level := .info
  target := "adapters::audit::log_state_appender"
  message := "alert state"
  fields :=
    [("event_type", .text "alert_state"), ("id", .text e.id.render),
      ("created_at_ns", .number e.createdAtNs.toNat),
      ("fingerprint", .text e.fingerprint.render), ("state", .text e.state.name),
      ("suppressed_by", .ofText? e.suppressedBy),
      ("suppressed_reason", .ofText? (e.suppressedReason.map SuppressionReason.name))]

/-- The target of a store's events. -/
def storeTarget : String := "adapters::storage::redb_state_appender"

/-- A row comes too late. -/
def droppedAfterClose (e : StateEvent) : LogEvent where
  level := .warn
  target := storeTarget
  message := "state appender closed, dropping alert state"
  fields := [("fingerprint", .text e.fingerprint.render), ("state", .text e.state.name)]

/-- A batch of rows could not be written. -/
def flushFailed (f : Fault) (rows : Nat) : LogEvent where
  level := .error
  target := storeTarget
  message := "state flush failed, dropping batch"
  fields := [("error", .text f.message), ("rows", .number rows)]

/-- A batch of rows was written. -/
def flushed (rows : Nat) : LogEvent where
  level := .debug
  target := storeTarget
  message := "flushed alert states"
  fields := [("rows", .number rows)]

end LogEvent

end AlertLedger
