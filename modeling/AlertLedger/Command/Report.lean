/-
# Reports

What the commands print: lines for a reader, or a JSON value spread over lines.
-/
import AlertLedger.Command
import AlertLedger.Encoding.Event
import AlertLedger.Replay
import AlertLedger.Stats
import AlertLedger.Text.Align

namespace AlertLedger

open Json (Value)
open Text (alignLeft alignRight)

/-- What a command prints. -/
class Report (α : Type) where
  /-- The lines for a reader. -/
  lines : α → List String
  /-- The JSON value. -/
  value : α → Value

/-- The lines of a report in a form. -/
def Report.print {α : Type} [Report α] (form : OutputForm) (a : α) : List String :=
  match form with
  | .table => lines a
  | .json => [(value a).pretty]

/-- Counts as a JSON object. -/
def SortedMap.countsToJson (m : SortedMap String Nat) : Value :=
  .object (m.toList.map fun (name, n) => (name, .natural n))

/-! ## The program -/

/-- The name and the version of a program. -/
structure Release where
  name : String
  version : String
deriving DecidableEq, Repr

/-- This program. -/
def Release.current : Release := ⟨"alerttrail", "0.1.0"⟩

instance : Report Release where
  lines r := [r.name ++ " " ++ r.version]
  value r := .object [("name", .string r.name), ("version", .string r.version)]

/-! ## Fingerprints -/

instance : Report LabelSet where
  lines l := [l.fingerprint.render]
  value l := .object [("fingerprint", l.fingerprint.toJson), ("labels", l.toJson)]

/-! ## Replays -/

/-- What a replay did, and how many alerts are in which state after it. -/
structure ReplayReport where
  summary : ReplaySummary
  alerts : SortedMap String Nat
deriving DecidableEq

namespace ReplayReport

/-- A row of two columns. -/
def row (left right : String) : String :=
  alignLeft 24 left ++ "  " ++ alignRight 8 right

/-- A table of counts. -/
def table (title counted : String) (m : SortedMap String Nat) : List String :=
  row title counted :: m.toList.map fun (name, n) => row name (toString n)

end ReplayReport

instance : Report ReplayReport where
  lines r :=
    s!"Replayed {r.summary.operations} operation(s)."
      :: ReplayReport.table "OPERATION" "COUNT" r.summary.byOperation
      ++ "" :: ReplayReport.table "STATE" "ALERTS" r.alerts
  value r :=
    .object [("operations", .natural r.summary.operations),
      ("by_operation", r.summary.byOperation.countsToJson),
      ("marked_alerts", r.alerts.countsToJson)]

/-! ## Events -/

namespace EventTable

/-- The columns with their widths. -/
def columns : List (String × Nat) :=
  [("ID", 36), ("CREATED AT (NS)", 20), ("FINGERPRINT", 16), ("STATE", 10), ("REASON", 10),
    ("SUPPRESSED BY", 20)]

/-- A row of cells. -/
def row (cells : List String) : String :=
  "  ".intercalate (List.zipWith (fun (_, width) cell => alignLeft width cell) columns cells)

/-- What stands in a cell without content. -/
def nothing : String := "-"

/-- The cells of an event. -/
def cells (e : StateEvent) : List String :=
  [e.id.render, toString e.createdAtNs.toNat, e.fingerprint.render, e.state.name,
    (e.suppressedReason.map SuppressionReason.name).getD nothing, e.suppressedBy.getD nothing]

/-- The rows of a table of events, with the heading. -/
def rows (events : List StateEvent) : List String :=
  row (columns.map (·.1)) :: events.map fun e => row (cells e)

/-- Events as a JSON value. -/
def value (events : List StateEvent) : Value :=
  .array (events.map StateEvent.toJson)

end EventTable

/-- The events of one alert. -/
structure HistoryReport where
  alert : Fingerprint
  events : List StateEvent

instance : Report HistoryReport where
  lines r :=
    if r.events.isEmpty then [s!"No state history for {r.alert}."]
    else EventTable.rows r.events ++ ["", s!"{r.events.length} event(s) for {r.alert}."]
  value r := EventTable.value r.events

/-- The events that a question selects. -/
structure EventsReport where
  offset : Nat
  events : List StateEvent

instance : Report EventsReport where
  lines r :=
    if r.events.isEmpty then ["No state events found."]
    else EventTable.rows r.events
      ++ ["", s!"Showing {r.events.length} event(s) (offset={r.offset})."]
  value r := EventTable.value r.events

/-! ## Statistics -/

/-- Counts of the events in a store. -/
structure StatsReport where
  storePath : String
  stats : Stats

namespace StatsReport

/-- A count with its name, indented by some blanks. -/
def row (indent width : Nat) (name : String) (n : Nat) : String :=
  Text.filling indent "" ++ alignLeft width name ++ " " ++ alignRight 10 (toString n)

end StatsReport

instance : Report StatsReport where
  lines r :=
    [s!"State store: {r.storePath}", s!"  Total events: {r.stats.total}"]
      ++ r.stats.byState.toList.map (fun (name, n) => StatsReport.row 2 12 name n)
      ++ r.stats.byReason.toList.map (fun (name, n) => StatsReport.row 4 10 name n)
  value r :=
    .object [("total", .natural r.stats.total), ("by_state", r.stats.byState.countsToJson),
      ("by_reason", r.stats.byReason.countsToJson)]

end AlertLedger
