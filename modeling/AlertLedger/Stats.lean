/-
# Statistics

How many events there are in all, by state, and by the reason for a suppression. States and
reasons without events have no entry.
-/
import AlertLedger.Alert.Event
import AlertLedger.SortedMap

namespace AlertLedger

/-- Counts of events. -/
structure Stats where
  total : Nat := 0
  byState : SortedMap String Nat := .empty
  byReason : SortedMap String Nat := .empty
deriving DecidableEq

namespace Stats

/-- Counts one more under a name. -/
def count (m : SortedMap String Nat) (name : String) : SortedMap String Nat :=
  m.alter name fun n => n.getD 0 + 1

/-- The counts with one more event. -/
def add (s : Stats) (e : StateEvent) : Stats where
  total := s.total + 1
  byState := count s.byState e.state.name
  byReason := match e.suppressedReason with
    | some r => count s.byReason r.name
    | none => s.byReason

/-- The counts of some events. -/
def ofEvents (events : List StateEvent) : Stats :=
  events.foldl add {}

end Stats

end AlertLedger
