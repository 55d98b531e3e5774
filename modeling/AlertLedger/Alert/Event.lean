/-
# Events

The rows of the ledger. An event says at what time an alert went over to a state, and for a
suppressed alert also why: by a silence, or by another alert, of which the first is named.
-/
import AlertLedger.Alert.Transition
import AlertLedger.Fingerprint
import AlertLedger.Uuid

namespace AlertLedger

/-- One row of the ledger. -/
structure StateEvent where
  id : Uuid
  createdAtNs : UInt64
  fingerprint : Fingerprint
  state : AlertState
  suppressedBy : Option String := none
  suppressedReason : Option SuppressionReason := none
deriving DecidableEq, Repr, Inhabited

/-- What a caller hands over to be recorded: an alert and its transition. -/
structure Entry where
  alert : Fingerprint
  transition : Transition
deriving DecidableEq, Repr

/-- What a disk lets happen. -/
inductive Disk where
  | working
  /-- What is there can be worked with, but nothing more fits. -/
  | full
  /-- Whatever is written fails. -/
  | failing
deriving DecidableEq, Repr

/-- The steps in which rows are written. -/
inductive WriteStep where
  | start
  | rowTable
  | indexTable
  | row
  | indexEntry
  | commit
deriving DecidableEq, Repr

/-- What a step is called when it fails. -/
def WriteStep.name : WriteStep → String
  | .start => "write txn"
  | .rowTable => "write table"
  | .indexTable => "index table"
  | .row => "insert"
  | .indexEntry => "index insert"
  | .commit => "commit"

/-- What is told of rows that could not be written: the step that failed, and why. -/
structure WriteFailure where
  step : WriteStep
  reason : String
deriving DecidableEq, Repr

/-- What the surroundings contribute to one call: a new id and the time, should a row be made
then, and should rows be written then, what the disk does, how many seconds that takes, and what is
told of it if it fails. -/
structure Moment where
  id : Uuid
  now : UInt64
  disk : Disk := .working
  writeTime : Float := 0
  failure : Option WriteFailure := none

namespace StateEvent

/-- The event of an alert that goes over to a state. Being suppressed this way means being
silenced. -/
def transition (m : Moment) (alert : Fingerprint) (state : AlertState) : StateEvent where
  id := m.id
  createdAtNs := m.now
  fingerprint := alert
  state := state
  suppressedReason := if state = .suppressed then some .silenced else none

/-- The event of an alert that is inhibited; it keeps the first inhibitor only. -/
def inhibited (m : Moment) (alert : Fingerprint) (inhibitors : List String) : StateEvent where
  id := m.id
  createdAtNs := m.now
  fingerprint := alert
  state := .suppressed
  suppressedBy := inhibitors.head?
  suppressedReason := some .inhibited

end StateEvent

/-- The row that an entry becomes. -/
def Entry.event (e : Entry) (m : Moment) : StateEvent :=
  match e.transition with
  | .enter s => .transition m e.alert s
  | .inhibited inhibitors => .inhibited m e.alert inhibitors

end AlertLedger
