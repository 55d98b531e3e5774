/-
# Transitions

The rules that decide whether a change of an alert's status is worth an entry in the ledger.
Each compares the status before the change with what the authority reports after it; the state
alone would not do, since an alert is suppressed for two reasons that come and go separately.
-/
import AlertLedger.Alert.Status

namespace AlertLedger

/-- What is recorded of a change of status. -/
inductive Transition where
  /-- The alert went over to a state. -/
  | enter (state : AlertState)
  /-- The alert is suppressed by these other alerts. -/
  | inhibited (inhibitors : List String)
deriving DecidableEq, Repr

namespace Transition

/-- The state that an alert is in after the transition. -/
def state : Transition → AlertState
  | .enter s => s
  | .inhibited _ => .suppressed

/-- The rule for new silences: `prev` is the status before, `silenced` whether the alert is
silenced now. -/
def afterSilencing (prev : AlertStatus) (silenced : Bool) : Option Transition :=
  if silenced then
    if prev.state = .suppressed then none else some (.enter .suppressed)
  else if prev.state = .suppressed ∧ prev.inhibitedBy ≠ [] then none
  else if prev.state = .active then none
  else some (.enter .active)

/-- The rule for new inhibitors: `inhibitors` are those reported now, `inhibited` whether the
alert is inhibited now. A change in their order counts. -/
def afterInhibiting (prev : AlertStatus) (inhibitors : List String) (inhibited : Bool) :
    Option Transition :=
  if inhibited then
    if prev.state ≠ .suppressed ∨ prev.inhibitedBy ≠ inhibitors then some (.inhibited inhibitors)
    else none
  else match prev.state with
    | .suppressed | .active => none
    | .unprocessed | .deleted => some (.enter .active)

/-- The rule for a deleted alert: only one that was known before has an entry. -/
def afterDeletion (prev : AlertStatus) : Option Transition :=
  if prev.state = .unprocessed then none else some (.enter .deleted)

end Transition

end AlertLedger
