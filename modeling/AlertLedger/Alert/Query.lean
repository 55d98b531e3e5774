/-
# Queries

Which events are asked for. The filters leave out an event that any of them refuses; of those
that pass, the first `offset` are skipped and at most `limit` are given, where a limit of zero
is none.
-/
import AlertLedger.Alert.Event

namespace AlertLedger

/-- A question to the ledger. -/
structure EventQuery where
  fingerprint : Option Fingerprint := none
  state : Option AlertState := none
  reason : Option SuppressionReason := none
  fromNs : Option UInt64 := none
  toNs : Option UInt64 := none
  limit : Nat := 0
  offset : Nat := 0
deriving DecidableEq, Repr, Inhabited

namespace EventQuery

/-- The question for the events of one alert. -/
def forAlert (alert : Fingerprint) (limit : Nat) : EventQuery where
  fingerprint := some alert
  limit := limit

/-- Whether an event passes all filters. Both ends of the time range belong to it. -/
def accepts (q : EventQuery) (e : StateEvent) : Bool :=
  q.fingerprint.all (e.fingerprint == ·)
    && q.state.all (e.state == ·)
    && q.reason.all (e.suppressedReason == some ·)
    && q.fromNs.all (· ≤ e.createdAtNs)
    && q.toNs.all (e.createdAtNs ≤ ·)

/-- The part of a list of accepted events that is given. -/
def page {α : Type _} (q : EventQuery) (l : List α) : List α :=
  let rest := l.drop q.offset
  if q.limit = 0 then rest else rest.take q.limit

/-- The answer to the question on a list of events. -/
def select (q : EventQuery) (events : List StateEvent) : List StateEvent :=
  q.page (events.filter q.accepts)

end EventQuery

end AlertLedger
