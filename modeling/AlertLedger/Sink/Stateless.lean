/-
# Sinks without a store

Three sinks that keep nothing: one writes each row to the log, one throws the entries away, and
one takes them but can be neither flushed nor closed.
-/
import AlertLedger.Sink

namespace AlertLedger

/-- Writes each entry to the log at once. -/
inductive LoggingSink where
  | mk
deriving DecidableEq, Repr, Inhabited

instance : Sink LoggingSink where
  append m e s := { result := (), state := s, emitted := [.log (.row (e.event m))] }
  flush _ s := { result := .ok (), state := s }
  close _ s := { result := .ok (), state := s }

/-- Throws the entries away. -/
inductive DiscardingSink where
  | mk
deriving DecidableEq, Repr, Inhabited

instance : Sink DiscardingSink where
  append _ e s := { result := (), state := s, emitted := [.log (.discarding e)] }
  flush _ s := { result := .ok (), state := s }
  close _ s := { result := .ok (), state := s }

/-- Takes entries without a word and fails to flush and to close, for the reason given. -/
structure UnreliableSink where
  reason : String
deriving DecidableEq, Repr, Inhabited

instance : Sink UnreliableSink where
  append _ _ s := { result := (), state := s }
  flush _ s := { result := .error (.flushFailed s.reason), state := s }
  close _ s := { result := .error (.closeFailed s.reason), state := s }

end AlertLedger
