/-
# The recording sink

Keeps the entries as they come and counts how often it is flushed and closed. It never fails.
-/
import AlertLedger.Sink

namespace AlertLedger

/-- A sink that remembers every call. -/
structure RecordingSink where
  calls : List Entry := []
  flushes : Nat := 0
  closes : Nat := 0
deriving DecidableEq, Repr, Inhabited

namespace RecordingSink

/-- The entries of one alert. -/
def callsFor (s : RecordingSink) (alert : Fingerprint) : List Entry :=
  s.calls.filter (·.alert == alert)

instance : Sink RecordingSink where
  append _ e s := { result := (), state := { s with calls := s.calls ++ [e] } }
  flush _ s := { result := .ok (), state := { s with flushes := s.flushes + 1 } }
  close _ s := { result := .ok (), state := { s with closes := s.closes + 1 } }

end RecordingSink

end AlertLedger
