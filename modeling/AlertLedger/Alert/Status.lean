/-
# The status of an alert

What a status authority knows of one alert. An alert is silenced or inhibited when it is
suppressed and has active silences or inhibitors; being suppressed alone says neither.
-/
import AlertLedger.Alert.State

namespace AlertLedger

/-- What is known of one alert. The default is that of an alert never seen. -/
structure AlertStatus where
  state : AlertState := .unprocessed
  silencedBy : List String := []
  inhibitedBy : List String := []
  pendingSilences : List String := []
  silencesVersion : UInt64 := 0
deriving DecidableEq, Repr, Inhabited

namespace AlertStatus

/-- Suppressed, and by a silence at least. -/
def isSilenced (s : AlertStatus) : Bool :=
  s.state == .suppressed && !s.silencedBy.isEmpty

/-- Suppressed, and by another alert at least. -/
def isInhibited (s : AlertStatus) : Bool :=
  s.state == .suppressed && !s.inhibitedBy.isEmpty

end AlertStatus

end AlertLedger
