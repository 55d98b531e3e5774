/-
# Faults

Why a call on the ledger fails, one constructor for each cause, and the one function that words
them. Two of the causes concern the outside: `storeUnavailable` a store that cannot be opened,
`flushFailed` a batch that could not be written.
-/

namespace AlertLedger

/-- The causes for which a call on the ledger fails, with the detail that is reported. -/
inductive Fault where
  | writeFailed (detail : String)
  | flushFailed (detail : String)
  | closeFailed (detail : String)
  | queryFailed (detail : String)
  | storeUnavailable (detail : String)
  | closed
  | invalidFingerprint (detail : String)
  | invalidLabel (detail : String)
  | invalidState (text : String)
deriving DecidableEq, Repr

/-- The wording of a fault. -/
def Fault.message : Fault → String
  | .writeFailed d => "state write failed: " ++ d
  | .flushFailed d => "state flush failed: " ++ d
  | .closeFailed d => "state appender close failed: " ++ d
  | .queryFailed d => "state query failed: " ++ d
  | .storeUnavailable d => "state store unavailable: " ++ d
  | .closed => "state appender is closed"
  | .invalidFingerprint d => "invalid fingerprint " ++ d
  | .invalidLabel d => "invalid label " ++ d
  | .invalidState s => "invalid alert state '" ++ s ++ "'"

end AlertLedger
