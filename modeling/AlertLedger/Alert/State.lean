/-
# States and suppression reasons

The four states an alert can be in and the two reasons for which it is suppressed, with their
names.
-/
import AlertLedger.Fault
import AlertLedger.Text.Named

namespace AlertLedger

/-- The states of an alert. -/
inductive AlertState where
  | unprocessed
  | active
  | suppressed
  | deleted
deriving DecidableEq, Repr, Inhabited

namespace AlertState

/-- All states. -/
def all : List AlertState := [.unprocessed, .active, .suppressed, .deleted]

/-- The name of a state. -/
def name : AlertState → String
  | .unprocessed => "unprocessed"
  | .active => "active"
  | .suppressed => "suppressed"
  | .deleted => "deleted"

instance : ToString AlertState := ⟨name⟩

/-- The states by name. -/
def spellings : List (String × AlertState) := all.map fun s => (s.name, s)

/-- Reads the name of a state in upper or lower case. -/
def parse (text : String) : Except Fault AlertState :=
  match Text.findSpelling? spellings text with
  | some s => .ok s
  | none => .error (.invalidState text)

end AlertState

/-- The reasons for which an alert is suppressed. -/
inductive SuppressionReason where
  | silenced
  | inhibited
deriving DecidableEq, Repr, Inhabited

namespace SuppressionReason

/-- All reasons. -/
def all : List SuppressionReason := [.silenced, .inhibited]

/-- The name of a reason. -/
def name : SuppressionReason → String
  | .silenced => "silenced"
  | .inhibited => "inhibited"

instance : ToString SuppressionReason := ⟨name⟩

/-- The reasons by name. -/
def spellings : List (String × SuppressionReason) := all.map fun r => (r.name, r)

/-- Reads the name of a reason in upper or lower case. A wrong name is reported as a wrong
state. -/
def parse (text : String) : Except Fault SuppressionReason :=
  match Text.findSpelling? spellings text with
  | some r => .ok r
  | none => .error (.invalidState text)

end SuppressionReason

end AlertLedger
