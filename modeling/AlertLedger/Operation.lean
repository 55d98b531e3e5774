/-
# Operations

The calls that change what is known of alerts and groups, as they are recorded in a stream. An
operation names its alert by fingerprint or by labels; what it does depends on the fingerprint
alone.
-/
import AlertLedger.LabelSet

namespace AlertLedger

/-- How an operation names its alert. -/
inductive AlertRef where
  | fingerprint (f : Fingerprint)
  | labels (l : LabelSet)
deriving DecidableEq

/-- The fingerprint of the alert that is named. -/
def AlertRef.resolve : AlertRef → Fingerprint
  | .fingerprint f => f
  | .labels l => l.fingerprint

/-- One aggregation group of one route. -/
structure GroupKey where
  route : String
  group : String
deriving DecidableEq, Repr, Inhabited

namespace GroupKey

/-- Keys by route first. -/
instance : Ord GroupKey := ⟨compareLex (compareOn route) (compareOn group)⟩

instance : Std.TransOrd GroupKey :=
  inferInstanceAs (Std.TransCmp (compareLex (compareOn route) (compareOn group)))

instance : Std.LawfulEqOrd GroupKey where
  compare_self {a} :=
    @Std.ReflCmp.compare_self _ (compareLex (compareOn route) (compareOn group)) _ a
  eq_of_compare {a b} h := by
    obtain ⟨h₁, h₂⟩ := Ordering.then_eq_eq.mp (show (compareOn route a b).then _ = .eq from h)
    cases a; cases b
    simp_all [compareOn]

end GroupKey

/-- The calls that change something. -/
inductive Operation where
  /-- The silences that match the alert now, active and pending, as of a version. -/
  | silence (alert : AlertRef) (version : UInt64) (active pending : List String)
  /-- The alerts that inhibit the alert now. -/
  | inhibit (alert : AlertRef) (inhibitors : List String)
  /-- The alert is gone. -/
  | delete (alert : AlertRef)
  /-- The time intervals that mute the group now. -/
  | mute (group : GroupKey) (intervals : List String)
  /-- The group is gone. -/
  | unmute (group : GroupKey)
deriving DecidableEq

namespace Operation

/-- The alert that an operation is about; operations on groups are about none. -/
def alert? : Operation → Option Fingerprint
  | .silence a .. | .inhibit a _ | .delete a => some a.resolve
  | .mute .. | .unmute .. => none

end Operation

end AlertLedger
