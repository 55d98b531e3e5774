/-
# Alerts in JSON

The JSON forms of fingerprints, label sets, references to alerts and statuses.
-/
import AlertLedger.Alert.Status
import AlertLedger.Json.Record
import AlertLedger.Operation

namespace AlertLedger

open Json (Value Written)

/-! ## Fingerprints and labels -/

/-- A fingerprint is its written form. -/
def Fingerprint.toJson (f : Fingerprint) : Value := .string f.render

/-- Reads a fingerprint. -/
def Fingerprint.ofJson? : Value → Option Fingerprint
  | .string s => (parse s).toOption
  | _ => none

/-- A label set is an object with the names in ascending order. -/
def LabelSet.toJson (l : LabelSet) : Value :=
  .object (l.toList.map fun p => (p.1, .string p.2))

/-- Reads a label set; of several values for one name the last one counts. -/
def LabelSet.ofJson? : Value → Option LabelSet
  | .object members =>
    (members.mapM fun (p : String × Value) => p.2.string?.map fun s => (p.1, s)).map ofList
  | _ => none

/-- A reference is what it holds. -/
def AlertRef.toJson : AlertRef → Value
  | .fingerprint f => f.toJson
  | .labels l => l.toJson

/-- Reads a reference: a string is a fingerprint and an object a label set. -/
def AlertRef.ofJson? (v : Value) : Option AlertRef :=
  ((Fingerprint.ofJson? v).map .fingerprint).or ((LabelSet.ofJson? v).map .labels)

/-! ## Statuses -/

/-- A state is its name. -/
def AlertState.toJson (s : AlertState) : Value := .string s.name

/-- Reads a state by its exact name. -/
def AlertState.ofJson? : Value → Option AlertState := Value.named? spellings

/-- A reason is its name. -/
def SuppressionReason.toJson (r : SuppressionReason) : Value := .string r.name

/-- Reads a reason by its exact name. -/
def SuppressionReason.ofJson? : Value → Option SuppressionReason := Value.named? spellings

namespace AlertStatus

/-- The fields of a status in their order. -/
def fields : List String :=
  ["state", "silenced_by", "inhibited_by", "pending_silences", "silences_version"]

/-- A status is an object of all its fields. -/
def toJson (s : AlertStatus) : Value :=
  .object [("state", s.state.toJson), ("silenced_by", .ofStrings s.silencedBy),
    ("inhibited_by", .ofStrings s.inhibitedBy),
    ("pending_silences", .ofStrings s.pendingSilences),
    ("silences_version", .ofWord s.silencesVersion)]

/-- Reads a status; all but the state may be left out. -/
def ofJson? (v : Written) : Option AlertStatus := do
  let given ← v.record? fields false
  let state ← Json.required given "state" AlertState.ofJson?
  let silencedBy ← Json.optional given "silenced_by" Value.strings? []
  let inhibitedBy ← Json.optional given "inhibited_by" Value.strings? []
  let pendingSilences ← Json.optional given "pending_silences" Value.strings? []
  let silencesVersion ← Json.optional given "silences_version" Value.word? 0
  return { state, silencedBy, inhibitedBy, pendingSilences, silencesVersion }

end AlertStatus

end AlertLedger
