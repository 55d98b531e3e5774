/-
# Events in JSON

The JSON form of an event is also the form in which a store keeps it.
-/
import AlertLedger.Alert.Event
import AlertLedger.Encoding.Alert

namespace AlertLedger.StateEvent

open Json (Value Written)

/-- The fields of an event in their order. -/
def fields : List String :=
  ["id", "created_at_ns", "fingerprint", "state", "suppressed_by", "suppressed_reason"]

/-- An event is an object of its fields; the two about suppression are left out when there is
nothing to say. -/
def toJson (e : StateEvent) : Value :=
  .object <|
    [("id", .string e.id.render), ("created_at_ns", .ofWord e.createdAtNs),
      ("fingerprint", e.fingerprint.toJson), ("state", e.state.toJson)]
    ++ e.suppressedBy.toList.map (fun s => ("suppressed_by", .string s))
    ++ e.suppressedReason.toList.map (fun r => ("suppressed_reason", r.toJson))

/-- Reads an event; other members are ignored. -/
def readAs? (urnCase : UrnCase) (v : Written) : Option StateEvent := do
  let given ← v.record? fields false
  let id ← Json.required given "id" fun v => v.string?.bind (Uuid.readAs? urnCase)
  let createdAtNs ← Json.required given "created_at_ns" Value.word?
  let fingerprint ← Json.required given "fingerprint" Fingerprint.ofJson?
  let state ← Json.required given "state" AlertState.ofJson?
  let suppressedBy ← Json.optional given "suppressed_by" (Value.nullable? Value.string?) none
  let suppressedReason ←
    Json.optional given "suppressed_reason" (Value.nullable? SuppressionReason.ofJson?) none
  return { id, createdAtNs, fingerprint, state, suppressedBy, suppressedReason }

/-- Reads an event, whose id may be a URN with letters in either case. -/
def ofJson? (v : Written) : Option StateEvent := readAs? .any v

/-- The bytes that a store keeps for an event. -/
def encode (e : StateEvent) : List UInt8 := Text.encode e.toJson.render

/-- The event for which a store keeps the bytes, if they are one. -/
def decode? (urnCase : UrnCase) (bytes : List UInt8) : Option StateEvent :=
  (Written.parse? bytes).bind (readAs? urnCase)

end AlertLedger.StateEvent
