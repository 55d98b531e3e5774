/-
# Events read back

The bytes that a store keeps for an event are read as that event again, whatever text names the
inhibitor (`StateEvent.decode?_encode`).
-/
import AlertLedger.Encoding.Event
import AlertLedger.Proofs.Fingerprint
import AlertLedger.Proofs.Json.Value
import AlertLedger.Proofs.Uuid

namespace AlertLedger

open Json (Value)

/-! ### Fields -/

lemma Fingerprint.ofJson?_toJson (f : Fingerprint) : ofJson? f.toJson = some f := by
  rw [toJson, ofJson?, parse_render]
  rfl

lemma AlertState.ofJson?_toJson (s : AlertState) : ofJson? s.toJson = some s := by
  cases s <;> rfl

lemma SuppressionReason.ofJson?_toJson (r : SuppressionReason) : ofJson? r.toJson = some r := by
  cases r <;> rfl

lemma Json.Value.word?_ofWord (n : UInt64) : (ofWord n).word? = some n := by
  rw [ofWord, word?, if_pos n.toNat_lt, UInt64.ofNat_toNat]

/-! ### Events -/

namespace StateEvent

/-- The members of an event as a JSON object. -/
def members (e : StateEvent) : List (String × Value) :=
  [("id", .string e.id.render), ("created_at_ns", .ofWord e.createdAtNs),
      ("fingerprint", e.fingerprint.toJson), ("state", e.state.toJson)]
    ++ e.suppressedBy.toList.map (fun s => ("suppressed_by", .string s))
    ++ e.suppressedReason.toList.map (fun r => ("suppressed_reason", r.toJson))

lemma toJson_eq (e : StateEvent) : e.toJson = .object e.members := rfl

lemma readable_of_mem_members {e : StateEvent} {m : String × Value} (h : m ∈ e.members) :
    m.2.Readable Json.maxDepth := by
  simp only [members, List.mem_append, List.mem_cons, List.not_mem_nil, or_false, List.mem_map]
    at h
  rcases h with ((rfl | rfl | rfl | rfl) | ⟨s, -, rfl⟩) | ⟨r, -, rfl⟩
  · trivial
  · exact e.createdAtNs.toNat_lt
  · trivial
  · trivial
  · trivial
  · trivial

/-- All members of an event are fields, none of them twice. -/
lemma record?_toJson (e : StateEvent) : e.toJson.record? fields false = some e.members := by
  obtain ⟨id, createdAtNs, fingerprint, state, suppressedBy, suppressedReason⟩ := e
  rw [toJson_eq, Value.record?, Json.pickFields?]
  cases suppressedBy <;> cases suppressedReason <;> rfl

/-- What an event has in its fields. -/
lemma lookup_members (e : StateEvent) :
    e.members.lookup "id" = some (.string e.id.render) ∧
      e.members.lookup "created_at_ns" = some (.ofWord e.createdAtNs) ∧
      e.members.lookup "fingerprint" = some e.fingerprint.toJson ∧
      e.members.lookup "state" = some e.state.toJson ∧
      e.members.lookup "suppressed_by" = e.suppressedBy.map .string ∧
      e.members.lookup "suppressed_reason" = e.suppressedReason.map SuppressionReason.toJson := by
  obtain ⟨id, createdAtNs, fingerprint, state, suppressedBy, suppressedReason⟩ := e
  cases suppressedBy <;> cases suppressedReason <;> exact ⟨rfl, rfl, rfl, rfl, rfl, rfl⟩

lemma optional_suppressedBy (e : StateEvent) :
    Json.optional e.members "suppressed_by" (Value.nullable? Value.string?) none
      = some e.suppressedBy := by
  obtain ⟨-, -, -, -, h, -⟩ := lookup_members e
  rw [Json.optional, h]
  cases e.suppressedBy <;> rfl

lemma optional_suppressedReason (e : StateEvent) :
    Json.optional e.members "suppressed_reason" (Value.nullable? SuppressionReason.ofJson?) none
      = some e.suppressedReason := by
  obtain ⟨-, -, -, -, -, h⟩ := lookup_members e
  rw [Json.optional, h]
  cases hr : e.suppressedReason with
  | none => rfl
  | some r => exact congrArg (Option.map some) r.ofJson?_toJson

/-- **An event is read back from the bytes that a store keeps for it.** -/
theorem decode?_encode (urnCase : UrnCase) (e : StateEvent) : decode? urnCase e.encode = some e := by
  have hrecord : e.toJson.written.record? fields false = some e.members := by
    rw [toJson_eq, Value.record?_written _ _ fun m => readable_of_mem_members, ← toJson_eq,
      record?_toJson]
  obtain ⟨hid, htime, hfingerprint, hstate, -, -⟩ := lookup_members e
  rw [decode?, encode, Value.parse?_render_written, Option.bind_some, readAs?, hrecord]
  simp only [Option.bind_eq_bind, Option.bind_some, Option.pure_def, Json.required, hid, htime,
    hfingerprint, hstate, Value.string?, Uuid.readAs?_render, Json.Value.word?_ofWord,
    Fingerprint.ofJson?_toJson, AlertState.ofJson?_toJson, optional_suppressedBy,
    optional_suppressedReason]

end StateEvent

end AlertLedger
