/-
# Status authorities

An authority knows the status of alerts and which groups are muted. It is told of silences,
inhibitors, deletions and mutes, and decides by itself what becomes of an alert; callers learn
that only by asking. Asking may leave a mark on it too, so a query gives a new authority along
with its answer.
-/
import AlertLedger.Alert.Status
import AlertLedger.Operation

namespace AlertLedger

/-- The silences of an alert and whether they count: those that are active, those that will be,
their version, and whether the alert is silenced. -/
structure SilenceReport where
  active : List String := []
  pending : List String := []
  version : UInt64 := 0
  silenced : Bool := false
deriving DecidableEq, Repr, Inhabited

/-- Names that bear on an alert or a group, and whether they take effect: the inhibitors of an
alert, or the time intervals that mute a group. -/
structure EffectReport where
  names : List String := []
  inEffect : Bool := false
deriving DecidableEq, Repr, Inhabited

/-- What can be asked of an authority with states in `σ`, and what it can be told. -/
class Authority (σ : Type) where
  silence : Fingerprint → UInt64 → (active pending : List String) → σ → σ
  inhibit : Fingerprint → (inhibitors : List String) → σ → σ
  delete : Fingerprint → σ → σ
  mute : GroupKey → (intervals : List String) → σ → σ
  unmute : GroupKey → σ → σ
  status : Fingerprint → StateM σ AlertStatus
  unprocessed : Fingerprint → StateM σ Bool
  active : Fingerprint → StateM σ Bool
  silenced : Fingerprint → StateM σ SilenceReport
  inhibited : Fingerprint → StateM σ EffectReport
  /-- The number of tracked alerts in any of the states; all of them for no states. -/
  count : List AlertState → StateM σ Nat
  muted : GroupKey → StateM σ EffectReport

namespace Authority

variable {σ : Type} [Authority σ]

/-- The authority after an operation. -/
def apply (op : Operation) (a : σ) : σ :=
  match op with
  | .silence alert version active pending => silence alert.resolve version active pending a
  | .inhibit alert inhibitors => inhibit alert.resolve inhibitors a
  | .delete alert => delete alert.resolve a
  | .mute group intervals => mute group intervals a
  | .unmute group => unmute group a

end Authority

end AlertLedger
