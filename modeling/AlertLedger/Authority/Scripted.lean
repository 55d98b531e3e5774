/-
# The scripted authority

An authority that changes nothing: it notes every call and gives the answers that it was last
told to give. It shows which calls a caller makes, in which order, and that the caller goes by the
answers alone.
-/
import AlertLedger.Authority

namespace AlertLedger

/-- The calls on an authority. -/
inductive AuthorityCall where
  | silence (alert : Fingerprint) (version : UInt64) (active pending : List String)
  | inhibit (alert : Fingerprint) (inhibitors : List String)
  | delete (alert : Fingerprint)
  | mute (group : GroupKey) (intervals : List String)
  | unmute (group : GroupKey)
  | status (alert : Fingerprint)
  | unprocessed (alert : Fingerprint)
  | active (alert : Fingerprint)
  | silenced (alert : Fingerprint)
  | inhibited (alert : Fingerprint)
  | count (states : List AlertState)
  | muted (group : GroupKey)
deriving DecidableEq, Repr

/-- The answers of a scripted authority. -/
structure Script where
  status : AlertStatus := {}
  unprocessed : Bool := false
  active : Bool := false
  silenced : SilenceReport := {}
  inhibited : EffectReport := {}
  count : Nat := 0
  muted : EffectReport := {}
deriving DecidableEq, Repr, Inhabited

/-- A scripted authority: its answers, and the calls so far. -/
structure ScriptedAuthority where
  script : Script := {}
  calls : List AuthorityCall := []
deriving DecidableEq, Repr, Inhabited

namespace ScriptedAuthority

/-- The authority with one more call. -/
def note (c : AuthorityCall) (a : ScriptedAuthority) : ScriptedAuthority :=
  { a with calls := a.calls ++ [c] }

/-- Notes a query and answers it. -/
def answer {α : Type} (c : AuthorityCall) (field : Script → α) : StateM ScriptedAuthority α := do
  modify (note c)
  return field (← get).script

instance : Authority ScriptedAuthority where
  silence alert version active pending := note (.silence alert version active pending)
  inhibit alert inhibitors := note (.inhibit alert inhibitors)
  delete alert := note (.delete alert)
  mute group intervals := note (.mute group intervals)
  unmute group := note (.unmute group)
  status alert := answer (.status alert) (·.status)
  unprocessed alert := answer (.unprocessed alert) (·.unprocessed)
  active alert := answer (.active alert) (·.active)
  silenced alert := answer (.silenced alert) (·.silenced)
  inhibited alert := answer (.inhibited alert) (·.inhibited)
  count states := answer (.count states) (·.count)
  muted group := answer (.muted group) (·.muted)

end ScriptedAuthority

end AlertLedger
