/-
# The authority in memory

Keeps the status of every alert it has been told of and the mutes of every group. An alert is
suppressed as long as it has active silences or inhibitors, and active otherwise; the two causes
are set separately and neither touches the other. An alert that was never mentioned, or deleted
since, has the default status.
-/
import AlertLedger.Authority
import AlertLedger.SortedMap

namespace AlertLedger

/-- The statuses of the tracked alerts and the mutes of the groups. -/
structure MemoryAuthority where
  alerts : SortedMap Fingerprint AlertStatus := .empty
  groups : SortedMap GroupKey (List String) := .empty
deriving DecidableEq

namespace MemoryAuthority

/-- The authority that knows of nothing. -/
def empty : MemoryAuthority := {}

instance : Inhabited MemoryAuthority := ⟨empty⟩

/-- The status of an alert. -/
def statusOf (a : MemoryAuthority) (alert : Fingerprint) : AlertStatus :=
  (a.alerts.find? alert).getD {}

/-- A status with the state that its causes call for. -/
def settle (s : AlertStatus) : AlertStatus :=
  { s with
    state := if s.silencedBy.isEmpty && s.inhibitedBy.isEmpty then .active else .suppressed }

/-- Records the silences that match an alert. -/
def silence (alert : Fingerprint) (version : UInt64) (active pending : List String)
    (a : MemoryAuthority) : MemoryAuthority :=
  { a with
    alerts := a.alerts.insert alert <| settle
      { a.statusOf alert with
        silencedBy := active, pendingSilences := pending, silencesVersion := version } }

/-- Records the alerts that inhibit an alert. -/
def inhibit (alert : Fingerprint) (inhibitors : List String) (a : MemoryAuthority) :
    MemoryAuthority :=
  { a with
    alerts := a.alerts.insert alert <| settle
      { a.statusOf alert with inhibitedBy := inhibitors } }

/-- Forgets an alert. -/
def delete (alert : Fingerprint) (a : MemoryAuthority) : MemoryAuthority :=
  { a with alerts := a.alerts.erase alert }

/-- Records the time intervals that mute a group. -/
def mute (group : GroupKey) (intervals : List String) (a : MemoryAuthority) : MemoryAuthority :=
  { a with groups := a.groups.insert group intervals }

/-- Forgets a group. -/
def unmute (group : GroupKey) (a : MemoryAuthority) : MemoryAuthority :=
  { a with groups := a.groups.erase group }

/-- The number of tracked alerts in any of the states; all of them for no states. -/
def countIn (a : MemoryAuthority) (states : List AlertState) : Nat :=
  if states.isEmpty then a.alerts.size
  else a.alerts.values.countP fun s => states.contains s.state

/-- The silences of an alert. -/
def silencesOf (a : MemoryAuthority) (alert : Fingerprint) : SilenceReport :=
  let s := a.statusOf alert
  ⟨s.silencedBy, s.pendingSilences, s.silencesVersion, s.isSilenced⟩

/-- The inhibitors of an alert. -/
def inhibitorsOf (a : MemoryAuthority) (alert : Fingerprint) : EffectReport :=
  let s := a.statusOf alert
  ⟨s.inhibitedBy, s.isInhibited⟩

/-- The mutes of a group. -/
def mutesOf (a : MemoryAuthority) (group : GroupKey) : EffectReport :=
  match a.groups.find? group with
  | some names => ⟨names, !names.isEmpty⟩
  | none => {}

instance : Authority MemoryAuthority where
  silence := silence
  inhibit := inhibit
  delete := delete
  mute := mute
  unmute := unmute
  status alert := do return (← get).statusOf alert
  unprocessed alert := do return ((← get).statusOf alert).state == .unprocessed
  active alert := do return ((← get).statusOf alert).state == .active
  silenced alert := do return (← get).silencesOf alert
  inhibited alert := do return (← get).inhibitorsOf alert
  count states := do return (← get).countIn states
  muted group := do return (← get).mutesOf group

end MemoryAuthority

end AlertLedger
