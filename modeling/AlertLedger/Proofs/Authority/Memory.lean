/-
# What operations make of the authority in memory

An operation is about one alert or about one group (`Subject`), and leaves everything else alone.
What it makes of its alert depends on nothing but what was known of that alert (`Operation.revise`),
and what it makes of the mutes of its group on nothing but those mutes (`Operation.remute`), so the
authority can be followed alert by alert and group by group (`MemoryAuthority.find?_apply`,
`MemoryAuthority.find?_groups_apply`). Every status that an operation leaves behind is settled: its
state is the one that its causes call for.

Once an operation is applied, applying it again changes nothing (`MemoryAuthority.apply_apply`). The
states that the authority can be in are those that a stream of operations leaves behind
(`MemoryAuthority.afterAll`).
-/
import AlertLedger.Authority.Memory
import AlertLedger.Proofs.SortedMap
import Mathlib.Data.List.Induction
import Mathlib.Tactic.Tauto

namespace AlertLedger

open MemoryAuthority (settle)

/-! ### Settled statuses -/

/-- A status whose state is the one that its silences and inhibitors call for. -/
def AlertStatus.Settled (s : AlertStatus) : Prop := settle s = s

namespace AlertStatus.Settled

variable {s : AlertStatus}

lemma of_settle (s : AlertStatus) : (settle s).Settled := rfl

lemma state_eq (h : s.Settled) :
    s.state = if s.silencedBy = [] ∧ s.inhibitedBy = [] then .active else .suppressed := by
  have hs : (settle s).state = s.state := congrArg AlertStatus.state h
  rw [← hs]
  simp [settle]

lemma active_iff (h : s.Settled) : s.state = .active ↔ s.silencedBy = [] ∧ s.inhibitedBy = [] := by
  rw [h.state_eq]
  split <;> simp_all

lemma suppressed_iff (h : s.Settled) :
    s.state = .suppressed ↔ s.silencedBy ≠ [] ∨ s.inhibitedBy ≠ [] := by
  rw [h.state_eq]
  split <;> simp_all
  tauto

lemma active_or_suppressed (h : s.Settled) : s.state = .active ∨ s.state = .suppressed := by
  rw [h.state_eq]
  split <;> simp

lemma isSilenced_iff (h : s.Settled) : s.isSilenced ↔ s.silencedBy ≠ [] := by
  have := h.suppressed_iff
  simp [isSilenced]
  tauto

lemma isInhibited_iff (h : s.Settled) : s.isInhibited ↔ s.inhibitedBy ≠ [] := by
  have := h.suppressed_iff
  simp [isInhibited]
  tauto

/-- A settled status is not that of an alert never seen. -/
lemma ne_default (h : s.Settled) : s ≠ {} := by
  rintro rfl
  rcases h.active_or_suppressed with h | h <;> cases h

end AlertStatus.Settled

/-! ### One alert -/

/-- What an operation makes of what is known of its alert. Of an alert that is not tracked nothing
is known, and the default status is what its first operation starts from. -/
def Operation.revise (op : Operation) (known : Option AlertStatus) : Option AlertStatus :=
  match op with
  | .silence _ version active pending =>
    some <| settle
      { known.getD {} with
        silencedBy := active, pendingSilences := pending, silencesVersion := version }
  | .inhibit _ inhibitors => some <| settle { known.getD {} with inhibitedBy := inhibitors }
  | .delete _ => none
  | .mute .. | .unmute _ => known

/-- Operations leave settled statuses. -/
lemma Operation.settled_revise (op : Operation) {known : Option AlertStatus}
    (h : ∀ s ∈ known, s.Settled) : ∀ s ∈ op.revise known, s.Settled := by
  intro s hs
  cases op with
  | silence | inhibit =>
    obtain rfl := Option.some.inj hs
    exact .of_settle _
  | delete => cases hs
  | mute | unmute => exact h s hs

namespace MemoryAuthority

/-- Whether an alert is tracked. -/
def Tracks (a : MemoryAuthority) (alert : Fingerprint) : Prop := (a.alerts.find? alert).isSome

/-- What is known of an alert after an operation. -/
lemma find?_apply (op : Operation) (a : MemoryAuthority) (alert : Fingerprint) :
    (Authority.apply op a).alerts.find? alert =
      if op.alert? = some alert then op.revise (a.alerts.find? alert)
      else a.alerts.find? alert := by
  cases op with
  | silence ref version active pending =>
    rw [show (Authority.apply (.silence ref version active pending) a).alerts
      = a.alerts.insert ref.resolve _ from rfl, SortedMap.find?_insert]
    by_cases h : alert = ref.resolve
    · subst h
      simp [Operation.alert?, Operation.revise, statusOf]
    · simp [Operation.alert?, h, Ne.symm h]
  | inhibit ref inhibitors =>
    rw [show (Authority.apply (.inhibit ref inhibitors) a).alerts
      = a.alerts.insert ref.resolve _ from rfl, SortedMap.find?_insert]
    by_cases h : alert = ref.resolve
    · subst h
      simp [Operation.alert?, Operation.revise, statusOf]
    · simp [Operation.alert?, h, Ne.symm h]
  | delete ref =>
    rw [show (Authority.apply (.delete ref) a).alerts = a.alerts.erase ref.resolve from rfl,
      SortedMap.find?_erase]
    by_cases h : alert = ref.resolve
    · subst h
      simp [Operation.alert?, Operation.revise]
    · simp [Operation.alert?, h, Ne.symm h]
  | mute => rfl
  | unmute => rfl

/-- The status of its own alert after an operation. -/
lemma statusOf_apply (op : Operation) (a : MemoryAuthority) {alert : Fingerprint}
    (h : op.alert? = some alert) :
    (Authority.apply op a).statusOf alert = (op.revise (a.alerts.find? alert)).getD {} := by
  rw [statusOf, find?_apply, if_pos h]

end MemoryAuthority

/-! ### One group -/

/-- What can be spoken of: one alert, or one group of one route. -/
inductive Subject where
  | alert (f : Fingerprint)
  | group (g : GroupKey)
deriving DecidableEq

namespace Operation

/-- What an operation is about. -/
def subject : Operation → Subject
  | .silence a .. | .inhibit a _ | .delete a => .alert a.resolve
  | .mute g _ | .unmute g => .group g

lemma subject_eq_alert_iff {op : Operation} {alert : Fingerprint} :
    op.subject = .alert alert ↔ op.alert? = some alert := by
  cases op <;> simp [subject, alert?]

/-- The operations on one alert or on one group. -/
def on (s : Subject) (ops : List Operation) : List Operation := ops.filter fun op => op.subject = s

/-- What an operation makes of the mutes of its group. -/
def remute (op : Operation) (mutes : Option (List String)) : Option (List String) :=
  match op with
  | .mute _ intervals => some intervals
  | .unmute _ => none
  | .silence .. | .inhibit .. | .delete _ => mutes

end Operation

namespace MemoryAuthority

/-- The mutes of a group after an operation. Keys are pairs, so a group of another route is another
group even if the names read the same one after the other. -/
lemma find?_groups_apply (op : Operation) (a : MemoryAuthority) (group : GroupKey) :
    (Authority.apply op a).groups.find? group =
      if op.subject = .group group then op.remute (a.groups.find? group)
      else a.groups.find? group := by
  cases op with
  | mute key intervals =>
    rw [show (Authority.apply (.mute key intervals) a).groups = a.groups.insert key intervals from rfl,
      SortedMap.find?_insert]
    simp only [Operation.subject, Operation.remute, Subject.group.injEq, eq_comm]
  | unmute key =>
    rw [show (Authority.apply (.unmute key) a).groups = a.groups.erase key from rfl,
      SortedMap.find?_erase]
    simp only [Operation.subject, Operation.remute, Subject.group.injEq, eq_comm]
  | silence | inhibit | delete => rfl

/-! ### Repetition -/

/-- An operation that was just applied changes nothing. -/
lemma apply_apply (op : Operation) (a : MemoryAuthority) :
    Authority.apply op (Authority.apply op a) = Authority.apply op a := by
  cases op with
  | silence ref version active pending =>
    have hs := statusOf_apply (.silence ref version active pending) a rfl
    change silence _ _ _ _ (silence _ _ _ _ a) = silence _ _ _ _ a
    change (silence _ _ _ _ a).statusOf _ = _ at hs
    rw [silence, hs]
    simp only [silence, SortedMap.insert_insert]
    rfl
  | inhibit ref inhibitors =>
    have hs := statusOf_apply (.inhibit ref inhibitors) a rfl
    change inhibit _ _ (inhibit _ _ a) = inhibit _ _ a
    change (inhibit _ _ a).statusOf _ = _ at hs
    rw [inhibit, hs]
    simp only [inhibit, SortedMap.insert_insert]
    rfl
  | delete ref =>
    exact congrArg (fun alerts => { a with alerts }) (a.alerts.erase_erase ref.resolve)
  | mute group intervals =>
    exact congrArg (fun groups => { a with groups })
      (a.groups.insert_insert group intervals intervals)
  | unmute group =>
    exact congrArg (fun groups => { a with groups }) (a.groups.erase_erase group)

/-! ### Streams of operations -/

/-- The authority that operations leave behind, where nothing was known before. -/
def afterAll (ops : List Operation) : MemoryAuthority :=
  ops.foldl (fun a op => Authority.apply op a) .empty

lemma afterAll_concat (ops : List Operation) (op : Operation) :
    afterAll (ops ++ [op]) = Authority.apply op (afterAll ops) := by
  rw [afterAll, List.foldl_append]
  rfl

/-- All statuses are settled, whatever the operations were. -/
lemma settled_afterAll (ops : List Operation) (alert : Fingerprint) :
    ∀ s ∈ (afterAll ops).alerts.find? alert, s.Settled := by
  induction ops using List.reverseRecOn with
  | nil =>
    intro s hs
    cases hs
  | append_singleton ops op ih =>
    rw [afterAll_concat, find?_apply]
    split
    · exact op.settled_revise ih
    · exact ih

end MemoryAuthority

end AlertLedger
