/-
# The last word on an alert or a group

What the authority in memory knows of an alert can be read off the operations that it was told of:
of the operations on this alert since its last deletion, the last one on silences says which these
are, and the last one on inhibitors says which those are (`Operation.statusAfter`). An operation of
the one kind leaves alone what those of the other kind have said, so it does not matter how the two
kinds are mixed. The mutes of a group are those of the last operation that muted it since it was
last unmuted.

So the authority has nothing in it that is not in this history. The main result is
`MemoryAuthority.last_write_wins`.
-/
import AlertLedger.Proofs.Authority.Memory
import Mathlib.Data.List.DropRight

namespace AlertLedger

open MemoryAuthority (settle)

/-! ### History -/

namespace Operation

/-- Whether an operation makes the authority forget an alert or a group. -/
def forgets : Operation → Bool
  | .delete _ | .unmute _ => true
  | .silence .. | .inhibit .. | .mute .. => false

/-- The operations on an alert or a group since it was last forgotten. -/
def since (s : Subject) (ops : List Operation) : List Operation :=
  (on s ops).rtakeWhile fun op => !op.forgets

/-- The silences that an operation speaks of: those that are active, those that will be, and their
version. -/
def silences? : Operation → Option (List String × List String × UInt64)
  | .silence _ version active pending => some (active, pending, version)
  | .inhibit .. | .delete _ | .mute .. | .unmute _ => none

/-- The inhibitors that an operation speaks of. -/
def inhibitors? : Operation → Option (List String)
  | .inhibit _ inhibitors => some inhibitors
  | .silence .. | .delete _ | .mute .. | .unmute _ => none

/-- The time intervals that an operation speaks of. -/
def intervals? : Operation → Option (List String)
  | .mute _ intervals => some intervals
  | .silence .. | .inhibit .. | .delete _ | .unmute _ => none

/-- What was said by the last of the operations that speak of something. -/
def lastOf {α : Type} (speaksOf : Operation → Option α) (ops : List Operation) : Option α :=
  (ops.filterMap speaksOf).getLast?

/-- The status of an alert by the operations on it since it was last deleted. -/
def statusAfter (ops : List Operation) : AlertStatus :=
  let silences := (lastOf silences? ops).getD ([], [], 0)
  settle
    { silencedBy := silences.1
      pendingSilences := silences.2.1
      silencesVersion := silences.2.2
      inhibitedBy := (lastOf inhibitors? ops).getD [] }

section

variable {s : Subject} {ops : List Operation} {op : Operation}

lemma since_concat_of_ne (h : op.subject ≠ s) : since s (ops ++ [op]) = since s ops := by
  simp [since, on, h]

lemma since_concat_of_forgets (h : op.subject = s) (hf : op.forgets) :
    since s (ops ++ [op]) = [] := by
  simp [since, on, h, hf]

lemma since_concat (h : op.subject = s) (hf : op.forgets = false) :
    since s (ops ++ [op]) = since s ops ++ [op] := by
  simp [since, on, h, hf]

lemma lastOf_concat {α : Type} (speaksOf : Operation → Option α) (ops : List Operation)
    (op : Operation) : lastOf speaksOf (ops ++ [op]) = (speaksOf op).or (lastOf speaksOf ops) := by
  rw [lastOf, List.filterMap_append, List.getLast?_append, lastOf]
  congr 1
  cases h : speaksOf op <;> simp [h]

/-- Since an alert was last deleted there have been operations on its causes only. -/
lemma speaks_of_mem_since {alert : Fingerprint} (h : op ∈ since (.alert alert) ops) :
    (silences? op).isSome ∨ (inhibitors? op).isSome := by
  have hkept : op.forgets = false := by simpa using List.mem_rtakeWhile_imp h
  have hon : op ∈ on (.alert alert) ops := (List.rtakeWhile_suffix _ _).subset h
  have halert : op.subject = .alert alert := by simpa using (List.mem_filter.mp hon).2
  cases op with
  | silence => exact .inl rfl
  | inhibit => exact .inr rfl
  | delete => cases hkept
  | mute | unmute => cases halert

end

/-- Of an alert that is not tracked the causes are those of one without history. -/
lemma settle_getD_statusAfter (said : List Operation) :
    settle ((if said = [] then none else some (statusAfter said)).getD {}) = statusAfter said := by
  split
  case isTrue h => rw [h]; rfl
  case isFalse => rfl

end Operation

namespace MemoryAuthority

open Operation (since lastOf statusAfter silences? inhibitors? intervals?)

/-- **What is known of an alert is its history since its last deletion.** -/
theorem find?_alerts_afterAll (ops : List Operation) (alert : Fingerprint) :
    (afterAll ops).alerts.find? alert =
      if since (.alert alert) ops = [] then none
      else some (statusAfter (since (.alert alert) ops)) := by
  induction ops using List.reverseRecOn with
  | nil => rfl
  | append_singleton ops op ih =>
    rw [afterAll_concat, find?_apply]
    by_cases halert : op.alert? = some alert
    · have hsubject := Operation.subject_eq_alert_iff.mpr halert
      -- The operation may start from the default status, which has no causes, as if nothing was said.
      have hknown : settle (((afterAll ops).alerts.find? alert).getD {})
          = statusAfter (since (.alert alert) ops) := by
        rw [ih, Operation.settle_getD_statusAfter]
      rw [if_pos halert]
      cases op with
      | silence ref version active pending =>
        rw [Operation.since_concat hsubject rfl, if_neg (by simp)]
        change some (settle { settle (((afterAll ops).alerts.find? alert).getD {}) with
          silencedBy := active, pendingSilences := pending, silencesVersion := version }) = _
        rw [hknown, statusAfter, statusAfter, Operation.lastOf_concat, Operation.lastOf_concat]
        rfl
      | inhibit ref inhibitors =>
        rw [Operation.since_concat hsubject rfl, if_neg (by simp)]
        change some (settle { settle (((afterAll ops).alerts.find? alert).getD {}) with
          inhibitedBy := inhibitors }) = _
        rw [hknown, statusAfter, statusAfter, Operation.lastOf_concat, Operation.lastOf_concat]
        rfl
      | delete =>
        rw [Operation.since_concat_of_forgets hsubject rfl]
        rfl
      | mute | unmute => cases halert
    · rw [if_neg halert, ih, Operation.since_concat_of_ne]
      exact mt Operation.subject_eq_alert_iff.mp halert

/-- The mutes of a group are the last ones since it was last unmuted. -/
theorem find?_groups_afterAll (ops : List Operation) (group : GroupKey) :
    (afterAll ops).groups.find? group = lastOf intervals? (since (.group group) ops) := by
  induction ops using List.reverseRecOn with
  | nil => rfl
  | append_singleton ops op ih =>
    rw [afterAll_concat, find?_groups_apply]
    by_cases hgroup : op.subject = .group group
    · rw [if_pos hgroup]
      cases op with
      | mute =>
        rw [Operation.since_concat hgroup rfl, Operation.lastOf_concat]
        rfl
      | unmute =>
        rw [Operation.since_concat_of_forgets hgroup rfl]
        rfl
      | silence | inhibit | delete => cases hgroup
    · rw [if_neg hgroup, ih, Operation.since_concat_of_ne hgroup]

/-- Silences and inhibitors of alerts may be set in either order. -/
lemma apply_silence_inhibit (ref ref' : AlertRef) (version : UInt64)
    (active pending inhibitors : List String) (a : MemoryAuthority) :
    Authority.apply (.silence ref version active pending)
        (Authority.apply (.inhibit ref' inhibitors) a)
      = Authority.apply (.inhibit ref' inhibitors)
        (Authority.apply (.silence ref version active pending) a) := by
  set silence : Operation := .silence ref version active pending
  set inhibit : Operation := .inhibit ref' inhibitors
  have halerts : (Authority.apply silence (Authority.apply inhibit a)).alerts
      = (Authority.apply inhibit (Authority.apply silence a)).alerts := by
    refine SortedMap.ext_find? ?_
    intro alert
    simp only [find?_apply]
    by_cases hs : silence.alert? = some alert <;> by_cases hi : inhibit.alert? = some alert <;>
      simp only [hs, hi, if_true, if_false]
    -- Both are about this alert. Whichever comes last settles it by the same causes.
    rfl
  exact congrArg (fun alerts => { a with alerts }) halerts

/-- **The last write wins, cause by cause.**  After any operations, the silences of an alert, with
those to come and their version, are what the last operation on its silences said since it was last
deleted, and its inhibitors are what the last operation on its inhibitors said since then. It is
tracked if there was an operation on either since then. So to silence and to inhibit are operations
that may change places. The mutes of a group, which is a pair of a route and a name, are what it was
last muted by since it was last unmuted, and they take effect unless there are none. -/
theorem last_write_wins (ops : List Operation) :
    (∀ alert,
      let said := since (.alert alert) ops
      let status := (afterAll ops).statusOf alert
      (status.silencedBy, status.pendingSilences, status.silencesVersion)
          = (lastOf silences? said).getD ([], [], 0) ∧
        status.inhibitedBy = (lastOf inhibitors? said).getD [] ∧
        ((afterAll ops).Tracks alert ↔
          ∃ op ∈ said, (silences? op).isSome ∨ (inhibitors? op).isSome)) ∧
      (∀ (ref ref' : AlertRef) (version : UInt64) (active pending inhibitors : List String),
        let silence : Operation := .silence ref version active pending
        let inhibit : Operation := .inhibit ref' inhibitors
        Authority.apply silence (Authority.apply inhibit (afterAll ops))
          = Authority.apply inhibit (Authority.apply silence (afterAll ops))) ∧
      ∀ group,
        let names := (lastOf intervals? (since (.group group) ops)).getD []
        (afterAll ops).mutesOf group = ⟨names, !names.isEmpty⟩ := by
  refine ⟨?_, ?_, ?_⟩
  · intro alert said status
    have hfind := find?_alerts_afterAll ops alert
    have hstatus : settle status = statusAfter said := by
      change settle (((afterAll ops).alerts.find? alert).getD {}) = _
      rw [hfind, Operation.settle_getD_statusAfter]
    refine ⟨?_, ?_, ?_⟩
    · exact congrArg
        (fun s : AlertStatus => (s.silencedBy, s.pendingSilences, s.silencesVersion)) hstatus
    · exact congrArg AlertStatus.inhibitedBy hstatus
    · rw [Tracks, hfind]
      constructor
      · intro htracked
        obtain ⟨op, hop⟩ : ∃ op, op ∈ said := by
          refine List.exists_mem_of_ne_nil _ ?_
          intro hnil
          rw [if_pos hnil] at htracked
          cases htracked
        exact ⟨op, hop, Operation.speaks_of_mem_since hop⟩
      · rintro ⟨op, hop, -⟩
        rw [if_neg (List.ne_nil_of_mem hop)]
        rfl
  · intro ref ref' version active pending inhibitors
    exact apply_silence_inhibit ref ref' version active pending inhibitors _
  · intro group names
    rw [mutesOf, find?_groups_afterAll]
    cases hlast : lastOf intervals? (since (.group group) ops) <;> simp [names, hlast]

end MemoryAuthority

end AlertLedger
