/-
# Tracked alerts

The authority in memory tracks an alert from the first operation on its silences or its inhibitors
until it is deleted. As long as it is tracked it is active or suppressed, by its causes, and it is
unprocessed when it is not; so of these three verdicts just one holds at any time
(`MemoryAuthority.verdicts`).

To count the alerts in some states the authority goes through the statuses that it keeps. What it
gets is the number of tracked alerts whose state is among those, however often the states are named
(`MemoryAuthority.countIn_eq`). The active and the suppressed ones together are all tracked ones
(`MemoryAuthority.countIn_nil_eq_add`), and of other ones there are none.
-/
import AlertLedger.Proofs.Authority.Memory
import Mathlib.Data.Set.Card

namespace AlertLedger

/-! ### The size of a map -/

namespace SortedMap

variable {κ ν : Type _} [Ord κ] [Std.TransOrd κ] [Std.LawfulEqOrd κ]

omit [Std.LawfulEqOrd κ] in
lemma nodup_keys (m : SortedMap κ ν) : m.keys.Nodup := by
  refine m.ascending_keys.imp ?_
  rintro k _ h rfl
  simp at h

/-- There are as many entries as there are keys under which something is found. -/
lemma ncard_find? (m : SortedMap κ ν) : {k | (m.find? k).isSome}.ncard = m.size := by
  classical
  have hkeys : {k | (m.find? k).isSome} = ↑m.keys.toFinset := by
    ext k
    rw [List.coe_toFinset]
    exact mem_keys_iff.symm
  rw [hkeys, Set.ncard_coe_finset, List.toFinset_card_of_nodup m.nodup_keys, keys, List.length_map,
    size]

omit [Std.TransOrd κ] [Std.LawfulEqOrd κ] in
lemma size_restrict (m : SortedMap κ ν) (p : ν → Bool) :
    (m.restrict p).size = m.values.countP p := by
  rw [values, List.countP_map, List.countP_eq_length_filter]
  rfl

end SortedMap

namespace MemoryAuthority

/-! ### Verdicts -/

/-- An alert that is not tracked has the default status, and one that is has a settled one. -/
lemma tracks_cases (ops : List Operation) (alert : Fingerprint) :
    ¬(afterAll ops).Tracks alert ∧ (afterAll ops).statusOf alert = {} ∨
      (afterAll ops).Tracks alert ∧ ((afterAll ops).statusOf alert).Settled := by
  have hsettled := settled_afterAll ops alert
  rw [Tracks, statusOf]
  cases hfind : (afterAll ops).alerts.find? alert with
  | none => exact .inl ⟨by simp, rfl⟩
  | some s => exact .inr ⟨rfl, hsettled s hfind⟩

/-- No alert has the state of a deleted one: it is forgotten instead. -/
lemma state_cases (ops : List Operation) (alert : Fingerprint) :
    ((afterAll ops).statusOf alert).state = .unprocessed ∨
      ((afterAll ops).statusOf alert).state = .active ∨
      ((afterAll ops).statusOf alert).state = .suppressed := by
  rcases tracks_cases ops alert with ⟨-, hstatus⟩ | ⟨-, hsettled⟩
  · exact .inl (congrArg AlertStatus.state hstatus)
  · exact .inr hsettled.active_or_suppressed

/-- **Every verdict on an alert follows from its causes.**  A tracked alert is active if it has
neither silences nor inhibitors, and suppressed otherwise. Any alert is silenced if it has silences,
inhibited if it has inhibitors, and unprocessed if it is not tracked. -/
theorem verdicts (ops : List Operation) (alert : Fingerprint) :
    let a := afterAll ops
    (a.Tracks alert → (a.statusOf alert).state =
        if (a.statusOf alert).silencedBy = [] ∧ (a.statusOf alert).inhibitedBy = [] then .active
        else .suppressed) ∧
      ((a.silencesOf alert).silenced ↔ (a.silencesOf alert).active ≠ []) ∧
      ((a.inhibitorsOf alert).inEffect ↔ (a.inhibitorsOf alert).names ≠ []) ∧
      ((a.statusOf alert).state = .unprocessed ↔ ¬a.Tracks alert) := by
  intro a
  change _ ∧ ((a.statusOf alert).isSilenced ↔ (a.statusOf alert).silencedBy ≠ []) ∧
    ((a.statusOf alert).isInhibited ↔ (a.statusOf alert).inhibitedBy ≠ []) ∧ _
  rcases tracks_cases ops alert with ⟨htracks, hstatus⟩ | ⟨htracks, hsettled⟩
  · change a.statusOf alert = {} at hstatus
    rw [hstatus]
    exact ⟨(absurd · htracks), by decide, by decide, iff_of_true rfl htracks⟩
  · have hne : (a.statusOf alert).state ≠ .unprocessed := by
      rcases hsettled.active_or_suppressed with h | h <;> simp [a, h]
    exact ⟨fun _ => hsettled.state_eq, hsettled.isSilenced_iff, hsettled.isInhibited_iff,
      iff_of_false hne (not_not_intro htracks)⟩

/-! ### What is counted -/

/-- The tracked alerts. -/
def tracked (a : MemoryAuthority) : Set Fingerprint := {alert | a.Tracks alert}

/-- The tracked alerts in any of the states. -/
def trackedIn (a : MemoryAuthority) (states : List AlertState) : Set Fingerprint :=
  {alert | a.Tracks alert ∧ (a.statusOf alert).state ∈ states}

section

variable (a : MemoryAuthority)

/-- For no states, all tracked alerts are counted. -/
lemma countIn_nil : a.countIn [] = a.tracked.ncard :=
  a.alerts.ncard_find?.symm

/-- For some states, the tracked alerts in any of them are counted. -/
theorem countIn_eq {states : List AlertState} (h : states ≠ []) :
    a.countIn states = (a.trackedIn states).ncard := by
  have hset : a.trackedIn states
      = {alert | ((a.alerts.restrict fun s => states.contains s.state).find? alert).isSome} := by
    ext alert
    change (a.alerts.find? alert).isSome ∧ ((a.alerts.find? alert).getD {}).state ∈ states
      ↔ ((a.alerts.restrict _).find? alert).isSome
    rw [SortedMap.find?_restrict]
    cases a.alerts.find? alert with
    | none => simp
    | some s => by_cases hs : s.state ∈ states <;> simp [hs]
  rw [hset, SortedMap.ncard_find?, SortedMap.size_restrict, countIn, if_neg (by simpa using h)]

end

/-! ### Active and suppressed alerts -/

section

variable (ops : List Operation)

lemma settled_of_mem_values {s : AlertStatus} (h : s ∈ (afterAll ops).alerts.values) :
    s.Settled := by
  obtain ⟨⟨alert, s⟩, hentry, rfl⟩ := List.mem_map.mp h
  exact settled_afterAll ops alert s (SortedMap.find?_of_mem hentry)

/-- No tracked alert is in any state but two. -/
lemma countIn_eq_zero {states : List AlertState} (hne : states ≠ []) (ha : .active ∉ states)
    (hs : .suppressed ∉ states) : (afterAll ops).countIn states = 0 := by
  rw [countIn, if_neg (by simpa using hne), List.countP_eq_zero]
  intro s h
  rcases (settled_of_mem_values ops h).active_or_suppressed with h | h <;> simp [h, ha, hs]

/-- The tracked alerts are the active ones and the suppressed ones. -/
theorem countIn_nil_eq_add :
    (afterAll ops).countIn []
      = (afterAll ops).countIn [.active] + (afterAll ops).countIn [.suppressed] := by
  have hsplit := List.length_eq_countP_add_countP (l := (afterAll ops).alerts.values)
    fun s => [AlertState.active].contains s.state
  have hrest : (afterAll ops).alerts.values.countP
      (fun s => decide ¬([AlertState.active].contains s.state = true))
      = (afterAll ops).countIn [.suppressed] := by
    refine List.countP_congr ?_
    intro s h
    rcases (settled_of_mem_values ops h).active_or_suppressed with h | h <;> simp [h]
  rw [hrest] at hsplit
  exact (List.length_map _).symm.trans hsplit

end

end MemoryAuthority

end AlertLedger
