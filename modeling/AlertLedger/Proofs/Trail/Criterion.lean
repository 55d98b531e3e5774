/-
# When a trail records something

An operation on an alert is recorded exactly if it changes the state of the alert or, the alert
being suppressed before, gives it other inhibitors. There is one exception: an alert that was
suppressed by inhibitors alone becomes active again without an entry when its inhibitors are taken
away (`Operation.LiftsInhibition`).

The rules do not look at the new state at all, only at the status before and at whether the alert
is silenced or inhibited now. That they coincide with the changes of state rests on all statuses
being settled, which every operation keeps.
-/
import AlertLedger.Proofs.Trail.Run
import AlertLedger.Sink.Stateless
import Mathlib.Tactic.SplitIfs

namespace AlertLedger

/-! ### The criterion -/

/-- An operation that takes away the inhibitors of an alert which nothing else suppresses. -/
def Operation.LiftsInhibition (op : Operation) (prev : AlertStatus) : Prop :=
  (∃ ref, op = .inhibit ref []) ∧ prev.isInhibited ∧ prev.silencedBy = []

/-- An operation that gives a suppressed alert other inhibitors, in another order at least. -/
def Operation.ChangesInhibitors (op : Operation) (prev : AlertStatus) : Prop :=
  ∃ ref inhibitors, op = .inhibit ref inhibitors ∧ inhibitors ≠ [] ∧ prev.state = .suppressed ∧
    prev.inhibitedBy ≠ inhibitors

/-- What a transition says of an alert holds of what is known of the alert. Nothing says of an
alert that it was never seen. -/
def Transition.TrueOf (known : Option AlertStatus) : Transition → Prop
  | .enter .unprocessed => False
  | .enter .active => (known.getD {}).state = .active
  | .enter .suppressed => (known.getD {}).isSilenced
  | .enter .deleted => known = none
  | .inhibited inhibitors =>
    (known.getD {}).isInhibited ∧ (known.getD {}).inhibitedBy = inhibitors ∧ inhibitors ≠ []

namespace Operation

variable {known : Option AlertStatus}

lemma liftsInhibition_inhibit_iff (ref : AlertRef) (inhibitors : List String) (prev : AlertStatus) :
    (Operation.inhibit ref inhibitors).LiftsInhibition prev ↔
      inhibitors = [] ∧ prev.isInhibited ∧ prev.silencedBy = [] := by
  simp [LiftsInhibition]

lemma changesInhibitors_inhibit_iff (ref : AlertRef) (inhibitors : List String)
    (prev : AlertStatus) :
    (Operation.inhibit ref inhibitors).ChangesInhibitors prev ↔
      inhibitors ≠ [] ∧ prev.state = .suppressed ∧ prev.inhibitedBy ≠ inhibitors := by
  constructor
  · rintro ⟨_, _, h, hne, hst, hby⟩
    obtain ⟨-, rfl⟩ := Operation.inhibit.inj h
    exact ⟨hne, hst, hby⟩
  · rintro ⟨hne, hst, hby⟩
    exact ⟨ref, inhibitors, rfl, hne, hst, hby⟩

lemma isInhibited_getD (h : ∀ s ∈ known, s.Settled) :
    (known.getD {}).isInhibited ↔ (known.getD {}).inhibitedBy ≠ [] := by
  cases known with
  | none => simp [AlertStatus.isInhibited]
  | some s => exact (h s rfl).isInhibited_iff

/-- An operation is recorded if it changes the state, but for the lifting of an inhibition, or
the inhibitors of a suppressed alert. -/
lemma transition_isSome_iff (op : Operation) (h : ∀ s ∈ known, s.Settled) :
    (op.transition known).isSome ↔
      ((known.getD {}).state ≠ ((op.revise known).getD {}).state ∧
          ¬ op.LiftsInhibition (known.getD {})) ∨
        op.ChangesInhibitors (known.getD {}) := by
  have hprev := state_getD h
  have hinh := isInhibited_getD h
  cases op with
  | silence ref version active pending =>
    rw [transition_silence _ _ _ _ h]
    simp only [LiftsInhibition, ChangesInhibitors, hprev, revise, MemoryAuthority.settle]
    -- Silences leave the inhibitors alone, so the state changes with the silences alone.
    cases known with
    | none => cases active <;> simp
    | some s =>
      rcases eq_or_ne s.silencedBy [] with h₁ | h₁ <;>
        rcases eq_or_ne s.inhibitedBy [] with h₂ | h₂ <;> cases active <;> simp [h₁, h₂]
  | inhibit ref inhibitors =>
    rw [transition_inhibit _ _ h]
    rw [liftsInhibition_inhibit_iff, changesInhibitors_inhibit_iff]
    simp only [hinh, hprev, revise, MemoryAuthority.settle]
    cases known with
    | none => cases inhibitors <;> simp
    | some s =>
      -- Other inhibitors count even where the state stays; the same ones never change it.
      by_cases hs : s.inhibitedBy = inhibitors
      · rcases eq_or_ne s.silencedBy [] with h₁ | h₁ <;> cases inhibitors <;> simp [h₁, hs]
      · rcases eq_or_ne s.silencedBy [] with h₁ | h₁ <;>
          rcases eq_or_ne s.inhibitedBy [] with h₂ | h₂ <;> cases inhibitors <;>
            simp [h₁, h₂, hs] at hs ⊢
  | delete ref =>
    rw [transition_delete _ h]
    simp only [LiftsInhibition, ChangesInhibitors, hprev, revise]
    cases known with
    | none => simp
    | some s => simp; split <;> simp
  | mute | unmute => simp [transition, revise, LiftsInhibition, ChangesInhibitors]

/-- What is recorded of an operation is true after it. -/
lemma trueOf_transition (op : Operation) (h : ∀ s ∈ known, s.Settled) {t : Transition}
    (ht : op.transition known = some t) : t.TrueOf (op.revise known) := by
  cases op with
  | silence ref version active pending =>
    rw [transition_silence _ _ _ _ h] at ht
    split_ifs at ht with ha hp hp
    · obtain rfl := Option.some.inj ht
      have hinh : (known.getD {}).inhibitedBy = [] := by
        rcases hp with rfl | ⟨-, hinh⟩
        · rfl
        · exact hinh
      exact (AlertStatus.Settled.of_settle _).active_iff.mpr ⟨ha, hinh⟩
    · obtain rfl := Option.some.inj ht
      exact (AlertStatus.Settled.of_settle _).isSilenced_iff.mpr ha
  | inhibit ref inhibitors =>
    rw [transition_inhibit _ _ h] at ht
    split_ifs at ht with ha hp hp
    · obtain rfl := Option.some.inj ht
      subst hp
      exact (AlertStatus.Settled.of_settle _).active_iff.mpr ⟨rfl, ha⟩
    · obtain rfl := Option.some.inj ht
      exact ⟨(AlertStatus.Settled.of_settle _).isInhibited_iff.mpr ha, rfl, ha⟩
  | delete ref =>
    rw [transition_delete _ h] at ht
    split_ifs at ht
    obtain rfl := Option.some.inj ht
    rfl
  | mute | unmute => cases ht

end Operation

/-! ### The criterion in a run -/

namespace Trail

/-- **An operation is recorded exactly if something changed.**  Whatever was called before, an
operation on an alert hands the sink at most one entry, and one for that alert only. There is one
exactly if the state of the alert changed, but for the lifting of an inhibition, or a suppressed
alert got other inhibitors; and what the entry says is then true. -/
theorem recorded_iff_changed {τ : Type} [Sink τ] (sink : τ) (metered : Bool)
    (calls : List (Moment × Call)) (m : Moment) (op : Operation) {alert : Fingerprint}
    (h : op.alert? = some alert) :
    let before := after calls (overheard sink metered)
    let next := (before.apply m op).state
    let p := before.authority.statusOf alert
    let q := next.authority.statusOf alert
    ∃ recorded : Option Transition,
      next.sink.heard = before.sink.heard ++ (recorded.map fun t => (m, ⟨alert, t⟩)).toList ∧
      (recorded.isSome ↔
        (p.state ≠ q.state ∧ ¬ op.LiftsInhibition p) ∨ op.ChangesInhibitors p) ∧
      ∀ t ∈ recorded, t.TrueOf (next.authority.alerts.find? alert) := by
  intro before next p q
  have hsettled := settled_after calls sink metered alert
  have hknown : next.authority.alerts.find? alert
      = op.revise (before.authority.alerts.find? alert) := by
    rw [apply_authority, MemoryAuthority.find?_apply, if_pos h]
  refine ⟨op.transition (before.authority.alerts.find? alert), ?_, ?_, ?_⟩
  · rw [apply_heard, Operation.entry_of_alert h]
    cases op.transition (before.authority.alerts.find? alert) <;> simp
  · have hq : q = (op.revise (before.authority.alerts.find? alert)).getD {} := by
      rw [← hknown]
      rfl
    rw [hq]
    exact op.transition_isSome_iff hsettled
  · intro t ht
    rw [hknown]
    exact op.trueOf_transition hsettled ht

/-- An alert that is silenced stays suppressed when it is inhibited as well, and yet this is
recorded. -/
theorem recorded_inhibition_of_silenced :
    let m : Moment := { id := .ofNat 1, now := 0 }
    let before := after [(m, .change (.silence (.fingerprint ⟨1⟩) 1 ["s"] []))]
      (overheard DiscardingSink.mk true)
    let op := Operation.inhibit (.fingerprint ⟨1⟩) ["a"]
    op.alert? = some ⟨1⟩ ∧ ∃ t : Transition,
      (before.apply m op).state.sink.heard = before.sink.heard ++ [(m, ⟨⟨1⟩, t⟩)] ∧
      t.TrueOf ((before.apply m op).state.authority.alerts.find? ⟨1⟩) := by
  intro m before op
  refine ⟨rfl, ?_⟩
  obtain ⟨recorded, hheard, hiff, htrue⟩ := recorded_iff_changed DiscardingSink.mk true
    [(m, .change (.silence (.fingerprint ⟨1⟩) 1 ["s"] []))] m op rfl
  have hsome : recorded.isSome :=
    hiff.mpr (.inr ⟨.fingerprint ⟨1⟩, ["a"], rfl, by simp, rfl, by decide⟩)
  obtain ⟨t, rfl⟩ := Option.isSome_iff_exists.mp hsome
  exact ⟨t, hheard, htrue t rfl⟩

end Trail

end AlertLedger
