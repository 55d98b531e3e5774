/-
# What a trail decides over the authority in memory

The rules for what is recorded see the status before an operation and what the authority reports
after it. Over the authority in memory both are functions of what was known of the alert, and so
is the decision (`Operation.transition`, `Trail.decide_run`). For settled statuses the rules then
come down to the two causes of suppression, silences and inhibitors; the lemmas
`Operation.transition_silence`, `Operation.transition_inhibit` and `Operation.transition_delete`
say how.
-/
import AlertLedger.Trail
import AlertLedger.Proofs.Authority.Memory
import Mathlib.Tactic.SplitIfs

namespace AlertLedger

namespace Operation

/-- What is recorded of an operation on an alert of which `known` is known. -/
def transition (op : Operation) (known : Option AlertStatus) : Option Transition :=
  let prev := known.getD {}
  let next := (op.revise known).getD {}
  match op with
  | .silence .. => Transition.afterSilencing prev next.isSilenced
  | .inhibit .. => Transition.afterInhibiting prev next.inhibitedBy next.isInhibited
  | .delete _ => Transition.afterDeletion prev
  | .mute .. | .unmute _ => none

/-- The entry that an operation leaves; operations on groups leave none. -/
def entry (op : Operation) (a : MemoryAuthority) : Option Entry :=
  op.alert?.bind fun alert => (op.transition (a.alerts.find? alert)).map fun t => ⟨alert, t⟩

lemma entry_of_alert {op : Operation} {alert : Fingerprint} (h : op.alert? = some alert)
    (a : MemoryAuthority) :
    op.entry a = (op.transition (a.alerts.find? alert)).map fun t => ⟨alert, t⟩ := by
  rw [entry, h, Option.bind_some]

lemma entry_eq_some {op : Operation} {a : MemoryAuthority} {e : Entry} (h : op.entry a = some e) :
    op.alert? = some e.alert ∧ op.transition (a.alerts.find? e.alert) = some e.transition := by
  obtain ⟨alert, halert, he⟩ := Option.bind_eq_some_iff.mp h
  obtain ⟨t, ht, rfl⟩ := Option.map_eq_some_iff.mp he
  exact ⟨halert, ht⟩

end Operation

/-- A trail over the authority in memory decides by what was known of the alert. -/
lemma Trail.decide_run (op : Operation) (a : MemoryAuthority) :
    (Trail.decide op).run a = (op.entry a, Authority.apply op a) := by
  cases op with
  | silence ref version active pending =>
    have hs := MemoryAuthority.statusOf_apply (.silence ref version active pending) a rfl
    change ((Transition.afterSilencing (a.statusOf ref.resolve)
      ((Authority.apply _ a).statusOf ref.resolve).isSilenced).map _, _) = _
    rw [hs]
    rfl
  | inhibit ref inhibitors =>
    have hs := MemoryAuthority.statusOf_apply (.inhibit ref inhibitors) a rfl
    change ((Transition.afterInhibiting (a.statusOf ref.resolve)
      ((Authority.apply _ a).statusOf ref.resolve).inhibitedBy
      ((Authority.apply _ a).statusOf ref.resolve).isInhibited).map _, _) = _
    rw [hs]
    rfl
  | delete => rfl
  | mute => rfl
  | unmute => rfl

/-! ### The decisions by cause -/

namespace Operation

variable {known : Option AlertStatus}

/-- A settled status before an operation is that of an alert never seen, or its state is the one
that its causes call for. -/
lemma state_getD (h : ∀ s ∈ known, s.Settled) :
    (known.getD {}).state = if known = none then .unprocessed
      else if (known.getD {}).silencedBy = [] ∧ (known.getD {}).inhibitedBy = [] then .active
      else .suppressed := by
  cases known with
  | none => rfl
  | some s => simpa using (h s rfl).state_eq

/-- Silences in effect are recorded unless the alert was suppressed already. Without them the
alert is recorded as active when it was not tracked, or when silences were all that suppressed
it. -/
lemma transition_silence (ref : AlertRef) (version : UInt64) (active pending : List String)
    (h : ∀ s ∈ known, s.Settled) :
    (Operation.silence ref version active pending).transition known =
      if active = [] then
        if known = none ∨ ((known.getD {}).silencedBy ≠ [] ∧ (known.getD {}).inhibitedBy = []) then
          some (.enter .active)
        else none
      else if (known.getD {}).silencedBy = [] ∧ (known.getD {}).inhibitedBy = [] then
        some (.enter .suppressed)
      else none := by
  have hst := state_getD h
  have hnext : (((Operation.silence ref version active pending).revise known).getD {}).isSilenced
      = !active.isEmpty := by
    cases active <;> simp [revise, MemoryAuthority.settle, AlertStatus.isSilenced]
  simp only [transition, hnext, Transition.afterSilencing, hst]
  -- Whether there are silences and inhibitors, before and now, is all that is left to look at.
  cases known with
  | none => cases active <;> simp
  | some s =>
    rcases eq_or_ne s.silencedBy [] with h₁ | h₁ <;> rcases eq_or_ne s.inhibitedBy [] with h₂ | h₂ <;>
      cases active <;> simp [h₁, h₂]

/-- New inhibitors are recorded when they differ from those before. Without any the alert is
recorded as active if it was not tracked. -/
lemma transition_inhibit (ref : AlertRef) (inhibitors : List String)
    (h : ∀ s ∈ known, s.Settled) :
    (Operation.inhibit ref inhibitors).transition known =
      if inhibitors = [] then if known = none then some (.enter .active) else none
      else if (known.getD {}).inhibitedBy = inhibitors then none
      else some (.inhibited inhibitors) := by
  have hst := state_getD h
  have hnext : (((Operation.inhibit ref inhibitors).revise known).getD {}).isInhibited
      = !inhibitors.isEmpty := by
    cases inhibitors <;> simp [revise, MemoryAuthority.settle, AlertStatus.isInhibited]
  have hby : (((Operation.inhibit ref inhibitors).revise known).getD {}).inhibitedBy
      = inhibitors := rfl
  simp only [transition, hnext, hby, Transition.afterInhibiting, hst]
  cases known with
  | none => cases inhibitors <;> simp
  | some s =>
    rcases eq_or_ne s.silencedBy [] with h₁ | h₁ <;> rcases eq_or_ne s.inhibitedBy [] with h₂ | h₂ <;>
      cases inhibitors <;> simp [h₁, h₂]

/-- The end of an alert is recorded if it was tracked. -/
lemma transition_delete (ref : AlertRef) (h : ∀ s ∈ known, s.Settled) :
    (Operation.delete ref).transition known =
      if known = none then none else some (.enter .deleted) := by
  simp only [transition, Transition.afterDeletion, state_getD h]
  cases known with
  | none => simp
  | some s => simp; split <;> simp

end Operation

/-! ### What is recorded when -/

/-- What is known of an alert calls for a transition: it says something new of it. Nothing calls
for saying that an alert was never seen. -/
def Transition.CalledFor (known : Option AlertStatus) : Transition → Prop
  | .enter .unprocessed => False
  | .enter .active =>
    known = none ∨ ((known.getD {}).silencedBy ≠ [] ∧ (known.getD {}).inhibitedBy = [])
  | .enter .suppressed => (known.getD {}).silencedBy = [] ∧ (known.getD {}).inhibitedBy = []
  | .enter .deleted => known ≠ none
  | .inhibited inhibitors => (known.getD {}).inhibitedBy ≠ inhibitors ∧ inhibitors ≠ []

/-- What is recorded was called for. -/
lemma Operation.calledFor_transition (op : Operation) {known : Option AlertStatus}
    (h : ∀ s ∈ known, s.Settled) {t : Transition} (ht : op.transition known = some t) :
    t.CalledFor known := by
  cases op with
  | silence ref version active pending =>
    rw [transition_silence _ _ _ _ h] at ht
    split_ifs at ht with ha hp hp
    · obtain rfl := Option.some.inj ht
      exact hp
    · obtain rfl := Option.some.inj ht
      exact hp
  | inhibit ref inhibitors =>
    rw [transition_inhibit _ _ h] at ht
    split_ifs at ht with ha hp hp
    · obtain rfl := Option.some.inj ht
      exact .inl hp
    · obtain rfl := Option.some.inj ht
      exact ⟨hp, ha⟩
  | delete ref =>
    rw [transition_delete _ h] at ht
    split_ifs at ht with hp
    obtain rfl := Option.some.inj ht
    exact hp
  | mute | unmute => cases ht

end AlertLedger
