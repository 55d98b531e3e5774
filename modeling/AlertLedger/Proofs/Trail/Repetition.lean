/-
# Repetition

An operation that was just applied leaves nothing to record: its alert is already what it calls
for, whatever silences or inhibitors it brought (`Operation.transition_revise`). Since it leaves
the authority alone too, a trail on which it is repeated stays as it is and emits nothing.
-/
import AlertLedger.Proofs.Trail.Run

namespace AlertLedger

/-! ### Repeated operations -/

namespace Operation

/-- Nothing is recorded of an operation on what it has itself made of an alert. -/
lemma transition_revise (op : Operation) (known : Option AlertStatus) :
    op.transition (op.revise known) = none := by
  cases op with
  | silence ref version active pending =>
    by_cases ha : active = []
    · subst ha
      -- Without silences the alert is active or, if it is inhibited, suppressed by that alone.
      by_cases hi : (known.getD {}).inhibitedBy = [] <;>
        simp [transition, revise, MemoryAuthority.settle, Transition.afterSilencing,
          AlertStatus.isSilenced, hi]
    · simp [transition, revise, MemoryAuthority.settle, Transition.afterSilencing,
        AlertStatus.isSilenced, ha]
  | inhibit ref inhibitors =>
    by_cases hi : inhibitors = []
    · subst hi
      by_cases hs : (known.getD {}).silencedBy = [] <;>
        simp [transition, revise, MemoryAuthority.settle, Transition.afterInhibiting,
          AlertStatus.isInhibited, hs]
    · simp [transition, revise, MemoryAuthority.settle, Transition.afterInhibiting,
        AlertStatus.isInhibited, hi]
  | delete => rfl
  | mute | unmute => rfl

/-- An operation that was just applied leaves no entry. -/
lemma entry_apply (op : Operation) (a : MemoryAuthority) :
    op.entry (Authority.apply op a) = none := by
  rw [entry]
  cases h : op.alert? with
  | none => rfl
  | some alert =>
    rw [Option.bind_some, MemoryAuthority.find?_apply, if_pos h, transition_revise]
    rfl

end Operation

/-! ### Repeated calls -/

namespace Trail

variable {τ : Type} [Sink τ]

/-- An operation that was just applied does nothing to the trail. -/
lemma apply_apply (m m' : Moment) (op : Operation) (t : Trail MemoryAuthority τ) :
    (t.apply m op).state.apply m' op = { result := (), state := (t.apply m op).state } := by
  rw [apply_eq m', apply_authority, Operation.entry_apply, MemoryAuthority.apply_apply,
    ← apply_authority m]
  rfl

/-- A run of one and the same operation, where that operation does nothing. -/
lemma run_change_of_apply_eq {t : Trail MemoryAuthority τ} {op : Operation}
    (h : ∀ m, t.apply m op = { result := (), state := t }) (ms : List Moment) :
    run (ms.map fun m => (m, Call.change op)) t
      = { result := List.replicate ms.length .nothing, state := t } := by
  induction ms with
  | nil => rfl
  | cons m ms ih =>
    have hm : t.perform m (.change op) = { result := .nothing, state := t } := by
      rw [perform, h]
    rw [List.map_cons, run, hm]
    simp only [Step.andThen, Step.after]
    rw [ih]
    rfl

/-- **Repetition is silent.**  Whatever a trail is like, and whatever operation is applied to it,
to apply the same operation again any number of times hands the sink nothing more, emits nothing,
so that no further transition is counted, and leaves the status of every alert and the mutes of
every group as the first time has left them. -/
theorem repetition_silent (t : Trail MemoryAuthority (Overheard τ)) (m : Moment) (op : Operation)
    (ms : List Moment) :
    let first := (t.apply m op).state
    let again := run (ms.map fun m => (m, Call.change op)) first
    again.state.sink = first.sink ∧
      again.emitted = [] ∧
      (∀ alert, again.state.authority.statusOf alert = first.authority.statusOf alert ∧
        (again.state.authority.Tracks alert ↔ first.authority.Tracks alert)) ∧
      ∀ group, again.state.authority.groups.find? group = first.authority.groups.find? group := by
  intro first again
  have h : again = { result := List.replicate ms.length .nothing, state := first } :=
    run_change_of_apply_eq (fun m' => apply_apply m m' op t) ms
  rw [h]
  exact ⟨rfl, rfl, fun _ => ⟨rfl, Iff.rfl⟩, fun _ => rfl⟩

end Trail

end AlertLedger
