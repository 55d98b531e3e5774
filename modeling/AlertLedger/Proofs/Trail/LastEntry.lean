/-
# The last entry and the status

The last entry of an alert accounts for its status, whatever happened before
(`Transition.AccountsFor`). An alert that is not tracked was never recorded, or its end was. An
inhibited alert was last recorded with exactly its present inhibitors. Of an alert that is not
inhibited the last entry names its state, unless its inhibitors were taken away since, which leaves
no entry, so that the last one is still that of an inhibition.

That this is kept by every operation is a matter of the two causes of suppression: each of them
comes and goes while the other stays, and where an operation is not recorded the entry before has
to do for the new status too. As a consequence no state is recorded of an alert twice in a row.
-/
import AlertLedger.Proofs.Trail.Run
import Mathlib.Data.List.Chain

namespace AlertLedger

/-! ### Accounting for a status -/

/-- The last transition recorded of an alert accounts for what is known of it. -/
structure Transition.AccountsFor (known : Option AlertStatus) (last : Option Transition) :
    Prop where
  settled : ∀ s ∈ known, s.Settled
  untracked : known = none ↔ last = none ∨ last = some (.enter .deleted)
  inhibited : ∀ s ∈ known, s.inhibitedBy ≠ [] → last = some (.inhibited s.inhibitedBy)
  silenced : ∀ s ∈ known, s.inhibitedBy = [] → s.silencedBy ≠ [] →
    last = some (.enter .suppressed) ∨ ∃ l, last = some (.inhibited l)
  active : ∀ s ∈ known, s.inhibitedBy = [] → s.silencedBy = [] →
    last = some (.enter .active) ∨ ∃ l, last = some (.inhibited l)

namespace Transition.AccountsFor

variable {known : Option AlertStatus} {last : Option Transition}

/-- Nothing is known of an alert of which nothing was recorded. -/
lemma start : AccountsFor none none := by
  constructor <;> simp

/-! ### Recorded operations -/

/-- To become active is recorded of an alert that nothing suppresses. -/
lemma of_active {s : AlertStatus} (hs : s.Settled) (hsil : s.silencedBy = [])
    (hinh : s.inhibitedBy = []) : AccountsFor (some s) (some (.enter .active)) := by
  refine ⟨?_, by simp, ?_, ?_, ?_⟩
  · rintro _ ⟨⟩
    exact hs
  · rintro _ ⟨⟩ hne
    exact absurd hinh hne
  · rintro _ ⟨⟩ - hne
    exact absurd hsil hne
  · rintro _ ⟨⟩ - -
    exact .inl rfl

/-- To be suppressed by silences is recorded of an alert that has no inhibitors. -/
lemma of_suppressed {s : AlertStatus} (hs : s.Settled) (hsil : s.silencedBy ≠ [])
    (hinh : s.inhibitedBy = []) : AccountsFor (some s) (some (.enter .suppressed)) := by
  refine ⟨?_, by simp, ?_, ?_, ?_⟩
  · rintro _ ⟨⟩
    exact hs
  · rintro _ ⟨⟩ hne
    exact absurd hinh hne
  · rintro _ ⟨⟩ - -
    exact .inl rfl
  · rintro _ ⟨⟩ - hnil
    exact absurd hnil hsil

/-- An inhibition is recorded with all inhibitors. -/
lemma of_inhibited {s : AlertStatus} (hs : s.Settled) (hinh : s.inhibitedBy ≠ []) :
    AccountsFor (some s) (some (.inhibited s.inhibitedBy)) := by
  refine ⟨?_, by simp, ?_, ?_, ?_⟩
  · rintro _ ⟨⟩
    exact hs
  · rintro _ ⟨⟩ -
    rfl
  · rintro _ ⟨⟩ hnil
    exact absurd hnil hinh
  · rintro _ ⟨⟩ hnil
    exact absurd hnil hinh

/-- The end of an alert is recorded of one that is not tracked any more. -/
lemma of_deleted : AccountsFor none (some (.enter .deleted)) := by
  constructor <;> simp

/-! ### Operations that are not recorded -/

/-- The entry before will do if the inhibitors are the same and, in case there are none, so is
whether there are silences. -/
lemma keep {s s' : AlertStatus} (h : AccountsFor (some s) last) (hs : s'.Settled)
    (hinh : s'.inhibitedBy = s.inhibitedBy)
    (hsil : s.inhibitedBy = [] → (s'.silencedBy = [] ↔ s.silencedBy = [])) :
    AccountsFor (some s') last := by
  refine ⟨?_, ?_, ?_, ?_, ?_⟩
  · rintro _ ⟨⟩
    exact hs
  · rw [← h.untracked]
    simp
  · rintro _ ⟨⟩
    rw [hinh]
    exact h.inhibited s rfl
  · rintro _ ⟨⟩ hnil hne
    rw [hinh] at hnil
    exact h.silenced s rfl hnil (mt (hsil hnil).mpr hne)
  · rintro _ ⟨⟩ hnil hnil'
    rw [hinh] at hnil
    exact h.active s rfl hnil ((hsil hnil).mp hnil')

/-- The entry before will do if inhibitors are taken away, for it is that of an inhibition. -/
lemma lift {s s' : AlertStatus} (h : AccountsFor (some s) last) (hs : s'.Settled)
    (hinh : s'.inhibitedBy = []) (hsil : s'.silencedBy = s.silencedBy) :
    AccountsFor (some s') last := by
  by_cases hnil : s.inhibitedBy = []
  · refine h.keep hs (hinh.trans hnil.symm) ?_
    rw [hsil]
    exact fun _ => Iff.rfl
  · have hlast := h.inhibited s rfl hnil
    refine ⟨?_, ?_, ?_, ?_, ?_⟩
    · rintro _ ⟨⟩
      exact hs
    · simp [hlast]
    · rintro _ ⟨⟩ hne
      exact absurd hinh hne
    · exact fun _ _ _ _ => .inr ⟨_, hlast⟩
    · exact fun _ _ _ _ => .inr ⟨_, hlast⟩

/-! ### Each operation -/

lemma of_silence (ref : AlertRef) (version : UInt64) (active pending : List String)
    (h : AccountsFor known last) :
    AccountsFor ((Operation.silence ref version active pending).revise known)
      (((Operation.silence ref version active pending).transition known).or last) := by
  rw [Operation.transition_silence _ _ _ _ h.settled]
  split_ifs with ha hp hp
  · -- No silences: the alert is new, or it was suppressed by silences alone.
    refine .of_active (.of_settle _) ha ?_
    rcases hp with rfl | ⟨-, hinh⟩
    · rfl
    · exact hinh
  · obtain ⟨s, rfl⟩ := Option.ne_none_iff_exists'.mp (not_or.mp hp).1
    refine h.keep (.of_settle _) rfl ?_
    intro hinh
    have hsil : s.silencedBy = [] := by
      by_contra hne
      exact hp (.inr ⟨hne, hinh⟩)
    exact iff_of_true ha hsil
  · -- Silences for an alert that nothing suppressed.
    exact .of_suppressed (.of_settle _) ha hp.2
  · obtain ⟨s, rfl⟩ : ∃ s, known = some s := by
      rw [← Option.ne_none_iff_exists']
      rintro rfl
      exact hp ⟨rfl, rfl⟩
    refine h.keep (.of_settle _) rfl ?_
    intro hinh
    exact iff_of_false ha fun hsil => hp ⟨hsil, hinh⟩

lemma of_inhibit (ref : AlertRef) (inhibitors : List String) (h : AccountsFor known last) :
    AccountsFor ((Operation.inhibit ref inhibitors).revise known)
      (((Operation.inhibit ref inhibitors).transition known).or last) := by
  rw [Operation.transition_inhibit _ _ h.settled]
  split_ifs with hi hp hp
  · -- No inhibitors for a new alert.
    subst hp
    exact .of_active (.of_settle _) rfl hi
  · obtain ⟨s, rfl⟩ := Option.ne_none_iff_exists'.mp hp
    exact h.lift (.of_settle _) hi rfl
  · -- The inhibitors are those that the alert had.
    obtain ⟨s, rfl⟩ : ∃ s, known = some s := by
      rw [← Option.ne_none_iff_exists']
      rintro rfl
      exact hi hp.symm
    exact h.keep (.of_settle _) hp.symm fun _ => Iff.rfl
  · exact .of_inhibited (.of_settle _) hi

lemma of_delete (ref : AlertRef) (h : AccountsFor known last) :
    AccountsFor ((Operation.delete ref).revise known)
      (((Operation.delete ref).transition known).or last) := by
  rw [Operation.transition_delete _ h.settled]
  split_ifs with hk
  · subst hk
    exact h
  · exact .of_deleted

/-- Every operation keeps the account. -/
lemma step (op : Operation) (h : AccountsFor known last) :
    AccountsFor (op.revise known) ((op.transition known).or last) := by
  cases op with
  | silence ref version active pending => exact h.of_silence ref version active pending
  | inhibit ref inhibitors => exact h.of_inhibit ref inhibitors
  | delete ref => exact h.of_delete ref
  | mute | unmute => exact h

/-- An alert with an entry that does not end it is tracked. -/
lemma exists_known (h : AccountsFor known last) (h₁ : last ≠ none)
    (h₂ : last ≠ some (.enter .deleted)) : ∃ s, known = some s := by
  rw [← Option.ne_none_iff_exists']
  intro hk
  rcases h.untracked.mp hk with hl | hl
  · exact h₁ hl
  · exact h₂ hl

/-- Nothing calls for the state to be recorded that was recorded last. -/
lemma ne_last {s : AlertState} (h : AccountsFor known last)
    (hc : (Transition.enter s).CalledFor known) : last ≠ some (.enter s) := by
  rintro rfl
  cases s with
  | unprocessed => exact hc
  | active =>
    obtain ⟨s, rfl⟩ := h.exists_known (by simp) (by simp)
    obtain ⟨hsil, hinh⟩ := Or.resolve_left hc (by simp)
    simpa using h.silenced s rfl hinh hsil
  | suppressed =>
    obtain ⟨s, rfl⟩ := h.exists_known (by simp) (by simp)
    obtain ⟨hsil, hinh⟩ := hc
    simpa using h.active s rfl hinh hsil
  | deleted => exact hc (h.untracked.mpr (.inr rfl))

end Transition.AccountsFor

/-! ### The entries of one alert -/

/-- The transitions of one alert in an order in which they may come. -/
structure Transition.Orderly (ts : List Transition) : Prop where
  head_ne_deleted : ts.head? ≠ some (.enter .deleted)
  not_unprocessed : .enter .unprocessed ∉ ts
  changing : ts.IsChain fun a b => ∀ s, a = .enter s → b ≠ .enter s

/-- Every operation keeps the account, and the order. -/
lemma Transition.Orderly.step {known : Option AlertStatus} {ts : List Transition} (op : Operation)
    (h : Orderly ts) (ha : AccountsFor known ts.getLast?) :
    Orderly (ts ++ (op.transition known).toList) := by
  cases ht : op.transition known with
  | none => simpa using h
  | some t =>
    have hc := op.calledFor_transition ha.settled ht
    refine ⟨?_, ?_, ?_⟩
    · cases ts with
      | nil =>
        rintro hd
        obtain rfl : t = .enter .deleted := by simpa using hd
        exact hc (ha.untracked.mpr (.inl rfl))
      | cons a ts => simpa using h.head_ne_deleted
    · rw [Option.toList_some, List.mem_append, List.mem_singleton, not_or]
      refine ⟨h.not_unprocessed, ?_⟩
      rintro rfl
      exact hc
    · refine List.IsChain.append h.changing (by simp) ?_
      intro a hlast b hb s hs
      obtain rfl : t = b := by simpa using hb
      rintro rfl
      exact ha.ne_last hc (by rw [Option.mem_def.mp hlast, hs])

/-! ### Runs -/

namespace Trail

variable {τ : Type} [Sink τ]

lemma accountsFor_after (calls : List (Moment × Call)) (sink : τ) (metered : Bool)
    (alert : Fingerprint) :
    let t := after calls (overheard sink metered)
    Transition.AccountsFor (t.authority.alerts.find? alert)
        (t.sink.transitionsOf alert).getLast? ∧
      Transition.Orderly (t.sink.transitionsOf alert) := by
  refine run_induction_alert (P := fun known ts =>
    Transition.AccountsFor known ts.getLast? ∧ Transition.Orderly ts) ?_ ?_ calls sink metered alert
  · exact ⟨.start, by simp, by simp, by simp⟩
  · rintro known ts op ⟨ha, ho⟩
    refine ⟨?_, ho.step op ha⟩
    rw [List.getLast?_append]
    convert ha.step op using 2
    cases op.transition known <;> rfl

/-- **The last entry accounts for the status.**  Whatever was called, an alert is not tracked, and
then has the status of one never seen, exactly if nothing was recorded of it or its end was last.
If it is inhibited, that was recorded last, with all its present inhibitors. If silences alone
suppress it, or nothing does, then its present state was recorded last, or else an inhibition. The
first entry of an alert is never its end, no entry says that it was never seen, and no two entries
in a row say that it entered the same state. -/
theorem last_entry_accounts (sink : τ) (metered : Bool) (calls : List (Moment × Call))
    (alert : Fingerprint) :
    let t := after calls (overheard sink metered)
    let status := t.authority.statusOf alert
    let entries := t.sink.transitionsOf alert
    let last := entries.getLast?
    (¬ t.authority.Tracks alert ↔ status = {}) ∧
      (status = {} ↔ last = none ∨ last = some (.enter .deleted)) ∧
      (status.inhibitedBy ≠ [] → last = some (.inhibited status.inhibitedBy)) ∧
      (t.authority.Tracks alert → status.inhibitedBy = [] → status.silencedBy ≠ [] →
        last = some (.enter .suppressed) ∨ ∃ l, last = some (.inhibited l)) ∧
      (t.authority.Tracks alert → status.inhibitedBy = [] → status.silencedBy = [] →
        last = some (.enter .active) ∨ ∃ l, last = some (.inhibited l)) ∧
      entries.head? ≠ some (.enter .deleted) ∧
      .enter .unprocessed ∉ entries ∧
      entries.IsChain fun a b => ∀ s, a = .enter s → b ≠ .enter s := by
  intro t status entries last
  obtain ⟨ha, ho⟩ := accountsFor_after calls sink metered alert
  have hstatus : status = (t.authority.alerts.find? alert).getD {} := rfl
  have htracks : t.authority.Tracks alert ↔ (t.authority.alerts.find? alert).isSome := Iff.rfl
  have hdefault : status = {} ↔ t.authority.alerts.find? alert = none := by
    rw [hstatus]
    cases hk : t.authority.alerts.find? alert with
    | none => simp
    | some s => simpa using (ha.settled s hk).ne_default
  refine ⟨?_, ?_, ?_, ?_, ?_, ho.head_ne_deleted, ho.not_unprocessed, ho.changing⟩
  · rw [htracks, hdefault]
    simp
  · rw [hdefault]
    exact ha.untracked
  · cases hk : t.authority.alerts.find? alert with
    | none => simp [hstatus, hk]
    | some s =>
      rw [hstatus, hk]
      exact ha.inhibited s hk
  · rw [htracks, hstatus]
    intro hs
    obtain ⟨s, hs⟩ := Option.isSome_iff_exists.mp hs
    rw [hs]
    exact ha.silenced s hs
  · rw [htracks, hstatus]
    intro hs
    obtain ⟨s, hs⟩ := Option.isSome_iff_exists.mp hs
    rw [hs]
    exact ha.active s hs

end Trail

end AlertLedger
