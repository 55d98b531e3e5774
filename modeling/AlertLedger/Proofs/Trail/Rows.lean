/-
# Rows in a row

A row says of its alert in what condition it is: the state and, of a suppressed alert, the reason
and the first inhibitor. For two rows of one alert that follow one another it is to be asked
whether they can say the same. They can, and this is how (`Trail.repeated_condition_iff`): both are
about inhibitions with the same first inhibitor, and before the second one the inhibitors were not
the same. Either there were others after the first one, which no row has room for, or the
inhibitors had been taken away in between, which leaves no row.
-/
import AlertLedger.Proofs.Store.Batches
import AlertLedger.Proofs.Trail.LastEntry
import AlertLedger.Proofs.Trail.Sink

namespace AlertLedger

/-! ### Conditions -/

/-- The condition of an alert as far as a row tells. -/
structure Condition where
  state : AlertState
  suppressedBy : Option String
  suppressedReason : Option SuppressionReason

/-- What a row says of its alert. -/
def StateEvent.condition (e : StateEvent) : Condition :=
  ⟨e.state, e.suppressedBy, e.suppressedReason⟩

namespace Transition

/-- What the row of a transition says. -/
def condition : Transition → Condition
  | .enter s => ⟨s, none, if s = .suppressed then some .silenced else none⟩
  | .inhibited inhibitors => ⟨.suppressed, inhibitors.head?, some .inhibited⟩

/-- Two transitions say the same if they enter the same state or have the same first inhibitor. -/
lemma condition_eq_iff {t t' : Transition} :
    t.condition = t'.condition ↔ (∃ s, t = .enter s ∧ t' = .enter s) ∨
      ∃ l l', t = .inhibited l ∧ t' = .inhibited l' ∧ l.head? = l'.head? := by
  cases t with
  | enter s =>
    cases t' with
    | enter s' => cases s <;> cases s' <;> simp [condition]
    | inhibited l' => cases s <;> simp [condition]
  | inhibited l =>
    cases t' with
    | enter s' => cases s' <;> simp [condition]
    | inhibited l' => simp [condition]

end Transition

lemma Entry.condition_event (e : Entry) (m : Moment) :
    (e.event m).condition = e.transition.condition := by
  obtain ⟨alert, t⟩ := e
  cases t <;> rfl

/-- A row whose reason is an inhibition is the row of one. -/
lemma Entry.exists_inhibited {e : Entry} {m : Moment}
    (h : (e.event m).suppressedReason = some .inhibited) :
    ∃ l, e.transition = .inhibited l ∧ (e.event m).suppressedBy = l.head? := by
  obtain ⟨alert, t⟩ := e
  cases t with
  | enter s => cases s <;> cases h
  | inhibited l => exact ⟨l, rfl, rfl⟩

/-- Only operations that inhibit are recorded as inhibitions. -/
lemma Operation.eq_inhibit_of_transition {op : Operation} {known : Option AlertStatus}
    {inhibitors : List String} (h : op.transition known = some (.inhibited inhibitors))
    (hs : ∀ s ∈ known, s.Settled) : ∃ ref, op = .inhibit ref inhibitors := by
  cases op with
  | silence ref version active pending =>
    rw [transition_silence _ _ _ _ hs] at h
    split_ifs at h <;> cases h
  | inhibit ref inhibitors' =>
    rw [transition_inhibit _ _ hs] at h
    split_ifs at h
    · cases h
    · obtain rfl := Transition.inhibited.inj (Option.some.inj h)
      exact ⟨ref, rfl⟩
  | delete ref =>
    rw [transition_delete _ hs] at h
    split_ifs at h
    cases h
  | mute | unmute => cases h

/-- A transition that says what the last one said is an inhibition with other inhibitors, of which
the first is the same unless there were none left. -/
lemma Transition.AccountsFor.repeated {known : Option AlertStatus} {t t' : Transition}
    (h : AccountsFor known (some t)) (hc : t'.CalledFor known)
    (ht : t.condition = t'.condition) :
    ∃ l l', t = .inhibited l ∧ t' = .inhibited l' ∧ l.head? = l'.head? ∧ l' ≠ [] ∧
      (known.getD {}).inhibitedBy ≠ l' ∧
      ((known.getD {}).inhibitedBy = [] ∨ (known.getD {}).inhibitedBy = l) := by
  rcases Transition.condition_eq_iff.mp ht with ⟨s, rfl, rfl⟩ | ⟨l, l', rfl, rfl, hhead⟩
  · -- No state is entered twice in a row.
    exact absurd rfl (h.ne_last hc)
  · obtain ⟨hne, hnil⟩ := hc
    refine ⟨l, l', rfl, rfl, hhead, hnil, hne, ?_⟩
    obtain ⟨s, rfl⟩ := h.exists_known (by simp) (by simp)
    by_cases hby : s.inhibitedBy = []
    · exact .inl hby
    · have hlast := h.inhibited s rfl hby
      exact .inr (Transition.inhibited.inj (Option.some.inj hlast)).symm

/-! ### Rows -/

/-- The rows of what was handed over. -/
def rowsOf (heard : List (Moment × Entry)) : List StateEvent := heard.map fun p => p.2.event p.1

lemma Entry.id_event (e : Entry) (m : Moment) : (e.event m).id = m.id := by
  obtain ⟨alert, t⟩ := e
  cases t <;> rfl

lemma Entry.fingerprint_event (e : Entry) (m : Moment) : (e.event m).fingerprint = e.alert := by
  obtain ⟨alert, t⟩ := e
  cases t <;> rfl

lemma filter_rowsOf (heard : List (Moment × Entry)) (alert : Fingerprint) :
    (rowsOf heard).filter (·.fingerprint = alert)
      = rowsOf (heard.filter fun p => p.2.alert = alert) := by
  rw [rowsOf, List.filter_map, rowsOf]
  simp only [Function.comp_def, Entry.fingerprint_event]

lemma before_rowsOf {heard : List (Moment × Entry)}
    (h : heard.Pairwise fun p q => compare p.1.id q.1.id = .lt) :
    (rowsOf heard).Pairwise StateEvent.Before := by
  refine List.pairwise_map.mpr (h.imp ?_)
  intro p q hpq
  rw [StateEvent.Before, Entry.id_event, Entry.id_event]
  exact hpq

namespace Trail

variable {capacity : Nat} {metered : Bool} {calls : List (Moment × Call)}

lemma allRows_sinkCall? {σ : Type} [Authority σ] (m : Moment) (c : Call) (a : σ) :
    SinkCall.allRows ((sinkCall? c a).map fun c => (m, c)).toList
      = rowsOf ((entryOf c a).toList.map fun e => (m, e)) := by
  cases c with
  | change op =>
    rw [sinkCall?]
    cases entryOf (.change op) a <;> rfl
  | ask | refresh | flush | close => rfl

/-- The rows that a run brings its sink are those of the entries that are handed over. -/
lemma rowsOf_heard {σ τ : Type} [Authority σ] [Sink τ] (calls : List (Moment × Call))
    (t : Trail σ (Overheard τ)) :
    rowsOf (after calls t).sink.heard
      = rowsOf t.sink.heard ++ SinkCall.allRows (sinkCalls calls t.forget) := by
  induction calls generalizing t with
  | nil => exact (List.append_nil _).symm
  | cons p calls ih =>
    obtain ⟨m, c⟩ := p
    have hforget : (t.forget.perform m c).state = (t.perform m c).state.forget :=
      congrArg Step.state (perform_forget m c t)
    rw [after_cons, ih, perform_heard_eq, rowsOf, List.map_append, List.append_assoc, sinkCalls,
      SinkCall.allRows_append, hforget, allRows_sinkCall?]
    rfl

/-- What a store on new tables has written in a run is a first part of what it was handed. -/
lemma exists_written
    (hlost : Store.LosesNone (run calls (inMemory (Store.fresh capacity) metered)).emitted) :
    ∃ written,
      (after calls (inMemory (Store.fresh capacity) metered)).sink.tables
        = Tables.empty.putAll (rowsOf written) ∧
      written <+: handed calls (Store.fresh capacity) metered := by
  obtain ⟨hsink, hemitted⟩ := run_sink calls (inMemory (Store.fresh capacity) metered)
  have hwrote := (Store.Wrote.onTables .empty capacity).run
    fun rows hf => hlost rows (hemitted.subset hf)
  obtain ⟨written, htables, ⟨rest, hrest⟩, -⟩ := hwrote
  have hrows : written ++ rest = rowsOf (handed calls (Store.fresh capacity) metered) :=
    hrest.trans (rowsOf_heard calls (overheard (Store.fresh capacity) metered)).symm
  obtain ⟨heard, heard', hheard, rfl, -⟩ := List.map_eq_append_iff.mp hrows.symm
  refine ⟨heard, ?_, ?_⟩
  · rw [hsink]
    exact htables
  · rw [hheard]
    exact List.prefix_append heard heard'

/-- The rows of an alert in a new store, if no batch was lost and the ids ascend. -/
lemma exists_query_eq (alert : Fingerprint) (urnCase : UrnCase)
    (hlost : Store.LosesNone (run calls (inMemory (Store.fresh capacity) metered)).emitted)
    (hids : (handed calls (Store.fresh capacity) metered).Pairwise
      fun p q => compare p.1.id q.1.id = .lt) :
    ∃ written,
      written <+: handed calls (Store.fresh capacity) metered ∧
      (after calls (inMemory (Store.fresh capacity) metered)).sink.tables.query urnCase
          (.forAlert alert 0)
        = rowsOf (written.filter fun p => p.2.alert = alert) := by
  obtain ⟨written, htables, hpre⟩ := exists_written hlost
  have hascending := before_rowsOf (hids.sublist hpre.sublist)
  have hholds := Tables.Holds.empty.putAll (rowsOf written) hascending
  refine ⟨written, hpre, ?_⟩
  rw [htables, hholds.query_forAlert_eq, List.nil_append, filter_rowsOf]

/-! ### Rows that say the same -/

/-- Two rows of an alert that follow one another come from entries of that alert between which
there is none. -/
lemma exists_entries {heard written : List (Moment × Entry)} {alert : Fingerprint}
    (hpre : written <+: heard) {xs ys : List StateEvent} {r r' : StateEvent}
    (h : rowsOf (written.filter fun p => p.2.alert = alert) = xs ++ r :: r' :: ys) :
    ∃ hs rest qs q p, heard = hs ++ p :: rest ∧
      (hs.filter fun p => p.2.alert = alert) = qs ++ [q] ∧ p.2.alert = alert ∧
      r = q.2.event q.1 ∧ r' = p.2.event p.1 := by
  rw [← List.singleton_append, ← List.append_assoc] at h
  obtain ⟨as, bs, hab, has, hbs⟩ := List.map_eq_append_iff.mp h
  obtain ⟨qs, q', hq, -, hq'⟩ := List.map_eq_append_iff.mp has
  obtain ⟨q, rfl, hr⟩ := List.map_eq_singleton_iff.mp hq'
  obtain ⟨p, bs, rfl, hr', -⟩ := List.map_eq_cons_iff.mp hbs
  obtain ⟨ws, us, rfl, hws, hus⟩ := List.filter_eq_append_iff.mp hab
  obtain ⟨cs, ds, rfl, hcs, hp, -⟩ := List.filter_eq_cons_iff.mp hus
  obtain ⟨rest, rfl⟩ := hpre
  refine ⟨ws ++ cs, ds ++ rest, qs, q, p, by simp, ?_, by simpa using hp, hr.symm, hr'.symm⟩
  rw [List.filter_append, hws, hq, List.filter_eq_nil_iff.mpr hcs, List.append_nil]

/-- The row `r` is about an inhibition of the alert, and the row `r'` comes from a call that inhibits
it, with the same first inhibitor. The call is the one after `before`. -/
structure InhibitedAgain (calls : List (Moment × Call)) (alert : Fingerprint) (r r' : StateEvent)
    (before : List (Moment × Call)) (inhibitors : List String) : Prop where
  reason : r.suppressedReason = some .inhibited
  call : ∃ m ref rest, calls = before ++ (m, .change (.inhibit ref inhibitors)) :: rest ∧
    ref.resolve = alert ∧ r' = .inhibited m alert inhibitors
  nonempty : inhibitors ≠ []
  first : r.suppressedBy = inhibitors.head?

lemma InhibitedAgain.condition_eq {alert : Fingerprint} {r r' : StateEvent}
    {before : List (Moment × Call)} {inhibitors : List String}
    (h : InhibitedAgain calls alert r r' before inhibitors) {e : Entry} {m : Moment}
    (hr : r = e.event m) : r.condition = r'.condition := by
  obtain ⟨m', ref, rest, -, -, hr'⟩ := h.call
  have hfirst := h.first
  subst hr
  obtain ⟨l, hl, hhead⟩ := Entry.exists_inhibited h.reason
  rw [hr', Entry.condition_event, hl, Transition.condition, ← hhead, hfirst]
  rfl

/-- If two rows that follow one another say the same, the alert was inhibited again, and just before
that call it had other inhibitors or none. -/
lemma exists_inhibitedAgain {alert : Fingerprint} {urnCase : UrnCase}
    (hlost : Store.LosesNone (run calls (inMemory (Store.fresh capacity) metered)).emitted)
    (hids : (handed calls (Store.fresh capacity) metered).Pairwise
      fun p q => compare p.1.id q.1.id = .lt)
    {xs ys : List StateEvent} {r r' : StateEvent}
    (hrows : (after calls (inMemory (Store.fresh capacity) metered)).sink.tables.query urnCase
      (.forAlert alert 0) = xs ++ r :: r' :: ys)
    (hcondition : r.condition = r'.condition) :
    ∃ before inhibitors, InhibitedAgain calls alert r r' before inhibitors ∧
      let was := ((after before
        (inMemory (Store.fresh capacity) metered)).authority.statusOf alert).inhibitedBy
      was ≠ inhibitors ∧ (was = [] ∨ was.head? = inhibitors.head?) := by
  obtain ⟨written, hpre, hquery⟩ := exists_query_eq alert urnCase hlost hids
  rw [hquery] at hrows
  -- The second row comes from a call, before which the first one was the last of the alert.
  obtain ⟨hs, later, qs, q, p, hheard, hfilter, halert, rfl, rfl⟩ := exists_entries hpre hrows
  obtain ⟨before, op, rest, rfl, hbefore, hentry⟩ := exists_call hheard
  obtain ⟨hop, htransition⟩ := Operation.entry_eq_some hentry
  rw [halert] at hop htransition
  have haccount := (accountsFor_after before (Store.fresh capacity) metered alert).1
  have hlast : ((after before
      (overheard (Store.fresh capacity) metered)).sink.transitionsOf alert).getLast?
      = some q.2.transition := by
    change ((((handed before (Store.fresh capacity) metered).filter _).map _).getLast?) = _
    rw [hbefore, hfilter]
    simp
  rw [hlast] at haccount
  rw [Entry.condition_event, Entry.condition_event] at hcondition
  have hcalled := op.calledFor_transition haccount.settled htransition
  obtain ⟨l, l', hl, hl', hhead, hne, hwas, hor⟩ := haccount.repeated hcalled hcondition
  rw [hl'] at htransition
  obtain ⟨ref, rfl⟩ := Operation.eq_inhibit_of_transition htransition haccount.settled
  obtain ⟨m, alert', t⟩ := q
  obtain ⟨m', alert'', t'⟩ := p
  obtain rfl : t = .inhibited l := hl
  obtain rfl : t' = .inhibited l' := hl'
  obtain rfl : alert'' = alert := halert
  refine ⟨before, l', ⟨rfl, ⟨m', ref, rest, rfl, Option.some.inj hop, rfl⟩, hne, hhead⟩, ?_⟩
  rw [after_inMemory]
  refine ⟨hwas, hor.imp id ?_⟩
  intro hby
  exact (congrArg List.head? hby).trans hhead

/-- **Rows say the same only of inhibitions.**  Over a new store that loses no batch, and with ids
that ascend, two rows of an alert that follow one another say the same of it exactly if the first
one is about an inhibition and the second one comes from a call that inhibits the alert again, with
the same first inhibitor. If they do, then just before that call the inhibitors were not the same:
the alert had none any more, or others after the first. -/
theorem repeated_condition_iff (capacity : Nat) (metered : Bool) (calls : List (Moment × Call))
    (alert : Fingerprint) (urnCase : UrnCase)
    (hlost : Store.LosesNone (run calls (inMemory (Store.fresh capacity) metered)).emitted)
    (hids : (handed calls (Store.fresh capacity) metered).Pairwise
      fun p q => compare p.1.id q.1.id = .lt)
    {xs ys : List StateEvent} {r r' : StateEvent}
    (hrows : (after calls (inMemory (Store.fresh capacity) metered)).sink.tables.query urnCase
      (.forAlert alert 0) = xs ++ r :: r' :: ys) :
    (r.condition = r'.condition ↔
        ∃ before inhibitors, InhibitedAgain calls alert r r' before inhibitors) ∧
      (r.condition = r'.condition →
        ∃ before inhibitors, InhibitedAgain calls alert r r' before inhibitors ∧
          let was := ((after before
            (inMemory (Store.fresh capacity) metered)).authority.statusOf alert).inhibitedBy
          was ≠ inhibitors ∧ (was = [] ∨ was.head? = inhibitors.head?)) := by
  refine ⟨⟨?_, ?_⟩, exists_inhibitedAgain hlost hids hrows⟩
  · intro hcondition
    obtain ⟨before, inhibitors, hagain, -⟩ := exists_inhibitedAgain hlost hids hrows hcondition
    exact ⟨before, inhibitors, hagain⟩
  · rintro ⟨before, inhibitors, hagain⟩
    -- The first row, too, comes from an entry.
    obtain ⟨written, hpre, hquery⟩ := exists_query_eq alert urnCase hlost hids
    obtain ⟨-, -, -, q, p, -, -, -, hr, -⟩ := exists_entries hpre (hquery.symm.trans hrows)
    exact hagain.condition_eq hr

/-! ### Two rows that say the same -/

/-- An alert is inhibited twice, the second time with another second inhibitor. -/
def sameFirst : List (Moment × Call) :=
  [({ id := .ofNat 1, now := 1 }, .change (.inhibit (.fingerprint ⟨1⟩) ["a", "b"])),
    ({ id := .ofNat 2, now := 2 }, .change (.inhibit (.fingerprint ⟨1⟩) ["a", "c"])),
    ({ id := .ofNat 3, now := 3 }, .flush)]

lemma handed_sameFirst :
    handed sameFirst (Store.fresh 100) true =
      [({ id := .ofNat 1, now := 1 }, ⟨⟨1⟩, .inhibited ["a", "b"]⟩),
        ({ id := .ofNat 2, now := 2 }, ⟨⟨1⟩, .inhibited ["a", "c"]⟩)] := rfl

lemma ascending_sameFirst :
    (handed sameFirst (Store.fresh 100) true).Pairwise
      fun p q => compare p.1.id q.1.id = .lt := by
  rw [handed_sameFirst]
  refine List.pairwise_pair.mpr ?_
  decide

lemma losesNone_sameFirst :
    Store.LosesNone (run sameFirst (inMemory (Store.fresh 100) true)).emitted := by
  have hemitted : (run sameFirst (inMemory (Store.fresh 100) true)).emitted =
      [.log (.appending ⟨⟨1⟩, .inhibited ["a", "b"]⟩), .metric (.transition "suppressed"),
        .log (.appending ⟨⟨1⟩, .inhibited ["a", "c"]⟩), .metric (.transition "suppressed"),
        .log (.flushed 2), .metric (.flushed 2), .metric (.flushTime 0)] := rfl
  intro rows h
  rw [hemitted] at h
  simp at h

lemma query_sameFirst :
    (after sameFirst (inMemory (Store.fresh 100) true)).sink.tables.query .any (.forAlert ⟨1⟩ 0)
      = [.inhibited { id := .ofNat 1, now := 1 } ⟨1⟩ ["a", "b"],
          .inhibited { id := .ofNat 2, now := 2 } ⟨1⟩ ["a", "c"]] := by
  have htables : (after sameFirst (inMemory (Store.fresh 100) true)).sink.tables
      = Tables.empty.putAll (rowsOf (handed sameFirst (Store.fresh 100) true)) := rfl
  have hholds := Tables.Holds.empty.putAll (rowsOf _) (before_rowsOf ascending_sameFirst)
  rw [htables, hholds.query_forAlert_eq]
  rfl

/-- The second one of its rows says the same as the first, since the inhibitors were others. -/
theorem repeated_condition_sameFirst :
    ∃ r r', (after sameFirst (inMemory (Store.fresh 100) true)).sink.tables.query .any
        (.forAlert ⟨1⟩ 0) = [] ++ r :: r' :: [] ∧ r.condition = r'.condition ∧
      ∃ before m ref inhibitors rest,
        sameFirst = before ++ (m, .change (.inhibit ref inhibitors)) :: rest ∧
        ((after before (inMemory (Store.fresh 100) true)).authority.statusOf ⟨1⟩).inhibitedBy
          ≠ inhibitors := by
  refine ⟨_, _, query_sameFirst, rfl, ?_⟩
  obtain ⟨-, hfacts⟩ := repeated_condition_iff 100 true sameFirst ⟨1⟩ .any losesNone_sameFirst
    ascending_sameFirst (query_sameFirst.trans (List.nil_append _).symm)
  obtain ⟨before, inhibitors, hagain, hwas, -⟩ := hfacts rfl
  obtain ⟨m, ref, rest, hcalls, -⟩ := hagain.call
  exact ⟨before, m, ref, inhibitors, rest, hcalls, hwas⟩

/-- So it is not true that two rows of an alert that follow one another never say the same. -/
theorem not_consecutive_conditions_ne :
    ¬ ∀ (capacity : Nat) (metered : Bool) (calls : List (Moment × Call)) (alert : Fingerprint)
        (urnCase : UrnCase),
      Store.LosesNone (run calls (inMemory (Store.fresh capacity) metered)).emitted →
      ((handed calls (Store.fresh capacity) metered).Pairwise
        fun p q => compare p.1.id q.1.id = .lt) →
      ((after calls (inMemory (Store.fresh capacity) metered)).sink.tables.query urnCase
        (.forAlert alert 0)).IsChain fun r r' => r.condition ≠ r'.condition := by
  intro h
  have hchain := h 100 true sameFirst ⟨1⟩ .any losesNone_sameFirst ascending_sameFirst
  rw [query_sameFirst, List.isChain_cons_cons] at hchain
  exact hchain.1 rfl

end Trail

end AlertLedger
