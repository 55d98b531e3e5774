/-
# The balance of the metrics

Two families of metrics tell of the same rows. A trail counts an entry by its state when it hands
it over, and never learns what becomes of it. A store counts rows when they are written or dropped,
and does not look at their states. Neither asks the other, and what each reports is mixed with all
else that is emitted; that the counters agree is a fact about runs.

So the reports are taken apart first. Whatever the sink is, all reports on transitions are the
trail's, one for each entry that it hands over, apart from those that the sink emits itself
(`Trail.count_countedStates`), and all reports on rows are the sink's (`Trail.rowReports_run`). Then
every row that a store was handed has a fate: it is written, lost with its batch, too late, or it
waits (`Store.Fates.Balance.run`). The two are put together in `Trail.metrics_balance`.
-/
import AlertLedger.Proofs.Sink.Reports
import AlertLedger.Proofs.Store.Closing
import AlertLedger.Proofs.Trail.Independence
import AlertLedger.Proofs.Trail.Rows
import AlertLedger.Proofs.Trail.Transparency
import Mathlib.Data.UInt

namespace AlertLedger

/-! ### Reports on rows -/

/-- The reports on rows among all that is emitted. -/
def rowReports (emitted : List Effect) : List MetricsUpdate :=
  (emitted.filterMap Effect.metric?).filter MetricsUpdate.ofRows

lemma rowReports_append (xs ys : List Effect) :
    rowReports (xs ++ ys) = rowReports xs ++ rowReports ys := by
  rw [rowReports, List.filterMap_append, List.filter_append, rowReports, rowReports]

/-- Where only rows are reported no transition is counted. -/
lemma countedStates_of_rowsOnly {emitted : List Effect} (h : RowsOnly emitted) :
    countedStates emitted = [] := by
  rw [countedStates, List.filterMap_eq_nil_iff]
  intro u hu
  have hrows := h u hu
  cases u with
  | transition state => cases hrows
  | marked | dropped | flushed | flushTime => rfl

namespace MetricsRegistry

/-- How many entries were counted for a state. -/
def countedFor (r : MetricsRegistry) (state : AlertState) : UInt64 :=
  (r.transitions.find? state.name).getD 0

/-- Two registries count rows alike. -/
structure SameRows (r r' : MetricsRegistry) : Prop where
  flushed : r.flushed = r'.flushed
  dropped : r.dropped = r'.dropped

/-- Rows are counted by the reports on them and by nothing else. -/
lemma SameRows.foldl_record {r r' : MetricsRegistry} (h : r.SameRows r')
    (us : List MetricsUpdate) :
    (us.foldl record r).SameRows ((us.filter MetricsUpdate.ofRows).foldl record r') := by
  induction us generalizing r r' with
  | nil => exact h
  | cons u us ih =>
    cases u with
    | transition | marked => exact ih ⟨h.flushed, h.dropped⟩
    | flushTime => exact ih ⟨h.flushed, h.dropped⟩
    | flushed rows => exact ih ⟨congrArg (· + rows) h.flushed, h.dropped⟩
    | dropped reason rows =>
      exact ih ⟨h.flushed, congrArg (fun family => addTo family reason rows) h.dropped⟩

/-- What brings the same reports on rows makes the counters of rows the same. -/
lemma sameRows_absorb (r : MetricsRegistry) {xs ys : List Effect}
    (h : rowReports xs = rowReports ys) : (r.absorb xs).SameRows (r.absorb ys) := by
  have hxs := SameRows.foldl_record (r := r) ⟨rfl, rfl⟩ (xs.filterMap Effect.metric?)
  have hys := SameRows.foldl_record (r := r) ⟨rfl, rfl⟩ (ys.filterMap Effect.metric?)
  change (r.absorb xs).SameRows ((rowReports xs).foldl record r) at hxs
  change (r.absorb ys).SameRows ((rowReports ys).foldl record r) at hys
  rw [h] at hxs
  exact ⟨hxs.flushed.trans hys.flushed.symm, hxs.dropped.trans hys.dropped.symm⟩

/-- The counter of a state has grown by the reports on that state. -/
lemma countedFor_absorb (r : MetricsRegistry) (emitted : List Effect) (state : AlertState) :
    (r.absorb emitted).countedFor state
      = r.countedFor state + UInt64.ofNat ((countedStates emitted).count state.name) := by
  rw [absorb, countedStates]
  induction emitted.filterMap Effect.metric? generalizing r with
  | nil => exact (UInt64.add_zero _).symm
  | cons u us ih =>
    rw [List.foldl_cons, ih]
    cases u with
    | transition name =>
      have hgrown : (r.record (.transition name)).countedFor state
          = r.countedFor state + if state.name = name then 1 else 0 :=
        getD_find?_addTo r.transitions name state.name 1
      change _ = _ +
        UInt64.ofNat ((name :: us.filterMap MetricsUpdate.transition?).count state.name)
      rw [hgrown, List.count_cons, UInt64.ofNat_add, UInt64.add_assoc,
        UInt64.add_comm (UInt64.ofNat _)]
      by_cases hname : state.name = name
      · simp [hname]
      · simp [hname, Ne.symm hname]
    | marked | dropped | flushed | flushTime => rfl

end MetricsRegistry

/-! ### Whose reports they are -/

lemma AlertState.name_injective : Function.Injective AlertState.name := by
  intro s s' h
  cases s <;> cases s' <;> simp_all [AlertState.name]

lemma Entry.state_event (e : Entry) (m : Moment) : (e.event m).state = e.transition.state := by
  obtain ⟨alert, t⟩ := e
  cases t <;> rfl

namespace Trail

section

variable {σ τ : Type} [Authority σ] [Sink τ]

/-- The states of the entries that a call leads to, if they are counted. -/
def ownStates (c : Call) (t : Trail σ τ) : List String :=
  if t.metered then (entryOf c t.authority).toList.map (·.transition.state.name) else []

omit [Sink τ] in
/-- An entry is counted for the state of its row. -/
lemma count_ownStates (m : Moment) (c : Call) {t : Trail σ τ} (h : t.metered)
    (state : AlertState) :
    (ownStates c t).count state.name
      = (SinkCall.allRows ((sinkCall? c t.authority).map fun c => (m, c)).toList).countP
        (·.state = state) := by
  rw [allRows_sinkCall?, ownStates, if_pos h]
  cases entryOf c t.authority with
  | none => rfl
  | some e =>
    have hstate : (e.event m).state = e.transition.state := e.state_event m
    have hname : e.transition.state.name = state.name ↔ e.transition.state = state :=
      AlertState.name_injective.eq_iff
    simp [rowsOf, List.count_singleton, List.countP_singleton, hstate, hname]

/-- What a call emits is what its sink emits, with what the trail says before and after. The trail
says nothing of rows, and it counts the entry of the call. -/
lemma perform_emitted (m : Moment) (c : Call) (t : Trail σ τ) :
    ∃ before after, (t.perform m c).emitted = before
        ++ ((Sink.run ((sinkCall? c t.authority).map fun c => (m, c)).toList t.sink).emitted
          ++ after) ∧
      rowReports before = [] ∧ countedStates before = [] ∧
      rowReports after = [] ∧ countedStates after = ownStates c t := by
  -- Only an operation can leave an entry; all other calls count nothing.
  have hquiet (hc : entryOf c t.authority = none) : countedStates [] = ownStates c t := by
    rw [ownStates, hc]
    cases t.metered <;> rfl
  cases c with
  | change op =>
    change ∃ before after, (t.apply m op).emitted = _ ∧ _
    rw [apply_def, sinkCall?_change]
    cases he : ((decide op).run t.authority).1 with
    | none => exact ⟨[], [], rfl, rfl, rfl, rfl, hquiet he⟩
    | some e =>
      have hentry : entryOf (.change op) t.authority = some e := he
      refine ⟨[.log (.appending e)],
        if t.metered then [.metric (.transition e.transition.state.name)] else [], ?_, rfl, rfl,
        ?_, ?_⟩
      · change _ = _ ++ ((Sink.run [(m, .append e)] t.sink).emitted ++ _)
        rw [Sink.run_singleton_emitted]
        rfl
      · cases t.metered <;> rfl
      · rw [ownStates, hentry]
        cases t.metered <;> rfl
  | ask => exact ⟨[], [], rfl, rfl, rfl, rfl, hquiet rfl⟩
  | refresh =>
    refine ⟨[], t.refresh.emitted, rfl, rfl, rfl, ?_, ?_⟩
    · unfold refresh
      split <;> rfl
    · rw [← hquiet rfl]
      unfold refresh
      split <;> rfl
  | flush =>
    refine ⟨[], [], ?_, rfl, rfl, rfl, hquiet rfl⟩
    rw [List.append_nil]
    exact (Sink.run_singleton_emitted m .flush t.sink).symm
  | close =>
    refine ⟨[], [], ?_, rfl, rfl, rfl, hquiet rfl⟩
    rw [List.append_nil]
    exact (Sink.run_singleton_emitted m .close t.sink).symm

lemma metered_perform (m : Moment) (c : Call) (t : Trail σ τ) :
    (t.perform m c).state.metered = t.metered := by
  cases c with
  | change op => exact apply_metered m op t
  | refresh =>
    change t.refresh.state.metered = _
    unfold refresh
    split <;> rfl
  | ask | flush | close => rfl

/-- All reports on rows in a run are those of its sink. -/
theorem rowReports_run (calls : List (Moment × Call)) (t : Trail σ τ) :
    rowReports (run calls t).emitted
      = rowReports (Sink.run (sinkCalls calls t) t.sink).emitted := by
  induction calls generalizing t with
  | nil => rfl
  | cons p calls ih =>
    obtain ⟨m, c⟩ := p
    obtain ⟨before, after, hcall, hbefore, -, hafter, -⟩ := perform_emitted m c t
    rw [run_cons_emitted, sinkCalls, Sink.run_append_emitted, ← (perform_sink m c t).1, hcall]
    simp only [rowReports_append, hbefore, hafter, ih, List.nil_append, List.append_nil]

/-- The rows of the entries that a run hands to its sink, which is overheard. -/
def rowsIn (calls : List (Moment × Call)) (t : Trail σ τ) : List StateEvent :=
  rowsOf (after calls t.overhear).sink.heard

lemma rowsIn_eq (calls : List (Moment × Call)) (t : Trail σ τ) :
    rowsIn calls t = SinkCall.allRows (sinkCalls calls t) :=
  rowsOf_heard calls t.overhear

/-- **Transitions are counted when they are handed over.**  A metered trail reports a state as often
as it hands its sink an entry with that state; the sink may add reports of its own. -/
theorem count_countedStates (calls : List (Moment × Call)) {t : Trail σ τ} (h : t.metered)
    (state : AlertState) :
    (countedStates (run calls t).emitted).count state.name
      = (rowsIn calls t).countP (·.state = state)
        + (countedStates (Sink.run (sinkCalls calls t) t.sink).emitted).count state.name := by
  rw [rowsIn_eq]
  induction calls generalizing t with
  | nil => rfl
  | cons p calls ih =>
    obtain ⟨m, c⟩ := p
    obtain ⟨before, after, hcall, -, hbefore, -, hafter⟩ := perform_emitted m c t
    have hrest := ih (t := (t.perform m c).state) (by rw [metered_perform, h])
    rw [run_cons_emitted, sinkCalls, Sink.run_append_emitted, SinkCall.allRows_append,
      ← (perform_sink m c t).1, hcall]
    simp only [countedStates_append, hbefore, hafter, List.count_append, List.countP_append,
      hrest, count_ownStates m c h state, List.count_nil]
    omega

/-- What the sink reports does not matter if that is what became of rows. -/
lemma count_countedStates_of_reportsRows (hsink : Sink.ReportsRows τ)
    (calls : List (Moment × Call)) {t : Trail σ τ} (h : t.metered) (state : AlertState) :
    (countedStates (run calls t).emitted).count state.name
      = (rowsIn calls t).countP (·.state = state) := by
  rw [count_countedStates calls h, countedStates_of_rowsOnly (hsink.run _ _), List.count_nil,
    Nat.add_zero]

end

end Trail

/-! ### What becomes of rows -/

namespace Store

/-- How many rows were written, were lost with their batch, and came too late. -/
structure Fates where
  written : Nat := 0
  lost : Nat := 0
  late : Nat := 0

namespace Fates

/-- So many rows were handed to the store, and these were their fates: the metrics say so, and the
rows that are left wait in the store. -/
structure Balance (f : Fates) (s : Store) (r : MetricsRegistry) (rows : Nat) : Prop where
  written : r.flushed = .ofNat f.written
  lost : r.droppedFor flushReason = .ofNat f.lost
  late : r.droppedFor closedReason = .ofNat f.late
  total : f.written + f.lost + f.late + s.pending.length = rows

variable {f : Fates} {m : Moment} {c : SinkCall} {s s' : Store} {r : MetricsRegistry} {rows : Nat}

/-- Each of the four things that a call can come to is the fate of rows. -/
lemma Balance.of_outcome (h : f.Balance s r rows) {emitted : List Effect}
    (ho : Outcome m c s s' emitted) :
    ∃ f' : Fates, f'.Balance s' (r.absorb emitted) (rows + (c.rows m).length) := by
  have htotal := h.total
  have hwaiting : (s.waiting m c).length = s.pending.length + (c.rows m).length := by
    rw [waiting_eq, List.length_append]
  cases ho with
  | refused =>
    cases c with
    | append e =>
      have hdropped := (r.dropsMore_absorb (.droppedAfterClose (e.event m)) closedReason 1).counted
      refine ⟨{ f with late := f.late + 1 }, h.written, ?_, ?_, ?_⟩
      · exact (hdropped flushReason).trans ((UInt64.add_zero _).trans h.lost)
      · rw [UInt64.ofNat_add, ← h.late]
        exact hdropped closedReason
      · change f.written + f.lost + (f.late + 1) + s.pending.length = rows + 1
        omega
    | flush | close => exact ⟨f, h⟩
  | waited =>
    refine ⟨f, h.written, h.lost, h.late, ?_⟩
    change _ + (s.waiting m c).length = _
    omega
  | written =>
    refine ⟨{ f with written := f.written + (s.waiting m c).length }, ?_, h.lost, h.late, ?_⟩
    · rw [UInt64.ofNat_add, ← h.written]
      rfl
    · change f.written + (s.waiting m c).length + f.lost + f.late + 0 = _
      omega
  | lost =>
    have hdropped := (r.dropsMore_absorb (.flushFailed (writeFault m) (s.waiting m c).length)
      flushReason (rowCount (s.waiting m c))).counted
    refine ⟨{ f with lost := f.lost + (s.waiting m c).length }, h.written, ?_, ?_, ?_⟩
    · rw [UInt64.ofNat_add, ← h.lost]
      exact hdropped flushReason
    · exact (hdropped closedReason).trans ((UInt64.add_zero _).trans h.late)
    · change f.written + (f.lost + (s.waiting m c).length) + f.late + 0 = _
      omega

/-- Every row that a store is handed in a run has a fate. -/
theorem Balance.run (h : f.Balance s r rows) (calls : List (Moment × SinkCall)) :
    ∃ f' : Fates, f'.Balance (Sink.run calls s).state (r.absorb (Sink.run calls s).emitted)
      (rows + (SinkCall.allRows calls).length) := by
  induction calls generalizing f s r rows with
  | nil => exact ⟨f, h⟩
  | cons c calls ih =>
    obtain ⟨m, c⟩ := c
    obtain ⟨f', hcall⟩ := h.of_outcome (perform_outcome m c s)
    obtain ⟨f'', hrest⟩ := ih hcall
    refine ⟨f'', ?_⟩
    rw [SinkCall.allRows_cons, List.length_append, Sink.run_cons_state, Sink.run_cons_emitted,
      MetricsRegistry.absorb_append, ← Nat.add_assoc]
    exact hrest

/-- The counters and the rows that wait make up what was handed over, as words do. -/
lemma Balance.ofNat_rows (h : f.Balance s r rows) :
    UInt64.ofNat rows
      = r.flushed + r.droppedFor flushReason + r.droppedFor closedReason + rowCount s.pending := by
  rw [← h.total, UInt64.ofNat_add, UInt64.ofNat_add, UInt64.ofNat_add, h.written, h.lost, h.late,
    rowCount]

/-- No counter has wrapped around unless that many rows were handed over. -/
lemma Balance.toNat_rows (h : f.Balance s r rows) (hrows : rows < 2 ^ 64) :
    r.flushed.toNat + (r.droppedFor flushReason).toNat + (r.droppedFor closedReason).toNat
      + s.pending.length = rows := by
  have htotal := h.total
  have hword {n : Nat} (hn : n ≤ rows) : (UInt64.ofNat n).toNat = n :=
    UInt64.toNat_ofNat_of_lt' (hn.trans_lt hrows)
  rw [h.written, h.lost, h.late, hword (by omega), hword (by omega), hword (by omega), htotal]

lemma Balance.onTables (t : Tables) (capacity : Nat) :
    ({} : Fates).Balance (.onTables t capacity) .empty 0 := ⟨rfl, rfl, rfl, rfl⟩

end Fates

end Store

/-! ### The balance -/

/-- Every row has one of the states. -/
lemma sum_countP_state (rows : List StateEvent) :
    (AlertState.all.map fun state => rows.countP (·.state = state)).sum = rows.length := by
  induction rows with
  | nil => rfl
  | cons e rows ih =>
    rw [List.length_cons, ← ih]
    simp only [AlertState.all, List.map_cons, List.map_nil, List.sum_cons, List.sum_nil,
      List.countP_cons]
    cases e.state <;> simp <;> omega

namespace Trail

section

variable {σ : Type} [Authority σ]

/-- What a trail emits says of the rows that it hands to a store what became of them. -/
lemma exists_fates (calls : List (Moment × Call)) {t : Trail σ Store} {tables : Tables}
    {capacity : Nat} (h : t.sink = .onTables tables capacity) :
    ∃ f : Store.Fates, f.Balance (after calls t).sink (.absorb .empty (run calls t).emitted)
      (rowsIn calls t).length := by
  obtain ⟨f, hf⟩ := (Store.Fates.Balance.onTables tables capacity).run (sinkCalls calls t)
  rw [← h, ← rowsIn_eq, ← (run_sink calls t).1, Nat.zero_add] at hf
  have hsame := MetricsRegistry.empty.sameRows_absorb (rowReports_run calls t)
  have hdropped (reason : String) : MetricsRegistry.droppedFor (.absorb .empty _) reason
      = MetricsRegistry.droppedFor (.absorb .empty _) reason :=
    congrArg (fun family => (family.find? reason).getD 0) hsame.dropped
  exact ⟨f, hsame.flushed.trans hf.written, (hdropped _).trans hf.lost,
    (hdropped _).trans hf.late, hf.total⟩

/-- **The metrics balance.**  A metered trail over any authority is called in any way. It reports a
state as often as it hands its sink a row with that state, where an inhibited alert is a suppressed
one. Only a sink that reports transitions as well could add to that, and no sink of the program
does.

Let the sink be a store that was opened on any tables and is called by this trail only. Then after
every call, however the disk fails and whether or not the store is closed, the counters of all
states add up to the rows that are counted as written, as lost and as too late, together with those
that wait. For words that always holds, and for the numbers themselves as long as fewer than 2 ^ 64
rows were handed over. -/
theorem metrics_balance (a : σ) (calls : List (Moment × Call)) :
    (∀ {τ : Type} [Sink τ] (sink : τ) (state : AlertState),
      let t : Trail σ τ := { authority := a, sink, metered := true }
      (countedStates (run calls t).emitted).count state.name
        = (rowsIn calls t).countP (·.state = state)
          + (countedStates (Sink.run (sinkCalls calls t) sink).emitted).count state.name) ∧
      (∀ (sink : ChosenSink) (state : AlertState),
        let t : Trail σ ChosenSink := { authority := a, sink, metered := true }
        (countedStates (run calls t).emitted).count state.name
          = (rowsIn calls t).countP (·.state = state)) ∧
      ∀ (tables : Tables) (capacity : Nat),
        let t : Trail σ Store :=
          { authority := a, sink := .onTables tables capacity, metered := true }
        let store := (after calls t).sink
        let metrics := MetricsRegistry.empty.absorb (run calls t).emitted
        (∀ state, metrics.countedFor state
          = UInt64.ofNat ((rowsIn calls t).countP (·.state = state))) ∧
        (AlertState.all.map metrics.countedFor).sum
          = metrics.flushed + metrics.droppedFor Store.flushReason
            + metrics.droppedFor Store.closedReason + Store.rowCount store.pending ∧
        ((rowsIn calls t).length < 2 ^ 64 →
          (AlertState.all.map fun state => (metrics.countedFor state).toNat).sum
            = metrics.flushed.toNat + (metrics.droppedFor Store.flushReason).toNat
              + (metrics.droppedFor Store.closedReason).toNat + store.pending.length) := by
  refine ⟨?_, ?_, ?_⟩
  · intro τ _ sink state t
    exact count_countedStates calls rfl state
  · intro sink state t
    exact count_countedStates_of_reportsRows ChosenSink.reportsRows calls rfl state
  · intro tables capacity t store metrics
    obtain ⟨f, hf⟩ := exists_fates calls (t := t) rfl
    have hsum := sum_countP_state (rowsIn calls t)
    have hcounted (state : AlertState) : metrics.countedFor state
        = UInt64.ofNat ((rowsIn calls t).countP (·.state = state)) := by
      rw [← count_countedStates_of_reportsRows Store.reportsRows calls rfl]
      exact (MetricsRegistry.empty.countedFor_absorb _ state).trans (UInt64.zero_add _)
    refine ⟨hcounted, ?_, ?_⟩
    · rw [← hf.ofNat_rows, ← hsum]
      simp only [AlertState.all, List.map_cons, List.map_nil, List.sum_cons, List.sum_nil,
        hcounted, UInt64.ofNat_add]
      rfl
    · intro hrows
      rw [hf.toNat_rows hrows, ← hsum]
      refine congrArg List.sum (List.map_congr_left ?_)
      intro state _
      rw [hcounted, UInt64.toNat_ofNat_of_lt' (List.countP_le_length.trans_lt hrows)]

end

/-- An alert is silenced, then inhibited as well, and both rows are lost; its deletion is written on
the way to a close, and that it is silenced again comes too late. -/
def unlucky : List (Moment × Call) :=
  let ref : AlertRef := .fingerprint ⟨1⟩
  [(Store.onDisk .working 1, .change (.silence ref 1 ["s"] [])),
    (Store.onDisk .full 2, .change (.inhibit ref ["a"])), (Store.onDisk .full 3, .refresh),
    (Store.onDisk .working 4, .change (.delete ref)), (Store.onDisk .working 5, .close),
    (Store.onDisk .working 6, .change (.silence ref 2 ["s"] [])),
    (Store.onDisk .working 7, .ask (.status ⟨1⟩))]

/-- The trail for that run: its store writes two rows at a time. -/
def inPairs : Trail MemoryAuthority Store := inMemory (.onTables .empty 2) true

/-- All four rows of the run are accounted for. -/
theorem metrics_balance_unlucky :
    let metrics := MetricsRegistry.empty.absorb (run unlucky inPairs).emitted
    (rowsIn unlucky inPairs).length < 2 ^ 64 ∧
      metrics.countedFor .suppressed = 3 ∧ metrics.countedFor .deleted = 1 ∧
      metrics.flushed = 1 ∧ metrics.droppedFor Store.flushReason = 2 ∧
      metrics.droppedFor Store.closedReason = 1 ∧
      (AlertState.all.map fun state => (metrics.countedFor state).toNat).sum
        = metrics.flushed.toNat + (metrics.droppedFor Store.flushReason).toNat
          + (metrics.droppedFor Store.closedReason).toNat
          + (after unlucky inPairs).sink.pending.length := by
  have hrows : (rowsIn unlucky inPairs).length < 2 ^ 64 := by decide
  obtain ⟨-, -, hstore⟩ := metrics_balance MemoryAuthority.empty unlucky
  obtain ⟨hcounted, -, hsum⟩ := hstore .empty 2
  exact ⟨hrows, hcounted .suppressed, hcounted .deleted, rfl, rfl, rfl, hsum hrows⟩

end Trail

end AlertLedger
