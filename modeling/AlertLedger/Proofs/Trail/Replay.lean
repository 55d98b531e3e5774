/-
# What a replay leaves in the ledger

To replay a stream is to apply its operations one after the other and to flush in the end. Which
entries this leaves is a matter of the authority alone (`Trail.entriesOf`), and the sink sees no
more of the operations than that it is handed these entries (`Trail.sinkCalls_changes`). Alert
by alert, the rows of the entries are what the rules make of the operations on that alert
(`Trail.filter_rowsOf_entriesOf`).

So much for any sink. A store without a row that waits writes what it is handed, in batches of any
size, and if the ids are larger than those it has, the new rows come last in the history of their
alert. A sink that logs each row at once says the same of them. This is what
`Trail.replay_persists` puts together.
-/
import AlertLedger.Proofs.Store.Index
import AlertLedger.Proofs.Trail.Rows
import AlertLedger.Replay
import AlertLedger.Sink.Stateless

namespace AlertLedger

/-! ### The rows of a stream -/

/-- The row of a transition of an alert. -/
def Transition.row (t : Transition) (m : Moment) (alert : Fingerprint) : StateEvent where
  id := m.id
  createdAtNs := m.now
  fingerprint := alert
  state := t.condition.state
  suppressedBy := t.condition.suppressedBy
  suppressedReason := t.condition.suppressedReason

lemma Entry.event_eq (e : Entry) (m : Moment) : e.event m = e.transition.row m e.alert := by
  obtain ⟨alert, t⟩ := e
  cases t <;> rfl

/-- The rows of an alert that the rules make of the operations on it, one after the other; `known`
is what is known of the alert at first. -/
def Operation.rowsOf (alert : Fingerprint) :
    Option AlertStatus → List (Moment × Operation) → List StateEvent
  | _, [] => []
  | known, (m, op) :: ops =>
    ((op.transition known).map fun t => t.row m alert).toList ++ rowsOf alert (op.revise known) ops

/-- The history of an alert in an open store. -/
lemma Store.history_of_open (s : Store) (ho : s.isOpen) (alert : Fingerprint) :
    s.history alert 0 = .ok (s.tables.query s.urnCase (.forAlert alert 0)) := by
  rw [history, query, ask, if_pos ho]

namespace Trail

/-- The operations of a stream, each with its moment; the first one comes at moment `i` of the
clock. -/
def timed (clock : Nat → Moment) (i : Nat) (ops : List Operation) : List (Moment × Operation) :=
  (ops.zipIdx i).map fun p => (clock p.2, p.1)

lemma timed_cons (clock : Nat → Moment) (i : Nat) (op : Operation) (ops : List Operation) :
    timed clock i (op :: ops) = (clock i, op) :: timed clock (i + 1) ops := rfl

/-- Operations as calls on a trail. -/
def changes (ops : List (Moment × Operation)) : List (Moment × Call) :=
  ops.map fun p => (p.1, .change p.2)

/-- The entries that operations leave. -/
def entriesOf : MemoryAuthority → List (Moment × Operation) → List (Moment × Entry)
  | _, [] => []
  | a, (m, op) :: ops =>
    ((op.entry a).map fun e => (m, e)).toList ++ entriesOf (Authority.apply op a) ops

/-- The rows that a replay of a stream makes. -/
def replayRows (clock : Nat → Moment) (ops : List Operation) : List StateEvent :=
  rowsOf (entriesOf .empty (timed clock 0 ops))

/-- Alert by alert, the rows are what the rules make of the operations on that alert. -/
theorem filter_rowsOf_entriesOf (alert : Fingerprint) (a : MemoryAuthority)
    (ops : List (Moment × Operation)) :
    (rowsOf (entriesOf a ops)).filter (·.fingerprint = alert)
      = Operation.rowsOf alert (a.alerts.find? alert)
          (ops.filter fun p => p.2.alert? = some alert) := by
  induction ops generalizing a with
  | nil => rfl
  | cons p ops ih =>
    obtain ⟨m, op⟩ := p
    have hrest := ih (Authority.apply op a)
    rw [MemoryAuthority.find?_apply] at hrest
    rw [entriesOf, rowsOf, List.map_append, List.filter_append]
    change _ ++ (rowsOf (entriesOf (Authority.apply op a) ops)).filter _ = _
    rw [hrest, List.filter_cons]
    by_cases hop : op.alert? = some alert
    · rw [if_pos hop, if_pos (by simpa using hop), Operation.rowsOf, Operation.entry_of_alert hop]
      cases op.transition (a.alerts.find? alert) with
      | none => rfl
      | some t => simp [Entry.event_eq, Transition.row]
    · rw [if_neg hop, if_neg (by simpa using hop)]
      cases he : op.entry a with
      | none => rfl
      | some e =>
        -- The entry is about the alert of the operation, which is another one.
        have hne : (e.event m).fingerprint ≠ alert := by
          rintro rfl
          rw [Entry.fingerprint_event] at hop
          exact hop (Operation.entry_eq_some he).1
        simp [hne]

/-! ### What the sink sees -/

section

variable {σ τ : Type} [Authority σ] [Sink τ] (clock : Nat → Moment) (i : Nat)
  (summary : ReplaySummary) (op : Operation) (ops : List Operation) (t : Trail σ τ)

lemma applyAll_cons_emitted :
    (applyAll clock i summary (op :: ops) t).emitted
      = .log (.replaying op.name op.alert?) :: (t.apply (clock i) op).emitted
        ++ (applyAll clock (i + 1) (summary.add op) ops (t.apply (clock i) op).state).emitted := rfl

/-- To apply the operations of a stream is a run of calls, but for what is logged of the replay
itself. -/
lemma applyAll_run :
    (applyAll clock i summary ops t).state = after (changes (timed clock i ops)) t ∧
      (run (changes (timed clock i ops)) t).emitted.Sublist
        (applyAll clock i summary ops t).emitted := by
  induction ops generalizing i summary t with
  | nil => exact ⟨rfl, .refl _⟩
  | cons op ops ih =>
    obtain ⟨hstate, hemitted⟩ := ih (i + 1) (summary.add op) (t.apply (clock i) op).state
    refine ⟨hstate, ?_⟩
    rw [applyAll_cons_emitted]
    exact ((List.Sublist.refl _).append hemitted).cons _

end

/-- Entries as calls on a sink. -/
def appends (entries : List (Moment × Entry)) : List (Moment × SinkCall) :=
  entries.map fun p => (p.1, .append p.2)

lemma allRows_appends (entries : List (Moment × Entry)) :
    SinkCall.allRows (appends entries) = rowsOf entries := by
  rw [SinkCall.allRows, appends, List.flatMap_map, rowsOf, List.map_eq_flatMap]
  rfl

lemma closes_appends (entries : List (Moment × Entry)) :
    ∀ c ∈ appends entries, c.2.closes = false := by
  intro c hc
  obtain ⟨p, -, rfl⟩ := List.mem_map.mp hc
  rfl

/-- What operations come to for a sink is that it is handed their entries. -/
lemma sinkCalls_changes {τ : Type} [Sink τ] (ops : List (Moment × Operation))
    (t : Trail MemoryAuthority τ) :
    sinkCalls (changes ops) t = appends (entriesOf t.authority ops) := by
  induction ops generalizing t with
  | nil => rfl
  | cons p ops ih =>
    obtain ⟨m, op⟩ := p
    have hrest := ih (t.apply m op).state
    rw [apply_authority] at hrest
    rw [changes, List.map_cons, sinkCalls, sinkCall?_change, decide_run]
    change _ ++ sinkCalls (changes ops) (t.apply m op).state = _
    rw [hrest, entriesOf, appends, appends, List.map_append]
    cases op.entry t.authority <;> rfl

/-! ### Lines of the log -/

/-- The lines of the log that are about rows. -/
def rowLines (emitted : List Effect) : List LogEvent :=
  (emitted.filterMap Effect.log?).filter fun e => ("event_type", .text "alert_state") ∈ e.fields

lemma rowLines_append (xs ys : List Effect) :
    rowLines (xs ++ ys) = rowLines xs ++ rowLines ys := by
  rw [rowLines, List.filterMap_append, List.filter_append, rowLines, rowLines]

/-- Of an operation, a sink that logs each row logs the row of its entry. -/
lemma rowLines_apply (m : Moment) (op : Operation) (t : Trail MemoryAuthority LoggingSink) :
    rowLines (t.apply m op).emitted
      = (rowsOf ((op.entry t.authority).map fun e => (m, e)).toList).map LogEvent.row := by
  rw [apply_eq]
  cases op.entry t.authority with
  | none => rfl
  | some e =>
    have happending : ("event_type", .text "alert_state") ∉ (LogEvent.appending e).fields := by
      obtain ⟨alert, t⟩ := e
      cases t <;> simp [LogEvent.appending]
    have hrow : ("event_type", .text "alert_state") ∈ (LogEvent.row (e.event m)).fields :=
      List.mem_cons_self
    cases t.metered <;> simp [record, Sink.append, rowLines, Effect.log?, happending, hrow, rowsOf]

lemma rowLines_applyAll (clock : Nat → Moment) (i : Nat) (summary : ReplaySummary)
    (ops : List Operation) (t : Trail MemoryAuthority LoggingSink) :
    rowLines (applyAll clock i summary ops t).emitted
      = (rowsOf (entriesOf t.authority (timed clock i ops))).map LogEvent.row := by
  induction ops generalizing i summary t with
  | nil => rfl
  | cons op ops ih =>
    have hrest := ih (i + 1) (summary.add op) (t.apply (clock i) op).state
    rw [apply_authority] at hrest
    have hreplaying (emitted : List Effect) :
        rowLines (.log (.replaying op.name op.alert?) :: emitted) = rowLines emitted := by
      simp [rowLines, Effect.log?, LogEvent.replaying]
    rw [timed_cons, entriesOf, rowsOf, List.map_append, List.map_append, applyAll_cons_emitted,
      rowLines_append, hreplaying, rowLines_apply, hrest]
    rfl

/-! ### The ledger after a replay -/

/-- A store in which nothing waited has the rows of a replay in its tables, and the replay succeeds,
if no batch is lost. -/
lemma replay_sink (clock : Nat → Moment) (ops : List Operation) (metered : Bool) {s : Store}
    (ho : s.isOpen) (hp : s.pending = [])
    (hlost : Store.LosesNone (replay clock ops (inMemory s metered)).emitted) :
    (∃ summary, (replay clock ops (inMemory s metered)).result = .ok summary) ∧
      (replay clock ops (inMemory s metered)).state.sink
        = { s with tables := s.tables.putAll (replayRows clock ops) } := by
  obtain ⟨hstate, happlied⟩ := applyAll_run clock 0 {} ops (inMemory s metered)
  obtain ⟨hsink, hemitted⟩ := run_sink (changes (timed clock 0 ops)) (inMemory s metered)
  rw [← hstate, sinkCalls_changes] at hsink
  rw [sinkCalls_changes] at hemitted
  have hrun : Store.LosesNone
      (Sink.run (appends (entriesOf .empty (timed clock 0 ops))) s).emitted :=
    fun rows hf => hlost rows (List.mem_append_left _ (happlied.subset (hemitted.subset hf)))
  have hflush : Store.LosesNone
      ((applyAll clock 0 {} ops (inMemory s metered)).state.sink.flush
        (clock ops.length)).emitted :=
    fun rows hf => hlost rows (List.mem_append_right _ hf)
  rw [hsink] at hflush
  obtain ⟨hresult, hflushed⟩ := Store.flush_run ho hp (closes_appends _) hrun hflush
  rw [allRows_appends] at hflushed
  refine ⟨⟨(applyAll clock 0 {} ops (inMemory s metered)).result, ?_⟩, ?_⟩
  · change Except.map _ (Store.flush _ (applyAll clock 0 {} ops _).state.sink).result = _
    rw [hsink]
    exact congrArg (Except.map _) hresult
  · change (Store.flush _ (applyAll clock 0 {} ops _).state.sink).state = _
    rw [hsink]
    exact hflushed

/-- **A replay is persisted faithfully.**  A stream is replayed over an authority in memory that
knows of nothing, into a store of any capacity and with any tables, in which nothing waits. If no
batch is lost, and the ids of the new rows ascend and are larger than all ids of the store, then the
replay succeeds, and the history of every alert is what it was before, followed by the rows that the
rules make of the operations on that alert, in their order. A sink that logs each row at once logs
the rows of the same replay, with the same fields in the same order. -/
theorem replay_persists (clock : Nat → Moment) (ops : List Operation) (metered : Bool) {s : Store}
    (ho : s.isOpen) (hp : s.pending = [])
    (hlost : Store.LosesNone (replay clock ops (inMemory s metered)).emitted)
    (hids : (replayRows clock ops).Pairwise StateEvent.Before)
    (hnew : ∀ e ∈ replayRows clock ops, ∀ id ∈ s.tables.rows.keys, compare id e.id = .lt) :
    let replayed := replay clock ops (inMemory s metered)
    let operationsOn (alert : Fingerprint) :=
      (timed clock 0 ops).filter fun p => p.2.alert? = some alert
    (∃ summary, replayed.result = .ok summary) ∧
      (∀ alert, ∃ before, s.history alert 0 = .ok before ∧
        replayed.state.sink.history alert 0
          = .ok (before ++ Operation.rowsOf alert none (operationsOn alert))) ∧
      (∀ metered', rowLines (replay clock ops (inMemory LoggingSink.mk metered')).emitted
        = (replayRows clock ops).map LogEvent.row) ∧
      ∀ alert, (replayRows clock ops).filter (·.fingerprint = alert)
        = Operation.rowsOf alert none (operationsOn alert) := by
  intro replayed operationsOn
  have hfilter (alert : Fingerprint) := filter_rowsOf_entriesOf alert .empty (timed clock 0 ops)
  obtain ⟨hresult, hsink⟩ := replay_sink clock ops metered ho hp hlost
  refine ⟨hresult, ?_, ?_, hfilter⟩
  · intro alert
    refine ⟨s.tables.query s.urnCase (.forAlert alert 0), s.history_of_open ho alert, ?_⟩
    have hhistory := Tables.query_forAlert_putAll s.urnCase alert hids hnew
    rw [replayRows, hfilter] at hhistory
    change replayed.state.sink = _ at hsink
    rw [hsink, Store.history_of_open _ (by exact ho)]
    exact congrArg Except.ok hhistory
  · intro metered'
    change rowLines ((applyAll clock 0 {} ops _).emitted ++ []) = _
    rw [List.append_nil, rowLines_applyAll]
    rfl

/-! ### A replay onto older rows -/

/-- Two alerts come and go; for one of them inhibitors come and go, too. -/
def comings : List Operation :=
  [.silence (.fingerprint ⟨1⟩) 1 [] [], .silence (.fingerprint ⟨2⟩) 1 ["s"] [],
    .inhibit (.fingerprint ⟨1⟩) ["a", "b"], .mute ⟨"route", "group"⟩ ["nights"],
    .inhibit (.fingerprint ⟨1⟩) [], .delete (.fingerprint ⟨2⟩), .delete (.fingerprint ⟨1⟩)]

/-- A clock whose ids start at ten. -/
def fromTen (i : Nat) : Moment := { id := .ofNat (10 + i), now := UInt64.ofNat i }

/-- The row of one of the alerts that was there before. -/
def olderRow : StateEvent := .transition { id := .ofNat 1, now := 0 } ⟨1⟩ .deleted

/-- A store with this row, in which two rows make a batch. -/
def olderStore : Store := .onTables (Tables.empty.putAll [olderRow]) 2

lemma losesNone_comings :
    Store.LosesNone (replay fromTen comings (inMemory olderStore true)).emitted := by
  have hmetrics : (replay fromTen comings (inMemory olderStore true)).emitted.filterMap
      Effect.metric? =
      [.transition "active", .flushed 2, .flushTime 0, .transition "suppressed",
        .transition "suppressed", .flushed 2, .flushTime 0, .transition "deleted",
        .transition "deleted", .flushed 1, .flushTime 0] := rfl
  intro rows h
  have hdropped : .dropped Store.flushReason rows ∈
      (replay fromTen comings (inMemory olderStore true)).emitted.filterMap Effect.metric? :=
    List.mem_filterMap.mpr ⟨_, h, rfl⟩
  rw [hmetrics] at hdropped
  simp at hdropped

/-- In the history of that alert the new rows follow the older one. -/
theorem replay_persists_comings :
    ∃ summary,
      (replay fromTen comings (inMemory olderStore true)).result = .ok summary ∧
      (replay fromTen comings (inMemory olderStore true)).state.sink.history ⟨1⟩ 0
        = .ok [olderRow, .transition (fromTen 0) ⟨1⟩ .active,
            .inhibited (fromTen 2) ⟨1⟩ ["a", "b"], .transition (fromTen 6) ⟨1⟩ .deleted] := by
  have hbefore : olderStore.history ⟨1⟩ 0 = .ok [olderRow] := by
    have hnone : ∀ e ∈ [olderRow], ∀ id ∈ Tables.empty.rows.keys, compare id e.id = .lt := by
      intro e _ id hid
      cases hid
    rw [olderStore.history_of_open rfl]
    exact congrArg Except.ok
      (Tables.query_forAlert_putAll .any ⟨1⟩ (List.pairwise_singleton _ _) hnone)
  obtain ⟨⟨summary, hresult⟩, hhistory, -⟩ :=
    replay_persists fromTen comings true (s := olderStore) rfl rfl losesNone_comings (by decide)
      (by decide)
  obtain ⟨before, hbefore', hafter⟩ := hhistory ⟨1⟩
  obtain rfl : before = [olderRow] := Except.ok.inj (hbefore'.symm.trans hbefore)
  exact ⟨summary, hresult, hafter⟩

end Trail

end AlertLedger
