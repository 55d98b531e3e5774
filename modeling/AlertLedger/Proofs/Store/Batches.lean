/-
# The batches of a store

As long as it loses no batch, a store writes what it is handed in the order in which it is handed
(`Store.Wrote`): a first part of it is in the tables, and while the store is open the rest waits in
the buffer. When a batch is written, and how large it is, makes no difference to that. What comes
after the close is never written.
-/
import AlertLedger.Proofs.Store.Run
import AlertLedger.Proofs.Store.Tables

namespace AlertLedger.Store

/-- No batch of rows is dropped because it could not be written. -/
def LosesNone (emitted : List Effect) : Prop :=
  ∀ rows, .metric (.dropped flushReason rows) ∉ emitted

lemma losesNone_append {xs ys : List Effect} :
    LosesNone (xs ++ ys) ↔ LosesNone xs ∧ LosesNone ys := by
  simp only [LosesNone, List.mem_append, not_or, forall_and]

/-- A batch that cannot be written is dropped, and that is emitted. -/
lemma not_losesNone_dropped (e : LogEvent) (rows : UInt64) :
    ¬ LosesNone [.log e, .metric (.dropped flushReason rows)] :=
  fun h => h rows (List.mem_cons_of_mem _ List.mem_cons_self)

/-- A store on new tables. -/
def fresh (capacity : Nat) : Store := .onTables .empty capacity

/-- A store that lay on `t` and was handed `events` since then. -/
def Wrote (t : Tables) (events : List StateEvent) (s : Store) : Prop :=
  ∃ written, s.tables = t.putAll written ∧ written <+: events ∧
    (s.isOpen → written ++ s.pending = events)

namespace Wrote

variable {t : Tables} {events : List StateEvent} {s : Store}

/-- At first nothing was handed over. -/
lemma onTables (t : Tables) (capacity : Nat) : (Store.onTables t capacity).Wrote t [] :=
  ⟨[], rfl, List.prefix_rfl, fun _ => rfl⟩

/-- A call that loses no batch hands over the row that it brings. -/
lemma of_outcome (h : s.Wrote t events) {m : Moment} {c : SinkCall} {s' : Store}
    {emitted : List Effect} (hs : Outcome m c s s' emitted) (hl : LosesNone emitted) :
    s'.Wrote t (events ++ c.rows m) := by
  obtain ⟨written, htables, hpre, hopen⟩ := h
  cases hs with
  | refused ho =>
    -- After the close the tables stay behind what is handed over.
    refine ⟨written, htables, hpre.trans (List.prefix_append events _), ?_⟩
    intro ho'
    rw [ho] at ho'
    cases ho'
  | waited ho =>
    refine ⟨written, htables, hpre.trans (List.prefix_append events _), ?_⟩
    intro _
    rw [waiting_eq, ← List.append_assoc, hopen ho]
  | written ho =>
    have hall : written ++ s.waiting m c = events ++ c.rows m := by
      rw [waiting_eq, ← List.append_assoc, hopen ho]
    refine ⟨written ++ s.waiting m c, ?_, hall ▸ List.prefix_rfl, ?_⟩
    · rw [Tables.putAll_append, ← htables]
    · intro _
      rw [List.append_nil, hall]
  | lost => exact absurd hl (not_losesNone_dropped _ _)

lemma perform (h : s.Wrote t events) {m : Moment} {c : SinkCall}
    (hl : LosesNone (Sink.perform m c s).emitted) :
    (Sink.perform m c s).state.Wrote t (events ++ c.rows m) :=
  h.of_outcome (perform_outcome m c s) hl

/-- A run that loses no batch hands over the rows that it brings. -/
theorem run (h : s.Wrote t events) {calls : List (Moment × SinkCall)}
    (hl : LosesNone (Sink.run calls s).emitted) :
    (Sink.run calls s).state.Wrote t (events ++ SinkCall.allRows calls) := by
  induction calls generalizing s events with
  | nil =>
    rw [SinkCall.allRows, List.flatMap_nil, List.append_nil]
    exact h
  | cons c calls ih =>
    obtain ⟨m, c⟩ := c
    rw [Sink.run_cons_emitted, losesNone_append] at hl
    rw [Sink.run_cons_state, SinkCall.allRows_cons, ← List.append_assoc]
    exact ih (h.perform hl.1) hl.2

end Wrote

/-- An open store in which nothing waits and that is handed rows has just these in its tables once
it is flushed, if it loses none; and the flush succeeds. -/
theorem flush_run {s : Store} (ho : s.isOpen) (hp : s.pending = [])
    {calls : List (Moment × SinkCall)} (hc : ∀ c ∈ calls, c.2.closes = false) {m : Moment}
    (hrun : LosesNone (Sink.run calls s).emitted)
    (hflush : LosesNone ((Sink.run calls s).state.flush m).emitted) :
    ((Sink.run calls s).state.flush m).result = .ok () ∧
      ((Sink.run calls s).state.flush m).state
        = { s with tables := s.tables.putAll (SinkCall.allRows calls) } := by
  have hstart : s.Wrote s.tables [] := ⟨[], rfl, List.prefix_rfl, fun _ => hp⟩
  have hwrote := hstart.run hrun
  obtain ⟨tables, pending, hframe⟩ := frame_run hc s
  have hopen : (Sink.run calls s).state.isOpen := by rwa [hframe]
  have hflushed := flush_outcome m hopen
  constructor
  · by_cases hpending : (Sink.run calls s).state.pending = []
    · rw [flush_of_nil m hopen hpending]
    · by_cases hd : m.disk = .working
      · rw [flush_of_working m hopen hpending hd]
      · rw [flush_of_failing m hopen hpending hd] at hflush
        exact absurd hflush (not_losesNone_dropped _ _)
  · obtain ⟨written, htables, -, hall⟩ := hwrote.of_outcome hflushed hflush
    obtain ⟨tables', pending', hframe'⟩ := hflushed.frame rfl
    have hnil := hflushed.pending_of_flush hopen
    rw [hframe', hframe] at htables hnil hall ⊢
    obtain rfl : pending' = [] := hnil
    obtain rfl : tables' = s.tables.putAll written := htables
    obtain rfl : written = SinkCall.allRows calls := by simpa [SinkCall.rows] using hall ho
    rw [← hp]

end AlertLedger.Store
