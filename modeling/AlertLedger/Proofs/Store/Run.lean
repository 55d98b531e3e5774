/-
# Runs of a store

For a store each call of a run comes down to one of four things (`Store.Outcome`): it is refused,
because the store is closed; the rows wait, because there is room or because there are none; they
are written; or they are lost. The rows meant are those that wait already and the one that the call
may bring. What a store keeps in a run is shown for these four (`Store.perform_outcome`).
-/
import AlertLedger.Proofs.Sink
import AlertLedger.Store

namespace AlertLedger

namespace Store

/-! ### What a flush does -/

section

variable (m : Moment) {s : Store}

lemma flush_of_closed (h : s.isOpen = false) :
    s.flush m = { result := .error .closed, state := s } := by
  rw [flush, if_pos (by simpa using h)]

lemma flush_of_nil (ho : s.isOpen) (hp : s.pending = []) :
    s.flush m = { result := .ok (), state := s } := by
  rw [flush, if_neg (by simpa using ho), if_pos (by simpa using hp)]

lemma flush_of_working (ho : s.isOpen) (hp : s.pending ≠ []) (hd : m.disk = .working) :
    s.flush m =
      { result := .ok ()
        state := { s with tables := s.tables.putAll s.pending, pending := [] }
        emitted := [.log (.flushed s.pending.length), .metric (.flushed (rowCount s.pending)),
          .metric (.flushTime m.writeTime)] } := by
  rw [flush, if_neg (by simpa using ho), if_neg (by simpa using hp), if_pos hd]

lemma flush_of_failing (ho : s.isOpen) (hp : s.pending ≠ []) (hd : m.disk ≠ .working) :
    s.flush m =
      { result := .error (writeFault m)
        state := { s with pending := [] }
        emitted := [.log (.flushFailed (writeFault m) s.pending.length),
          .metric (.dropped flushReason (rowCount s.pending))] } := by
  rw [flush, if_neg (by simpa using ho), if_neg (by simpa using hp), if_neg hd]

end

/-! ### What a call does -/

/-- The rows that wait, with the one that a call brings. -/
def waiting (m : Moment) (c : SinkCall) (s : Store) : List StateEvent :=
  match c with
  | .append e => s.pending ++ [e.event m]
  | .flush | .close => s.pending

lemma waiting_eq (m : Moment) (c : SinkCall) (s : Store) :
    s.waiting m c = s.pending ++ c.rows m := by
  cases c with
  | append e => rfl
  | flush | close => exact (List.append_nil _).symm

/-- What a call makes of a store, and what is emitted then. -/
inductive Outcome (m : Moment) (c : SinkCall) (s : Store) : Store → List Effect → Prop where
  /-- A closed store stays as it is and reports a row that comes. -/
  | refused (ho : s.isOpen = false) :
    Outcome m c s s ((c.rows m).flatMap fun e =>
      [.log (.droppedAfterClose e), .metric (.dropped closedReason 1)])
  /-- The rows wait on, or there are none. -/
  | waited (ho : s.isOpen)
      (hroom : s.waiting m c = [] ∨ c.rows m ≠ [] ∧ (s.waiting m c).length < s.capacity) :
    Outcome m c s { s with isOpen := !c.closes && s.isOpen, pending := s.waiting m c } []
  /-- The rows are written. -/
  | written (ho : s.isOpen) (hne : s.waiting m c ≠ [])
      (hfull : c.rows m ≠ [] → s.capacity ≤ (s.waiting m c).length) (hdisk : m.disk = .working) :
    Outcome m c s
      { s with
        isOpen := !c.closes && s.isOpen
        tables := s.tables.putAll (s.waiting m c)
        pending := [] }
      [.log (.flushed (s.waiting m c).length), .metric (.flushed (rowCount (s.waiting m c))),
        .metric (.flushTime m.writeTime)]
  /-- The rows cannot be written; not even a call to close the store does then. -/
  | lost (ho : s.isOpen) (hne : s.waiting m c ≠ [])
      (hfull : c.rows m ≠ [] → s.capacity ≤ (s.waiting m c).length) (hdisk : m.disk ≠ .working) :
    Outcome m c s { s with pending := [] }
      [.log (.flushFailed (writeFault m) (s.waiting m c).length),
        .metric (.dropped flushReason (rowCount (s.waiting m c)))]

section

variable (m : Moment) {s : Store}

lemma push_outcome (e : Entry) (ho : s.isOpen) :
    Outcome m (.append e) s (s.push m (e.event m)).state (s.push m (e.event m)).emitted := by
  have hne : s.pending ++ [e.event m] ≠ [] := by simp
  rw [push, if_neg (by simpa using ho)]
  by_cases hfull : (s.pending ++ [e.event m]).length ≥ s.capacity
  · simp only [if_pos hfull]
    by_cases hd : m.disk = .working
    · rw [flush_of_working m (by exact ho) hne hd]
      exact .written ho hne (fun _ => hfull) hd
    · rw [flush_of_failing m (by exact ho) hne hd]
      exact .lost ho hne (fun _ => hfull) hd
  · simp only [if_neg hfull]
    exact .waited ho (.inr ⟨List.cons_ne_nil _ _, Nat.lt_of_not_le hfull⟩)

lemma flush_outcome (ho : s.isOpen) : Outcome m .flush s (s.flush m).state (s.flush m).emitted := by
  by_cases hp : s.pending = []
  · rw [flush_of_nil m ho hp]
    exact .waited ho (.inl hp)
  · by_cases hd : m.disk = .working
    · rw [flush_of_working m ho hp hd]
      exact .written ho hp (absurd rfl) hd
    · rw [flush_of_failing m ho hp hd]
      exact .lost ho hp (absurd rfl) hd

lemma close_outcome (ho : s.isOpen) : Outcome m .close s (s.close m).state (s.close m).emitted := by
  rw [close, if_neg (by simpa using ho)]
  by_cases hp : s.pending = []
  · rw [flush_of_nil m ho hp]
    exact .waited ho (.inl hp)
  · by_cases hd : m.disk = .working
    · rw [flush_of_working m ho hp hd]
      exact .written ho hp (absurd rfl) hd
    · rw [flush_of_failing m ho hp hd]
      exact .lost ho hp (absurd rfl) hd

/-- **A call on a store comes down to one of four things.**  What waits and what comes is refused,
waits on, is written or is lost. -/
theorem perform_outcome (c : SinkCall) (s : Store) :
    Outcome m c s (Sink.perform m c s).state (Sink.perform m c s).emitted := by
  cases ho : s.isOpen with
  | false =>
    have hclosed : (!s.isOpen) = true := by simpa using ho
    cases c with
    | append e =>
      change Outcome m _ s (s.push m (e.event m)).state (s.push m (e.event m)).emitted
      rw [push, if_pos hclosed]
      exact .refused ho
    | flush =>
      change Outcome m _ s (s.flush m).state (s.flush m).emitted
      rw [flush_of_closed m ho]
      exact .refused ho
    | close =>
      change Outcome m _ s (s.close m).state (s.close m).emitted
      rw [close, if_pos hclosed]
      exact .refused ho
  | true =>
    cases c with
    | append e => exact push_outcome m e ho
    | flush => exact flush_outcome m ho
    | close => exact close_outcome m ho

end

/-! ### What a run leaves alone -/

section

variable {m : Moment} {c : SinkCall} {s s' : Store} {emitted : List Effect}

/-- Unless it is told to close, a store changes nothing but its tables and its buffer. -/
lemma Outcome.frame (h : Outcome m c s s' emitted) (hc : c.closes = false) :
    ∃ tables pending, s' = { s with tables, pending } := by
  cases h with
  | refused => exact ⟨s.tables, s.pending, rfl⟩
  | waited =>
    rw [hc]
    exact ⟨s.tables, s.waiting m c, rfl⟩
  | written =>
    rw [hc]
    exact ⟨s.tables.putAll (s.waiting m c), [], rfl⟩
  | lost => exact ⟨s.tables, [], rfl⟩

/-- No call changes how many rows make a batch, or how strictly ids are read. -/
lemma Outcome.settings (h : Outcome m c s s' emitted) :
    s'.capacity = s.capacity ∧ s'.urnCase = s.urnCase := by
  cases h <;> exact ⟨rfl, rfl⟩

/-- When an open store is flushed nothing waits any more. -/
lemma Outcome.pending_of_flush (h : Outcome m .flush s s' emitted) (ho : s.isOpen) :
    s'.pending = [] := by
  cases h with
  | refused ho' =>
    rw [ho] at ho'
    cases ho'
  | waited _ hroom => exact hroom.resolve_right fun h => h.1 rfl
  | written | lost => rfl

/-- In a closed store nothing waits, if nothing did before. -/
lemma Outcome.idle (h : Outcome m c s s' emitted) (hs : s.isOpen = false → s.pending = [])
    (hclosed : s'.isOpen = false) : s'.pending = [] := by
  cases h with
  | refused => exact hs hclosed
  | waited ho hroom =>
    rcases hroom with hnil | ⟨hrows, -⟩
    · exact hnil
    · -- A row that comes does not close the store.
      cases c with
      | append => simp [SinkCall.closes, ho] at hclosed
      | flush | close => exact absurd rfl hrows
  | written | lost => rfl

lemma settings_run (calls : List (Moment × SinkCall)) (s : Store) :
    (Sink.run calls s).state.capacity = s.capacity ∧
      (Sink.run calls s).state.urnCase = s.urnCase := by
  induction calls generalizing s with
  | nil => exact ⟨rfl, rfl⟩
  | cons c calls ih =>
    obtain ⟨m, c⟩ := c
    obtain ⟨hcapacity, hurnCase⟩ := (perform_outcome m c s).settings
    rw [Sink.run_cons_state, (ih _).1, (ih _).2]
    exact ⟨hcapacity, hurnCase⟩

lemma frame_run {calls : List (Moment × SinkCall)} (hc : ∀ c ∈ calls, c.2.closes = false)
    (s : Store) : ∃ tables pending, (Sink.run calls s).state = { s with tables, pending } := by
  induction calls generalizing s with
  | nil => exact ⟨s.tables, s.pending, rfl⟩
  | cons c calls ih =>
    obtain ⟨m, c⟩ := c
    obtain ⟨hc, hcalls⟩ := List.forall_mem_cons.mp hc
    obtain ⟨tables, pending, hcall⟩ := (perform_outcome m c s).frame hc
    obtain ⟨tables', pending', hrest⟩ := ih hcalls (Sink.perform m c s).state
    refine ⟨tables', pending', ?_⟩
    rw [Sink.run_cons_state, hrest, hcall]

end

end Store

end AlertLedger
