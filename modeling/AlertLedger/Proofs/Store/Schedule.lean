/-
# When a store writes

A store collects rows until they make a batch and then tries to write them. It keeps none of them
whether that works or not, so there is always room for one more row in its buffer, whatever it is
called with and however often its disk fails (`Store.pending_run`).

While it is told neither to flush nor to close, it tries to write just when a batch is full. The
rows that come are then cut into batches as they come, each of the size that was asked for, and what
is over waits (`Store.scheduled_run`). How many batches there are and how many rows wait is a matter
of division with remainder. The main result is `Store.written_on_schedule`.
-/
import AlertLedger.Proofs.Store.Calls
import AlertLedger.Proofs.Store.Run
import Mathlib.Data.List.Basic

namespace AlertLedger

/-- The rows that calls bring, each with the moment at which it comes. -/
def SinkCall.arrivals (calls : List (Moment × SinkCall)) : List (Moment × StateEvent) :=
  calls.flatMap fun (m, c) => (c.rows m).map fun e => (m, e)

namespace Store

/-! ### Room in the buffer -/

section

variable {m : Moment} {c : SinkCall} {s s' : Store} {emitted : List Effect}

/-- No call fills up the buffer. -/
lemma Outcome.pending_lt (h : Outcome m c s s' emitted) (hs : s.pending.length < s.capacity) :
    s'.pending.length < s'.capacity := by
  have hpos : 0 < s.capacity := Nat.zero_lt_of_lt hs
  cases h with
  | refused => exact hs
  | waited _ hroom =>
    rcases hroom with hnil | ⟨-, hroom⟩
    · change (s.waiting m c).length < s.capacity
      rw [hnil]
      exact hpos
    · exact hroom
  | written | lost => exact hpos

/-- There is room for the row that a call brings. -/
lemma length_waiting_le (hs : s.pending.length < s.capacity) (m : Moment) (c : SinkCall) :
    (s.waiting m c).length ≤ s.capacity := by
  cases c with
  | append e =>
    rw [waiting, List.length_append]
    exact hs
  | flush | close => exact Nat.le_of_lt hs

end

/-- A run leaves room in the buffer. -/
lemma pending_run {s : Store} (hs : s.pending.length < s.capacity)
    (calls : List (Moment × SinkCall)) :
    (Sink.run calls s).state.pending.length < (Sink.run calls s).state.capacity := by
  induction calls generalizing s with
  | nil => exact hs
  | cons c calls ih =>
    obtain ⟨m, c⟩ := c
    exact ih ((perform_outcome m c s).pending_lt hs)

/-! ### Attempts -/

/-- What is emitted when it is tried to write a batch, which is when its last row comes. -/
def report (batch : List (Moment × StateEvent)) : List Effect :=
  batch.getLast?.elim [] fun (m, _) =>
    if m.disk = .working then
      [.log (.flushed batch.length), .metric (.flushed (UInt64.ofNat batch.length)),
        .metric (.flushTime m.writeTime)]
    else
      [.log (.flushFailed (writeFault m) batch.length),
        .metric (.dropped flushReason (UInt64.ofNat batch.length))]

/-- The tables after it was tried to write a batch. -/
def commit (t : Tables) (batch : List (Moment × StateEvent)) : Tables :=
  batch.getLast?.elim t fun (m, _) =>
    if m.disk = .working then t.putAll (batch.map (·.2)) else t

section

variable (before : List (Moment × StateEvent)) (m : Moment) (e : StateEvent)

lemma report_concat :
    report (before ++ [(m, e)]) =
      if m.disk = .working then
        [.log (.flushed (before ++ [(m, e)]).length),
          .metric (.flushed (UInt64.ofNat (before ++ [(m, e)]).length)),
          .metric (.flushTime m.writeTime)]
      else
        [.log (.flushFailed (writeFault m) (before ++ [(m, e)]).length),
          .metric (.dropped flushReason (UInt64.ofNat (before ++ [(m, e)]).length))] := by
  rw [report, List.getLast?_concat]
  rfl

lemma commit_concat (t : Tables) :
    commit t (before ++ [(m, e)]) =
      if m.disk = .working then t.putAll ((before ++ [(m, e)]).map (·.2)) else t := by
  rw [commit, List.getLast?_concat]
  rfl

end

/-- A row that comes waits if it does not make the batch full, and otherwise it is tried to write
the batch. -/
lemma Outcome.of_append {m : Moment} {e : Entry} {s s' : Store} {emitted : List Effect}
    (h : Outcome m (.append e) s s' emitted) (ho : s.isOpen)
    {before : List (Moment × StateEvent)} (hp : s.pending = before.map (·.2)) :
    let batch := before ++ [(m, e.event m)]
    (batch.length < s.capacity ∧ s' = { s with pending := batch.map (·.2) } ∧ emitted = []) ∨
      (s.capacity ≤ batch.length ∧
        s' = { s with tables := commit s.tables batch, pending := [] } ∧
        emitted = report batch) := by
  intro batch
  have hwaiting : s.waiting m (.append e) = batch.map (·.2) := by
    rw [waiting, hp, List.map_append]
    rfl
  have hlength : (s.waiting m (.append e)).length = batch.length := by
    rw [hwaiting, List.length_map]
  have hrow : SinkCall.rows m (.append e) ≠ [] := List.cons_ne_nil _ _
  cases h with
  | refused ho' =>
    rw [ho] at ho'
    cases ho'
  | waited _ hroom =>
    have hne : s.waiting m (.append e) ≠ [] := by simp [waiting]
    have hroom := (hroom.resolve_left hne).2
    rw [hlength] at hroom
    refine .inl ⟨hroom, ?_, rfl⟩
    rw [hwaiting]
    rfl
  | written _ _ hfull hdisk =>
    refine .inr ⟨hlength ▸ hfull hrow, ?_, ?_⟩
    · rw [commit_concat, if_pos hdisk, hwaiting]
      rfl
    · rw [report_concat, if_pos hdisk, rowCount, hlength]
  | lost _ _ hfull hdisk =>
    refine .inr ⟨hlength ▸ hfull hrow, ?_, ?_⟩
    · rw [commit_concat, if_neg hdisk]
    · rw [report_concat, if_neg hdisk, rowCount, hlength]

/-- Rows that come to those that wait are cut into full batches, and what is over waits. -/
lemma scheduled_run {s : Store} (ho : s.isOpen) {before : List (Moment × StateEvent)}
    (hp : s.pending = before.map (·.2)) (hroom : before.length < s.capacity)
    {calls : List (Moment × SinkCall)} (hc : ∀ p ∈ calls, ∃ e, p.2 = .append e) :
    ∃ (attempts : List (List (Moment × StateEvent))) (rest : List (Moment × StateEvent)),
      attempts.flatten ++ rest = before ++ SinkCall.arrivals calls ∧
        (∀ batch ∈ attempts, batch.length = s.capacity) ∧
        rest.length < s.capacity ∧
        (Sink.run calls s).emitted = attempts.flatMap report ∧
        (Sink.run calls s).state
          = { s with tables := attempts.foldl commit s.tables, pending := rest.map (·.2) } := by
  induction calls generalizing s before with
  | nil =>
    refine ⟨[], before, (List.append_nil before).symm, List.forall_mem_nil _, hroom, rfl, ?_⟩
    rw [← hp]
    rfl
  | cons p calls ih =>
    obtain ⟨⟨e, he⟩, hcalls⟩ := List.forall_mem_cons.mp hc
    obtain ⟨m, c⟩ := p
    obtain rfl : c = .append e := he
    have harrivals : SinkCall.arrivals ((m, .append e) :: calls)
        = [(m, e.event m)] ++ SinkCall.arrivals calls := rfl
    rw [Sink.run_cons_emitted, Sink.run_cons_state, harrivals, ← List.append_assoc]
    rcases (perform_outcome m (.append e) s).of_append ho hp with
      ⟨hlt, hs, hemitted⟩ | ⟨hle, hs, hemitted⟩
    · rw [hs, hemitted]
      exact ih (s := { s with pending := (before ++ [(m, e.event m)]).map (·.2) }) ho rfl hlt hcalls
    · have hfull : (before ++ [(m, e.event m)]).length = s.capacity := by
        rw [List.length_append, List.length_singleton] at hle ⊢
        omega
      rw [hs, hemitted]
      obtain ⟨attempts, rest, hall, hsizes, hrest, hemitted', hs'⟩ :=
        ih (s := { s with tables := commit s.tables (before ++ [(m, e.event m)]), pending := [] })
          ho List.map_nil.symm (Nat.zero_lt_of_lt hroom) hcalls
      refine ⟨(before ++ [(m, e.event m)]) :: attempts, rest, ?_, ?_, hrest, ?_, hs'⟩
      · rw [List.flatten_cons, List.append_assoc, hall, List.nil_append]
      · exact List.forall_mem_cons.mpr ⟨hfull, hsizes⟩
      · rw [hemitted', List.flatMap_cons]

/-- An append brings one row. -/
lemma length_arrivals {calls : List (Moment × SinkCall)} (hc : ∀ p ∈ calls, ∃ e, p.2 = .append e) :
    (SinkCall.arrivals calls).length = calls.length := by
  induction calls with
  | nil => rfl
  | cons p calls ih =>
    obtain ⟨⟨e, he⟩, hcalls⟩ := List.forall_mem_cons.mp hc
    obtain ⟨m, c⟩ := p
    obtain rfl : c = .append e := he
    exact congrArg Nat.succ (ih hcalls)

/-- Full batches and less than one more are counted by division with remainder. -/
lemma length_batches {α : Type} {size : Nat} {batches : List (List α)} {rest l : List α}
    (hall : batches.flatten ++ rest = l) (hsizes : ∀ batch ∈ batches, batch.length = size)
    (hrest : rest.length < size) :
    batches.length = l.length / size ∧ rest.length = l.length % size := by
  have hlengths : batches.map List.length = List.replicate batches.length size :=
    List.eq_replicate_iff.mpr ⟨List.length_map _, by simpa using hsizes⟩
  have hflatten : batches.flatten.length = batches.length * size := by
    rw [List.length_flatten, hlengths, List.sum_replicate_nat]
  have hlength : rest.length + size * batches.length = l.length := by
    rw [← hall, List.length_append, hflatten, Nat.mul_comm, Nat.add_comm]
  obtain ⟨hdiv, hmod⟩ :=
    (Nat.div_mod_unique (Nat.zero_lt_of_lt hrest)).mpr ⟨hlength, hrest⟩
  exact ⟨hdiv.symm, hmod.symm⟩

/-- **Rows are written on schedule.**  Whatever number of rows is asked for to make a batch, where
none acts as one, and whatever a store is called with: there is always room in its buffer, so that
it never holds more rows than make a batch, be it while a row comes. An open store in which nothing
waits, and that is handed `n` rows and told neither to flush nor to close, tries to write just
`n / size` batches of `size` rows, of the rows in their order, each when its last row comes, and in
the end `n % size` rows wait; whether the batches can be written makes no difference to that. -/
theorem written_on_schedule (requested : Nat) :
    let size := max requested 1
    (∀ t calls,
        (serveAll calls (.onTables t requested)).state.pending.length < size ∧
          ∀ m c, ((serveAll calls (.onTables t requested)).state.waiting m c).length ≤ size) ∧
      ∀ (s : Store) (calls : List (Moment × Call)),
        s.isOpen → s.capacity = size → s.pending = [] →
          (∀ p ∈ Call.sinkCalls calls, ∃ e, p.2 = .append e) →
            let n := (Call.sinkCalls calls).length
            ∃ (attempts : List (List (Moment × StateEvent))) (rest : List (Moment × StateEvent)),
              attempts.flatten ++ rest = SinkCall.arrivals (Call.sinkCalls calls) ∧
                (∀ batch ∈ attempts, batch.length = size) ∧
                attempts.length = n / size ∧ rest.length = n % size ∧
                (serveAll calls s).emitted = attempts.flatMap report ∧
                (serveAll calls s).state =
                  { s with
                    tables := attempts.foldl commit s.tables
                    pending := rest.map (·.2) } := by
  intro size
  have hpos : 0 < size := Nat.lt_of_lt_of_le Nat.zero_lt_one (Nat.le_max_right _ _)
  refine ⟨?_, ?_⟩
  · intro t calls
    have hroom := pending_run (s := .onTables t requested) hpos (Call.sinkCalls calls)
    obtain ⟨hcapacity, -⟩ := settings_run (Call.sinkCalls calls) (.onTables t requested)
    rw [← (serveAll_eq_run calls _).1] at hroom hcapacity
    have hsize : (serveAll calls (.onTables t requested)).state.capacity = size := hcapacity
    refine ⟨hsize ▸ hroom, ?_⟩
    intro m c
    exact hsize ▸ length_waiting_le hroom m c
  · intro s calls ho hcapacity hp hc n
    obtain ⟨hstate, hemitted⟩ := serveAll_eq_run calls s
    obtain ⟨attempts, rest, hall, hsizes, hrest, hemitted', hstate'⟩ :=
      scheduled_run ho (hp.trans List.map_nil.symm) (hcapacity ▸ hpos) hc
    rw [hcapacity] at hsizes hrest
    obtain ⟨hdiv, hmod⟩ := length_batches hall hsizes hrest
    rw [List.nil_append, length_arrivals hc] at hdiv hmod
    exact ⟨attempts, rest, hall, hsizes, hdiv, hmod, hemitted.trans hemitted',
      hstate.trans hstate'⟩

/-- Five rows, two of which come to a disk that is full; in between the store is asked for the
number of its rows. -/
def fiveRows : List (Moment × Call) :=
  let row (m : Moment) : Moment × Call := (m, .sink (.append ⟨⟨1⟩, .enter .active⟩))
  let moment (n : Nat) (disk : Disk) : Moment := { id := .ofNat n, now := UInt64.ofNat n, disk }
  [row (moment 1 .full), row (moment 2 .full), (moment 2 .working, .eventCount),
    row (moment 3 .working), row (moment 4 .working), row (moment 5 .working)]

/-- With two rows to a batch there are two attempts, the first one of which fails, and one row
waits. -/
theorem written_on_schedule_fiveRows :
    ∃ (first second : List (Moment × StateEvent)),
      first.length = 2 ∧ second.length = 2 ∧
        (serveAll fiveRows (.onTables .empty 2)).emitted = report first ++ report second ∧
        (serveAll fiveRows (.onTables .empty 2)).state.pending.length = 1 := by
  obtain ⟨-, hschedule⟩ := written_on_schedule 2
  have happends : ∀ p ∈ Call.sinkCalls fiveRows, ∃ e, p.2 = .append e := by
    iterate 5 refine List.forall_mem_cons.mpr ⟨⟨_, rfl⟩, ?_⟩
    exact List.forall_mem_nil _
  obtain ⟨attempts, rest, -, hsizes, hcount, hrest, hemitted, hstate⟩ :=
    hschedule (.onTables .empty 2) fiveRows rfl rfl rfl happends
  obtain ⟨first, second, rfl⟩ := List.length_eq_two.mp hcount
  refine ⟨first, second, ?_, ?_, ?_, ?_⟩
  · exact hsizes first List.mem_cons_self
  · exact hsizes second (List.mem_cons_of_mem _ List.mem_cons_self)
  · rw [hemitted, List.flatMap_cons, List.flatMap_singleton]
  · rw [hstate, List.length_map]
    exact hrest

end Store

end AlertLedger
