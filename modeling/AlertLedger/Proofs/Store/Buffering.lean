/-
# What buffering makes of the rows

How many rows make a batch is up to the store, and when it is flushed is up to its callers. Neither
shows in the tables. Batches that are written one after the other come to one batch with all their
rows (`Tables.foldl_putAll`), and a run that loses no batch has its rows partly in the tables and
partly, after these, in the buffer (`Store.Wrote`). Where the run ends with a flush or a close that
succeeds (`Store.Settles`) the buffer is empty, and the tables are told by the rows alone
(`Store.Settles.state`).

To compare with, a store in which every row makes a batch writes each row as it comes
(`Store.writes_through`).

The main result is `Store.buffering_unobservable`.
-/
import AlertLedger.Proofs.Store.Batches
import AlertLedger.Store.File

namespace AlertLedger

namespace Store

/-- Each row as a batch of its own. -/
def singly (rows : List StateEvent) : List (List StateEvent) := rows.map fun e => [e]

lemma flatten_singly (rows : List StateEvent) : (singly rows).flatten = rows := by
  induction rows with
  | nil => rfl
  | cons e rows ih => exact congrArg (e :: ·) ih

/-- No batch is lost if a handle knows of none. -/
lemma losesNone_of_lostBatch {emitted : List Effect}
    (h : StoreHandle.lostBatch emitted = false) : LosesNone emitted := by
  intro rows hmem
  have hmetric : .dropped flushReason rows ∈ emitted.filterMap Effect.metric? :=
    List.mem_filterMap.mpr ⟨_, hmem, rfl⟩
  have := List.any_eq_false.mp h _ hmetric
  simp at this

/-! ### Calls that lose no batch -/

section

variable {m : Moment} {c : SinkCall} {s s' : Store} {emitted : List Effect}

/-- A call on an open store writes all that waits, if it loses no batch and does not find room for a
row that it brings. -/
lemma Outcome.written_of_full (h : Outcome m c s s' emitted) (ho : s.isOpen)
    (hfull : c.rows m ≠ [] → s.capacity ≤ (s.waiting m c).length) (hl : LosesNone emitted) :
    s' =
      { s with
        isOpen := !c.closes
        tables := s.tables.putAll (s.waiting m c)
        pending := [] } := by
  cases h with
  | refused ho' =>
    rw [ho] at ho'
    cases ho'
  | waited _ hroom =>
    have hnil : s.waiting m c = [] :=
      hroom.resolve_right fun h => absurd h.2 (Nat.not_lt_of_le (hfull h.1))
    rw [hnil, ho, Bool.and_true]
    rfl
  | written => rw [ho, Bool.and_true]
  | lost => exact absurd hl (not_losesNone_dropped _ _)

/-- A call that succeeds is not made on a closed store, unless it hands over a row. -/
lemma isOpen_of_succeeds (hc : ∀ e, c ≠ .append e) (h : (Sink.perform m c s).result = .ok ()) :
    s.isOpen := by
  by_contra ho
  rw [Bool.not_eq_true] at ho
  have hclosed : (!s.isOpen) = true := by rw [ho]; rfl
  cases c with
  | append e => exact hc e rfl
  | flush =>
    change (s.flush m).result = _ at h
    rw [flush_of_closed m ho] at h
    cases h
  | close =>
    change (s.close m).result = _ at h
    rw [close, if_pos hclosed] at h
    cases h

end

/-! ### Writing through -/

/-- A store in which one row makes a batch writes each row as it comes: after any calls, as long as
no batch is lost and the store is not closed, nothing waits, and the tables are as if each row had
been written by itself. -/
theorem writes_through {s : Store} (ho : s.isOpen) (hcapacity : s.capacity ≤ 1)
    (hp : s.pending = []) {calls : List (Moment × SinkCall)}
    (hc : ∀ c ∈ calls, c.2.closes = false) (hl : LosesNone (Sink.run calls s).emitted) :
    (Sink.run calls s).state =
      { s with
        tables := (singly (SinkCall.allRows calls)).foldl Tables.putAll s.tables
        pending := [] } := by
  rw [Tables.foldl_putAll, flatten_singly]
  induction calls generalizing s with
  | nil =>
    rw [← hp]
    rfl
  | cons c calls ih =>
    obtain ⟨m, c⟩ := c
    obtain ⟨hc, hcalls⟩ := List.forall_mem_cons.mp hc
    rw [Sink.run_cons_emitted, losesNone_append] at hl
    have hwaiting : s.waiting m c = c.rows m := by rw [waiting_eq, hp, List.nil_append]
    have hfull : c.rows m ≠ [] → s.capacity ≤ (s.waiting m c).length := by
      intro hrows
      rw [hwaiting]
      exact hcapacity.trans (List.length_pos_iff.mpr hrows)
    have hcall := (perform_outcome m c s).written_of_full ho hfull hl.1
    rw [hc, hwaiting] at hcall
    rw [hcall] at hl
    have hrest := ih (by rfl) (by exact hcapacity) rfl hcalls hl.2
    rw [Sink.run_cons_state, hcall, hrest, SinkCall.allRows_cons, Tables.putAll_append, ho]
    rfl

/-! ### Runs that end settled -/

/-- A run loses no batch, and the call that ends it is a flush or a close that succeeds. -/
structure Settles (s : Store) (calls : List (Moment × SinkCall)) (m : Moment)
    (last : SinkCall) : Prop where
  losesNone : LosesNone (Sink.run (calls ++ [(m, last)]) s).emitted
  ends : ∀ e, last ≠ .append e
  succeeds : (Sink.perform m last (Sink.run calls s).state).result = .ok ()

/-- A run that ends settled has just its rows in the tables, after those that waited before. -/
theorem Settles.state {s : Store} {calls : List (Moment × SinkCall)} {m : Moment}
    {last : SinkCall} (h : s.Settles calls m last) :
    (Sink.run (calls ++ [(m, last)]) s).state =
      { s with
        isOpen := !last.closes
        tables := s.tables.putAll (s.pending ++ SinkCall.allRows calls)
        pending := [] } := by
  have hstart : s.Wrote s.tables s.pending := ⟨[], rfl, List.nil_prefix, fun _ => rfl⟩
  have hl := h.losesNone
  rw [Sink.run_append_emitted, Sink.run_singleton_emitted, losesNone_append] at hl
  have hwrote := hstart.run hl.1
  have hsettings := settings_run calls s
  rw [Sink.run_append_state]
  -- From here on only the store before the last call matters.
  have hsucceeds := h.succeeds
  generalize (Sink.run calls s).state = before at hl hwrote hsettings hsucceeds ⊢
  have ho : before.isOpen := isOpen_of_succeeds h.ends hsucceeds
  have hrows : last.rows m = [] := by
    cases last with
    | append e => exact absurd rfl (h.ends e)
    | flush | close => rfl
  have hwaiting : before.waiting m last = before.pending := by
    rw [waiting_eq, hrows, List.append_nil]
  have hlast := (perform_outcome m last before).written_of_full ho (absurd hrows) hl.2
  rw [hwaiting] at hlast
  obtain ⟨written, htables, -, hall⟩ := hwrote
  obtain ⟨tables, isOpen, pending, capacity, urnCase⟩ := before
  obtain ⟨rfl, rfl⟩ := hsettings
  obtain rfl : tables = s.tables.putAll written := htables
  change (Sink.perform m last _).state = _
  rw [hlast, ← hall ho, Tables.putAll_append]

/-- **Buffering is not observable once it is flushed.**  Two runs start from one store, be there
rows in its tables or in its buffer, but for the number of rows that make a batch; they hand over
the same rows and are flushed wherever they like. If both lose no batch and end with a flush or a
close that succeeds, they leave the same tables, rows and index alike, and these are the tables to
which each row was written by itself; nothing waits any more. If both end in the same way, every
question is answered alike: open stores answer it from these tables. -/
theorem buffering_unobservable (s : Store) {capacity capacity' : Nat}
    {calls calls' : List (Moment × SinkCall)} {m m' : Moment} {last last' : SinkCall}
    (h : { s with capacity := capacity }.Settles calls m last)
    (h' : { s with capacity := capacity' }.Settles calls' m' last')
    (hrows : SinkCall.allRows calls = SinkCall.allRows calls') :
    let left := (Sink.run (calls ++ [(m, last)]) { s with capacity := capacity }).state
    let left' := (Sink.run (calls' ++ [(m', last')]) { s with capacity := capacity' }).state
    let written :=
      (singly (s.pending ++ SinkCall.allRows calls)).foldl Tables.putAll s.tables
    (left.tables = written ∧ left'.tables = written) ∧
      (left.pending = [] ∧ left'.pending = []) ∧
      (left.isOpen = !last.closes ∧ left'.isOpen = !last'.closes) ∧
      (last.closes = last'.closes →
        (∀ q, left.query q = left'.query q) ∧
        (∀ alert limit, left.history alert limit = left'.history alert limit) ∧
        left.eventCount = left'.eventCount) ∧
      (last.closes = false →
        (∀ q, left.query q = .ok (written.query s.urnCase q)) ∧
        (∀ alert limit,
          left.history alert limit = .ok (written.query s.urnCase (.forAlert alert limit))) ∧
        left.eventCount = .ok written.size) := by
  intro left left' written
  have hwritten : written = s.tables.putAll (s.pending ++ SinkCall.allRows calls) := by
    rw [← flatten_singly (s.pending ++ SinkCall.allRows calls), ← Tables.foldl_putAll]
  have hleft : left =
      { s with capacity, isOpen := !last.closes, tables := written, pending := [] } := by
    rw [hwritten]
    exact h.state
  have hleft' : left' =
      { s with
        capacity := capacity'
        isOpen := !last'.closes
        tables := written
        pending := [] } := by
    rw [hwritten, hrows]
    exact h'.state
  rw [hleft, hleft']
  refine ⟨⟨rfl, rfl⟩, ⟨rfl, rfl⟩, ⟨rfl, rfl⟩, ?_, ?_⟩
  · intro hcloses
    rw [hcloses]
    exact ⟨fun _ => rfl, fun _ _ => rfl, rfl⟩
  · intro hcloses
    rw [hcloses]
    exact ⟨fun _ => rfl, fun _ _ => rfl, rfl⟩

/-- The moment with a number. -/
def numbered (n : Nat) : Moment := { id := .ofNat n, now := UInt64.ofNat n }

/-- A store with a row in its tables and another one that waits. -/
def halfFull : Store where
  tables := Tables.empty.putAll [.transition (numbered 1) ⟨1⟩ .active]
  pending := [.transition (numbered 2) ⟨2⟩ .active]
  capacity := 1

/-- Three rows, of which the first is flushed at once. -/
def flushedEarly : List (Moment × SinkCall) :=
  [(numbered 3, .append ⟨⟨1⟩, .enter .suppressed⟩), (numbered 4, .flush),
    (numbered 4, .append ⟨⟨2⟩, .enter .deleted⟩), (numbered 5, .append ⟨⟨1⟩, .inhibited ["a"]⟩)]

/-- The same rows, of which the first two are flushed together. -/
def flushedLate : List (Moment × SinkCall) :=
  [(numbered 3, .append ⟨⟨1⟩, .enter .suppressed⟩), (numbered 4, .append ⟨⟨2⟩, .enter .deleted⟩),
    (numbered 5, .flush), (numbered 5, .append ⟨⟨1⟩, .inhibited ["a"]⟩)]

/-- Two rows to a batch or four, the three rows come after the two that were there. -/
theorem buffering_unobservable_halfFull :
    { halfFull with capacity := 2 }.Settles flushedEarly (numbered 6) .flush ∧
      { halfFull with capacity := 4 }.Settles flushedLate (numbered 7) .flush ∧
      let early :=
        (Sink.run (flushedEarly ++ [(numbered 6, .flush)]) { halfFull with capacity := 2 }).state
      let late :=
        (Sink.run (flushedLate ++ [(numbered 7, .flush)]) { halfFull with capacity := 4 }).state
      early.tables = late.tables ∧ early.eventCount = .ok 5 ∧
        ∀ q, early.query q = late.query q := by
  have hearly : { halfFull with capacity := 2 }.Settles flushedEarly (numbered 6) .flush :=
    ⟨losesNone_of_lostBatch rfl, fun _ => nofun, rfl⟩
  have hlate : { halfFull with capacity := 4 }.Settles flushedLate (numbered 7) .flush :=
    ⟨losesNone_of_lostBatch rfl, fun _ => nofun, rfl⟩
  obtain ⟨⟨htables, htables'⟩, -, -, hanswers, hwritten⟩ :=
    buffering_unobservable halfFull hearly hlate rfl
  exact ⟨hearly, hlate, htables.trans htables'.symm, (hwritten rfl).2.2, (hanswers rfl).1⟩

end Store

end AlertLedger
