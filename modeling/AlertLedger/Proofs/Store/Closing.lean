/-
# Closing a store

A store that is closed stays closed. It refuses whatever it is called with, changes no more, and
drops the rows that come; all that goes on is the counter of these (`Store.serveAll_of_closed`). A
store whose rows cannot be written is not closed by the attempt. The rows are lost, as they are with
any flush that fails, but then nothing is left that could not be written, and so the next attempt
succeeds (`Store.serve_close_of_idle`).

A store ceases to be open by a close that succeeds and by nothing else (`Store.isOpen_serve`). In a
run there is at most one such close, since it takes an open store and leaves a closed one
(`Store.closings_serveAll`).

The main result is `Store.close_one_way`.
-/
import AlertLedger.Proofs.Store.AppendOnly

namespace AlertLedger

/-! ### Counts of dropped rows -/

namespace MetricsRegistry

/-- How many rows were dropped for a reason. -/
def droppedFor (r : MetricsRegistry) (reason : String) : UInt64 := (r.dropped.find? reason).getD 0

/-- More rows were dropped for one reason, and nothing else has changed. -/
structure DropsMore (r : MetricsRegistry) (reason : String) (rows : UInt64)
    (r' : MetricsRegistry) : Prop where
  same : r' = { r with dropped := r'.dropped }
  counted : ∀ other,
    r'.droppedFor other = r.droppedFor other + if other = reason then rows else 0

/-- A report of dropped rows is counted for its reason. -/
lemma dropsMore_absorb (r : MetricsRegistry) (e : LogEvent) (reason : String) (rows : UInt64) :
    r.DropsMore reason rows (r.absorb [.log e, .metric (.dropped reason rows)]) where
  same := rfl
  counted other := getD_find?_addTo r.dropped reason other rows

end MetricsRegistry

namespace Store

/-! ### Closed stores -/

namespace Call

/-- What a closed store replies. That a row came too late its caller is not told. -/
def refusal : Call → Reply
  | .sink (.append _) => .outcome (.ok ())
  | .sink .flush | .sink .close => .outcome (.error .closed)
  | .query _ | .history .. => .events (.error .closed)
  | .eventCount => .number (.error .closed)

end Call

lemma serve_of_perform (m : Moment) (c : SinkCall) {s : Store}
    {step : Step Store (Except Fault Unit)} (h : Sink.perform m c s = step) :
    serve m (.sink c) s = { step with result := .outcome step.result } := by
  rw [← h]
  rfl

/-- What a closed store emits for rows that come. -/
def lateReports (rows : List StateEvent) : List Effect :=
  rows.flatMap fun e => [.log (.droppedAfterClose e), .metric (.dropped closedReason 1)]

/-- Only a row that comes makes a closed store emit anything, and it is counted as dropped. -/
lemma lateReports_rows (m : Moment) (c : Call) :
    (∀ e, c = .sink (.append e) →
        ∀ r : MetricsRegistry, r.DropsMore closedReason 1 (r.absorb (lateReports (c.rows m)))) ∧
      ((∀ e, c ≠ .sink (.append e)) → lateReports (c.rows m) = []) := by
  refine ⟨?_, ?_⟩
  · rintro e rfl r
    exact r.dropsMore_absorb _ _ _
  · intro hc
    cases c with
    | sink c =>
      cases c with
      | append e => exact absurd rfl (hc e)
      | flush | close => rfl
    | query | history | eventCount => rfl

section

variable {s : Store}

/-- A closed store refuses a call and stays as it is. -/
lemma serve_of_closed (m : Moment) (c : Call) (h : s.isOpen = false) :
    serve m c s = { result := c.refusal, state := s, emitted := lateReports (c.rows m) } := by
  have hclosed : (!s.isOpen) = true := by rw [h]; rfl
  have hask {α : Type} (question : Tables → α) : s.ask question = .error .closed := by
    rw [ask, if_neg (by simp [h])]
  cases c with
  | sink c =>
    cases c with
    | append e =>
      have hperform : Sink.perform m (.append e) s =
          { result := .ok ()
            state := (s.push m (e.event m)).state
            emitted := (s.push m (e.event m)).emitted } := rfl
      rw [push, if_pos hclosed] at hperform
      exact serve_of_perform m (.append e) hperform
    | flush => exact serve_of_perform m .flush (flush_of_closed m h)
    | close =>
      have hclose : s.close m = { result := .error .closed, state := s } := by
        rw [close, if_pos hclosed]
      exact serve_of_perform m .close hclose
  | query q =>
    rw [serve, query, hask]
    rfl
  | history alert limit =>
    rw [serve, history, query, hask]
    rfl
  | eventCount =>
    rw [serve, eventCount, hask]
    rfl

/-- **A closed store stays closed.**  It refuses every call of a run and stays as it is. -/
theorem serveAll_of_closed (calls : List (Moment × Call)) (h : s.isOpen = false) :
    serveAll calls s =
      { result := calls.map fun c => c.2.refusal
        state := s
        emitted := lateReports (Call.allRows calls) } := by
  induction calls with
  | nil => rfl
  | cons c calls ih =>
    obtain ⟨m, c⟩ := c
    have hreports : lateReports (Call.allRows ((m, c) :: calls))
        = lateReports (c.rows m) ++ lateReports (Call.allRows calls) := by
      rw [Call.allRows_cons]
      exact List.flatMap_append
    rw [serveAll, serve_of_closed m c h, hreports]
    simp only [Step.andThen, Step.after, ih]
    rfl

end

/-! ### Attempts to close -/

section

variable {s : Store} (m : Moment)

/-- An open store closes if its rows can be written. -/
lemma close_of_flush_ok (ho : s.isOpen) (hf : (s.flush m).result = .ok ()) :
    s.close m = (s.flush m).within fun s => { s with isOpen := false } := by
  rw [close, if_neg (by simpa using ho)]
  simp only [hf]

/-- A store whose rows cannot be written says so and does not close. -/
lemma close_of_flush_error (ho : s.isOpen) {f : Fault} (hf : (s.flush m).result = .error f) :
    s.close m = { s.flush m with result := .error (.closeFailed f.message) } := by
  rw [close, if_neg (by simpa using ho)]
  simp only [hf]

/-- A flush that succeeds has written all that waited. -/
lemma state_flush_of_ok (ho : s.isOpen) (hf : (s.flush m).result = .ok ()) :
    (s.flush m).state = { s with tables := s.tables.putAll s.pending, pending := [] } := by
  by_cases hp : s.pending = []
  · rw [flush_of_nil m ho hp, hp]
    change s = { s with pending := [] }
    rw [← hp]
  · by_cases hd : m.disk = .working
    · rw [flush_of_working m ho hp hd]
    · rw [flush_of_failing m ho hp hd] at hf
      cases hf

/-- A flush that fails on an open store has lost all that waited. -/
lemma flush_of_error (ho : s.isOpen) {f : Fault} (hf : (s.flush m).result = .error f) :
    s.flush m =
      { result := .error f
        state := { s with pending := [] }
        emitted := [.log (.flushFailed f s.pending.length),
          .metric (.dropped flushReason (rowCount s.pending))] } := by
  by_cases hp : s.pending = []
  · rw [flush_of_nil m ho hp] at hf
    cases hf
  · by_cases hd : m.disk = .working
    · rw [flush_of_working m ho hp hd] at hf
      cases hf
    · rw [flush_of_failing m ho hp hd] at hf ⊢
      obtain rfl : writeFault m = f := Except.error.inj hf
      rfl

/-- A close fails with the flush. The rows are lost and the store stays open. -/
lemma serve_close_of_flush_error (ho : s.isOpen) {f : Fault} (hf : (s.flush m).result = .error f) :
    serve m (.sink .close) s =
      { result := .outcome (.error (.closeFailed f.message))
        state := { s with pending := [] }
        emitted := [.log (.flushFailed f s.pending.length),
          .metric (.dropped flushReason (rowCount s.pending))] } := by
  rw [serve_of_perform m .close (close_of_flush_error m ho hf), flush_of_error m ho hf]

/-- A close succeeds with the flush. -/
lemma serve_close_of_flush_ok (ho : s.isOpen) (hf : (s.flush m).result = .ok ()) :
    (serve m (.sink .close) s).result = .outcome (.ok ()) ∧
      (serve m (.sink .close) s).state =
        { s with isOpen := false, tables := s.tables.putAll s.pending, pending := [] } := by
  rw [serve_of_perform m .close (close_of_flush_ok m ho hf), Step.within, hf,
    state_flush_of_ok m ho hf]
  exact ⟨rfl, rfl⟩

/-- A close succeeds in no other way. -/
lemma flush_ok_of_serve_close (h : (serve m (.sink .close) s).result = .outcome (.ok ())) :
    s.isOpen ∧ (s.flush m).result = .ok () := by
  cases ho : s.isOpen with
  | false =>
    rw [serve_of_closed m _ ho] at h
    cases h
  | true =>
    cases hf : (s.flush m).result with
    | ok => exact ⟨rfl, rfl⟩
    | error f =>
      rw [serve_close_of_flush_error m ho hf] at h
      cases h

/-- An open store in which nothing waits closes, whatever the disk does. -/
lemma serve_close_of_idle (ho : s.isOpen) (hp : s.pending = []) :
    serve m (.sink .close) s
      = { result := .outcome (.ok ()), state := { s with isOpen := false } } := by
  have hclose : s.close m = { result := .ok (), state := { s with isOpen := false } } := by
    have hflush := flush_of_nil m ho hp
    rw [close_of_flush_ok m ho (by rw [hflush]), hflush]
    rfl
  exact serve_of_perform m .close hclose

end

/-- Where nothing waits and no row comes, nothing changes until the store is closed. -/
lemma serveAll_of_idle {calls : List (Moment × Call)} {s : Store} (ho : s.isOpen)
    (hp : s.pending = []) (hrows : Call.allRows calls = [])
    (hclose : ∀ c ∈ calls, c.2 ≠ .sink .close) : (serveAll calls s).state = s := by
  induction calls with
  | nil => rfl
  | cons c calls ih =>
    obtain ⟨m, c⟩ := c
    obtain ⟨hc, hcalls⟩ := List.forall_mem_cons.mp hclose
    rw [Call.allRows_cons, List.append_eq_nil_iff] at hrows
    have hstep : (serve m c s).state = s := by
      cases c with
      | sink c =>
        cases c with
        | append e => exact absurd hrows.1 (List.cons_ne_nil _ _)
        | flush => exact congrArg Step.state (flush_of_nil m ho hp)
        | close => exact absurd rfl hc
      | query | history | eventCount => rfl
    change (serveAll calls (serve m c s).state).state = s
    rw [hstep, ih hrows.2 hcalls]

/-! ### Closes that succeed -/

/-- Whether a call closed the store, by what it gave back. -/
def closedBy : Call → Reply → Bool
  | .sink .close, .outcome (.ok _) => true
  | _, _ => false

/-- How many calls of a run closed the store, by what they gave back. -/
def closings (calls : List (Moment × Call)) (replies : List Reply) : Nat :=
  (calls.zip replies).countP fun p => closedBy p.1.2 p.2

/-- A store is open before a call if it is open after it or the call closes it, and these exclude
each other. -/
lemma isOpen_serve (m : Moment) (c : Call) (s : Store) :
    (serve m c s).state.isOpen.toNat + (closedBy c (serve m c s).result).toNat
      = s.isOpen.toNat := by
  cases ho : s.isOpen with
  | false =>
    rw [serve_of_closed m c ho, ho]
    cases c with
    | sink c => cases c <;> rfl
    | query | history | eventCount => rfl
  | true =>
    cases c with
    | sink c =>
      cases c with
      | append e =>
        obtain ⟨tables, pending, hframe⟩ := (perform_outcome m (.append e) s).frame rfl
        change (Sink.perform m (.append e) s).state.isOpen.toNat + 0 = _
        rw [hframe, ho]
        rfl
      | flush =>
        obtain ⟨tables, pending, hframe⟩ := (perform_outcome m .flush s).frame rfl
        change (Sink.perform m .flush s).state.isOpen.toNat + 0 = _
        rw [hframe, ho]
        rfl
      | close =>
        change (s.close m).state.isOpen.toNat
          + (closedBy (.sink .close) (.outcome (s.close m).result)).toNat = _
        cases hf : (s.flush m).result with
        | ok =>
          rw [close_of_flush_ok m ho hf]
          simp [Step.within, hf, closedBy]
        | error f =>
          rw [close_of_flush_error m ho hf, flush_of_error m ho hf]
          simp [closedBy, ho]
    | query | history | eventCount => exact congrArg (Bool.toNat · + 0) ho

/-- A run that leaves an open store open closed it no time, and any other run of an open store
closed it once. -/
theorem closings_serveAll (calls : List (Moment × Call)) (s : Store) :
    (serveAll calls s).state.isOpen.toNat + closings calls (serveAll calls s).result
      = s.isOpen.toNat := by
  induction calls generalizing s with
  | nil => rfl
  | cons c calls ih =>
    obtain ⟨m, c⟩ := c
    have hrest := ih (serve m c s).state
    have hcall := isOpen_serve m c s
    have hclosings : closings ((m, c) :: calls) (serveAll ((m, c) :: calls) s).result
        = closings calls (serveAll calls (serve m c s).state).result
          + (closedBy c (serve m c s).result).toNat := by
      change List.countP _ (((m, c), (serve m c s).result) :: calls.zip _) = _
      rw [List.countP_cons]
      cases closedBy c (serve m c s).result <;> rfl
    change (serveAll calls (serve m c s).state).state.isOpen.toNat + _ = _
    rw [hclosings]
    omega

/-- **Closing is one-way.**  A store is opened on tables and called in any way, with disks that work
or fail as they like. At most one close succeeds, and none has as long as the store is open.

A close whose flush fails says so, with the fault of the flush; the rows that waited are dropped and
counted as such, and the store stays open with nothing that waits. If no row comes then, the next
close succeeds whatever the disk does, and it writes nothing and emits nothing.

A close whose flush succeeds does, too. From then on, in all that follows, the tables are as they
were written then and nothing waits; a row that comes is dropped and counted as one row that came
too late, and every other call gives back that the store is closed and emits nothing. -/
theorem close_one_way (t : Tables) (capacity : Nat) (calls : List (Moment × Call)) :
    let run := serveAll calls (.onTables t capacity)
    let before := run.state
    let close (m : Moment) := serve m (.sink .close)
    (closings calls run.result ≤ 1 ∧ (before.isOpen → closings calls run.result = 0)) ∧
      (∀ m f, before.isOpen → (before.flush m).result = .error f →
        (close m before).result = .outcome (.error (.closeFailed f.message)) ∧
          (close m before).state = { before with pending := [] } ∧
          (∀ r : MetricsRegistry, r.DropsMore flushReason (rowCount before.pending)
            (r.absorb (close m before).emitted)) ∧
          ∀ between m', Call.allRows between = [] → (∀ c ∈ between, c.2 ≠ .sink .close) →
            close m' (serveAll between (close m before).state).state
              = { result := .outcome (.ok ())
                  state := { before with isOpen := false, pending := [] } }) ∧
      (∀ m, before.isOpen → (before.flush m).result = .ok () →
        (close m before).result = .outcome (.ok ())) ∧
      ∀ m, (close m before).result = .outcome (.ok ()) →
        let closed := (close m before).state
        closed = { before with
          isOpen := false
          tables := before.tables.putAll before.pending
          pending := [] } ∧
        ∀ later m' c,
          let step := serve m' c (serveAll later closed).state
          (serveAll later closed).state = closed ∧ step.state = closed ∧
            step.result = c.refusal ∧
            (∀ e, c = .sink (.append e) →
              ∀ r : MetricsRegistry, r.DropsMore closedReason 1 (r.absorb step.emitted)) ∧
            ((∀ e, c ≠ .sink (.append e)) → step.emitted = []) := by
  intro run before close
  refine ⟨?_, ?_, ?_, ?_⟩
  · have hclosings : before.isOpen.toNat + closings calls run.result = 1 :=
      closings_serveAll calls (.onTables t capacity)
    refine ⟨by omega, ?_⟩
    intro ho
    rw [ho, Bool.toNat_true] at hclosings
    omega
  · intro m f ho hf
    have hserve : close m before = _ := serve_close_of_flush_error m ho hf
    rw [hserve]
    refine ⟨rfl, rfl, fun r => r.dropsMore_absorb _ _ _, ?_⟩
    intro between m' hrows hbetween
    rw [serveAll_of_idle (by exact ho) rfl hrows hbetween]
    exact serve_close_of_idle m' (by exact ho) rfl
  · intro m ho hf
    exact (serve_close_of_flush_ok m ho hf).1
  · intro m hok closed
    obtain ⟨ho, hf⟩ := flush_ok_of_serve_close m hok
    have hclosed : closed = { before with
        isOpen := false
        tables := before.tables.putAll before.pending
        pending := [] } := (serve_close_of_flush_ok m ho hf).2
    have hopen : closed.isOpen = false := congrArg Store.isOpen hclosed
    refine ⟨hclosed, ?_⟩
    intro later m' c step
    have hstay : (serveAll later closed).state = closed := by
      rw [serveAll_of_closed later hopen]
    have hstep : step =
        { result := c.refusal, state := closed, emitted := lateReports (c.rows m') } := by
      change serve m' c (serveAll later closed).state = _
      rw [hstay, serve_of_closed m' c hopen]
    rw [hstep]
    exact ⟨hstay, rfl, rfl, lateReports_rows m' c⟩

/-- The attempt to close a store fails with the one row that waits, and so the next one succeeds on
the same disk. What comes then is dropped, or refused. -/
theorem close_one_way_secondAttempt :
    let waiting := (serveAll lostBatch (.onTables oneRow 2)).state
    let attempted := serve (onDisk .failing 5) (.sink .close) waiting
    let closed := serve (onDisk .failing 6) (.sink .close) attempted.state
    let late := serve (onDisk .working 7) (.sink (.append ⟨⟨1⟩, .enter .active⟩)) closed.state
    (waiting.isOpen ∧
        (waiting.flush (onDisk .failing 5)).result = .error (writeFault (onDisk .failing 5)) ∧
        closed.result = .outcome (.ok ())) ∧
      attempted.result = .outcome (.error (.closeFailed "state flush failed: redb")) ∧
      closed.state.tables = oneRow ∧ late.state = closed.state ∧
      (MetricsRegistry.empty.absorb late.emitted).droppedFor closedReason = 1 ∧
      (serve (onDisk .working 8) .eventCount closed.state).result = .number (.error .closed) := by
  intro waiting attempted closed late
  obtain ⟨-, hfails, -, -⟩ := close_one_way oneRow 2 lostBatch
  obtain ⟨hresult, -, -, hnext⟩ := hfails (onDisk .failing 5) _ rfl rfl
  have hclosed := hnext [] (onDisk .failing 6) rfl (List.forall_mem_nil _)
  have hok : closed.result = .outcome (.ok ()) := congrArg Step.result hclosed
  obtain ⟨-, -, -, hstays⟩ :=
    close_one_way oneRow 2 (lostBatch ++ [(onDisk .failing 5, .sink .close)])
  obtain ⟨htables, hlater⟩ := hstays (onDisk .failing 6) hok
  obtain ⟨-, hstate, -, hcount, -⟩ :=
    hlater [] (onDisk .working 7) (.sink (.append ⟨⟨1⟩, .enter .active⟩))
  obtain ⟨-, -, hrefused, -⟩ := hlater [] (onDisk .working 8) .eventCount
  exact ⟨⟨rfl, rfl, hok⟩, hresult, congrArg Store.tables htables, hstate,
    (hcount _ rfl .empty).counted closedReason, hrefused⟩

end Store

end AlertLedger
