/-
# Sessions

What lies in the file of a store comes from sessions. In each of them a store is opened on the
tables that the last one left, and it is called in any way, or it is the sink of a trail that is.
Batches may be lost, ids may be used again, and what waits at the end of a session is gone.

Whatever happens, a row in the tables is the row of an event that some session brought. So what is
true of all rows that sessions bring is true of all events that are read from the tables
(`Session.keeps_tables`).
-/
import AlertLedger.Proofs.Store.Calls
import AlertLedger.Proofs.Store.Readback
import AlertLedger.Proofs.Store.Run
import AlertLedger.Proofs.Trail.Rows

namespace AlertLedger

variable {P : StateEvent → Prop}

/-! ### Tables of rows of a kind -/

/-- Written tables all of whose rows are rows of events of a kind. -/
structure Tables.Keeps (P : StateEvent → Prop) (t : Tables) : Prop where
  indexed : t.Indexed
  rows : ∀ row ∈ t.rows.entries, ∃ e : StateEvent, row = (e.id, e.encode) ∧ P e

namespace Tables.Keeps

variable {t : Tables}

lemma empty : Tables.empty.Keeps P where
  indexed := .empty
  rows := by
    intro row hrow
    cases hrow

lemma put (h : t.Keeps P) {e : StateEvent} (he : P e) : (t.put e).Keeps P where
  indexed := h.indexed.put e
  rows := by
    intro row hrow
    rcases SortedMap.mem_insertEntry hrow with rfl | hrow
    · exact ⟨e, rfl, he⟩
    · exact h.rows row hrow

lemma putAll (h : t.Keeps P) {batch : List StateEvent} (hbatch : ∀ e ∈ batch, P e) :
    (t.putAll batch).Keeps P := by
  induction batch generalizing t with
  | nil => exact h
  | cons e batch ih =>
    obtain ⟨he, hbatch⟩ := List.forall_mem_cons.mp hbatch
    exact ih (h.put he) hbatch

/-- What is read from such tables is of the kind. -/
lemma of_mem_scan (h : t.Keeps P) {urnCase : UrnCase} {e : StateEvent}
    (he : e ∈ t.scan urnCase) : P e := by
  obtain ⟨value, hvalue, hdecode⟩ := List.mem_filterMap.mp he
  obtain ⟨row, hrow, rfl⟩ := List.mem_map.mp hvalue
  obtain ⟨f, hrow, hf⟩ := h.rows row hrow
  have hencode : row.2 = f.encode := by rw [hrow]
  rw [hencode, StateEvent.decode?_encode] at hdecode
  obtain rfl : f = e := Option.some.inj hdecode
  exact hf

end Tables.Keeps

/-! ### Stores of rows of a kind -/

namespace Store

/-- The rows of the tables and those that wait are of a kind. -/
structure Keeps (P : StateEvent → Prop) (s : Store) : Prop where
  tables : s.tables.Keeps P
  pending : ∀ e ∈ s.pending, P e

section

variable {s s' : Store} {m : Moment} {c : SinkCall} {emitted : List Effect}

/-- A call that brings a row of the kind, or none, keeps all rows of the kind. -/
lemma Outcome.keeps (h : Outcome m c s s' emitted) (hs : s.Keeps P) (hc : ∀ e ∈ c.rows m, P e) :
    s'.Keeps P := by
  have hwaiting : ∀ e ∈ s.waiting m c, P e := by
    rw [waiting_eq]
    exact List.forall_mem_append.mpr ⟨hs.pending, hc⟩
  cases h with
  | refused => exact hs
  | waited => exact ⟨hs.tables, hwaiting⟩
  | written => exact ⟨hs.tables.putAll hwaiting, List.forall_mem_nil _⟩
  | lost => exact ⟨hs.tables, List.forall_mem_nil _⟩

/-- So does a run. -/
lemma keeps_run {calls : List (Moment × SinkCall)} (hs : s.Keeps P)
    (hcalls : ∀ e ∈ SinkCall.allRows calls, P e) : (Sink.run calls s).state.Keeps P := by
  induction calls generalizing s with
  | nil => exact hs
  | cons c calls ih =>
    obtain ⟨m, c⟩ := c
    rw [SinkCall.allRows_cons] at hcalls
    obtain ⟨hc, hcalls⟩ := List.forall_mem_append.mp hcalls
    exact ih ((perform_outcome m c s).keeps hs hc) hcalls

end

end Store

/-! ### Sessions -/

/-- A trail over an authority in memory that knows of some operations. -/
def Trail.knowing {τ : Type} (known : List Operation) (sink : τ) (metered : Bool) :
    Trail MemoryAuthority τ where
  authority := .afterAll known
  sink := sink
  metered := metered

/-- What is done with a store from when it is opened until it is left. -/
inductive Session where
  /-- It is called in some way. -/
  | called (capacity : Nat) (calls : List (Moment × Store.Call))
  /-- A trail that has it for its sink is called in some way. -/
  | trailed (known : List Operation) (capacity : Nat) (metered : Bool)
    (calls : List (Moment × Call))

namespace Session

/-- Whether all that is done goes through a trail. -/
def isTrailed : Session → Bool
  | .called .. => false
  | .trailed .. => true

/-- How the store is opened. -/
def opened (t : Tables) : Session → Store
  | .called capacity _ | .trailed _ capacity _ _ => .onTables t capacity

/-- The store at the end of a session on tables. -/
def store (t : Tables) (s : Session) : Store :=
  match s with
  | .called _ calls => (Store.serveAll calls (s.opened t)).state
  | .trailed known _ metered calls => (Trail.after calls (.knowing known (s.opened t) metered)).sink

/-- The rows that the store is brought in a session on tables. -/
def rows (t : Tables) (s : Session) : List StateEvent :=
  match s with
  | .called _ calls => Store.Call.allRows calls
  | .trailed known _ metered calls =>
    let sink : Overheard Store := { sink := s.opened t }
    rowsOf (Trail.after calls (.knowing known sink metered)).sink.heard

/-- The tables of a new store after some sessions. -/
def tables (sessions : List Session) : Tables :=
  sessions.foldl (fun t s => (s.store t).tables) .empty

/-- For its store a session is a run of calls. -/
lemma exists_run (t : Tables) (s : Session) :
    ∃ calls, s.store t = (Sink.run calls (s.opened t)).state
      ∧ s.rows t = SinkCall.allRows calls := by
  cases s with
  | called capacity calls => exact ⟨_, (Store.serveAll_eq_run calls _).1, rfl⟩
  | trailed known capacity metered calls =>
    exact ⟨_, (Trail.run_sink calls _).1, Trail.rowsOf_heard calls _⟩

lemma keeps_store {t : Tables} {s : Session} (ht : t.Keeps P) (hs : ∀ e ∈ s.rows t, P e) :
    (s.store t).Keeps P := by
  obtain ⟨calls, hstore, hrows⟩ := s.exists_run t
  rw [hrows] at hs
  rw [hstore]
  have hopened : (s.opened t).Keeps P := by
    cases s with
    | called | trailed => exact ⟨ht, List.forall_mem_nil _⟩
  exact Store.keeps_run hopened hs

/-- **What sessions bring is what there is.** If all rows that sessions bring are of a kind, so are
all rows of the tables after them. -/
theorem keeps_tables {sessions : List Session}
    (h : ∀ s ∈ sessions, ∀ t, ∀ e ∈ s.rows t, P e) : (tables sessions).Keeps P := by
  have hfold : ∀ t : Tables, t.Keeps P →
      (sessions.foldl (fun t s => (s.store t).tables) t).Keeps P := by
    induction sessions with
    | nil => exact fun t ht => ht
    | cons s sessions ih =>
      intro t ht
      obtain ⟨hs, hsessions⟩ := List.forall_mem_cons.mp h
      exact ih hsessions _ (keeps_store ht (hs t)).tables
  exact hfold .empty .empty

end Session

end AlertLedger
