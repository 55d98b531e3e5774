/-
# Calls on a store

A store is not only a sink: it is asked for events, too, for the history of an alert, and for the
number of its rows. Here all that it can be called with is data, as the calls on a sink are, and a
run makes such calls one after the other.

To be asked changes nothing in a store. So what a run leaves behind, and what is emitted in it, is
what the calls on the sink alone leave behind and emit (`Store.serveAll_eq_run`).
-/
import AlertLedger.Proofs.Sink
import AlertLedger.Store

namespace AlertLedger.Store

/-! ### Calls -/

/-- The calls on a store. -/
inductive Call where
  | sink (c : SinkCall)
  | query (q : EventQuery)
  | history (alert : Fingerprint) (limit : Nat)
  | eventCount

/-- What a call gives back. -/
inductive Reply where
  | outcome (r : Except Fault Unit)
  | events (r : Except Fault (List StateEvent))
  | number (r : Except Fault Nat)

namespace Call

/-- The call on the sink that a call is, unless it is a question. -/
def sinkCall? : Call → Option SinkCall
  | .sink c => some c
  | .query _ | .history .. | .eventCount => none

/-- The rows that a call brings. -/
def rows (m : Moment) : Call → List StateEvent
  | .sink c => c.rows m
  | .query _ | .history .. | .eventCount => []

/-- The calls on the sink among calls. -/
def sinkCalls (calls : List (Moment × Call)) : List (Moment × SinkCall) :=
  calls.flatMap fun (m, c) => (c.sinkCall?.map fun c => (m, c)).toList

/-- The rows that calls bring. -/
def allRows (calls : List (Moment × Call)) : List StateEvent :=
  SinkCall.allRows (sinkCalls calls)

lemma sinkCalls_cons (m : Moment) (c : Call) (calls : List (Moment × Call)) :
    sinkCalls ((m, c) :: calls)
      = (c.sinkCall?.map fun c => (m, c)).toList ++ sinkCalls calls := rfl

lemma allRows_cons (m : Moment) (c : Call) (calls : List (Moment × Call)) :
    allRows ((m, c) :: calls) = c.rows m ++ allRows calls := by
  rw [allRows, sinkCalls_cons, SinkCall.allRows_append]
  cases c with
  | sink c => exact congrArg (· ++ _) (List.append_nil _)
  | query | history | eventCount => rfl

lemma allRows_append (xs ys : List (Moment × Call)) :
    allRows (xs ++ ys) = allRows xs ++ allRows ys := by
  rw [allRows, sinkCalls, List.flatMap_append, SinkCall.allRows_append, allRows, allRows,
    sinkCalls, sinkCalls]

end Call

/-! ### Runs -/

/-- Makes a call. -/
def serve (m : Moment) (c : Call) (s : Store) : Step Store Reply :=
  match c with
  | .sink c =>
    let step := Sink.perform m c s
    { step with result := .outcome step.result }
  | .query q => { result := .events (s.query q), state := s }
  | .history alert limit => { result := .events (s.history alert limit), state := s }
  | .eventCount => { result := .number s.eventCount, state := s }

/-- Makes calls one after the other. -/
def serveAll : List (Moment × Call) → Store → Step Store (List Reply)
  | [], s => { result := [], state := s }
  | (m, c) :: calls, s =>
    (serve m c s).andThen fun reply s =>
      let step := serveAll calls s
      { step with result := reply :: step.result }

/-- What a call comes to is what it comes to for the sink, if anything. -/
lemma serve_eq_run (m : Moment) (c : Call) (s : Store) :
    (serve m c s).state = (Sink.run (c.sinkCall?.map fun c => (m, c)).toList s).state ∧
      (serve m c s).emitted
        = (Sink.run (c.sinkCall?.map fun c => (m, c)).toList s).emitted := by
  cases c with
  | sink c => exact ⟨rfl, (Sink.run_singleton_emitted m c s).symm⟩
  | query | history | eventCount => exact ⟨rfl, rfl⟩

/-- **To be asked changes nothing.**  A run leaves behind, and emits, what its calls on the sink
do. -/
theorem serveAll_eq_run (calls : List (Moment × Call)) (s : Store) :
    (serveAll calls s).state = (Sink.run (Call.sinkCalls calls) s).state ∧
      (serveAll calls s).emitted = (Sink.run (Call.sinkCalls calls) s).emitted := by
  induction calls generalizing s with
  | nil => exact ⟨rfl, rfl⟩
  | cons c calls ih =>
    obtain ⟨m, c⟩ := c
    obtain ⟨hstate, hemitted⟩ := serve_eq_run m c s
    obtain ⟨hrest, hrest'⟩ := ih (serve m c s).state
    rw [Call.sinkCalls_cons, Sink.run_append_state, Sink.run_append_emitted, ← hstate, ← hemitted,
      ← hrest, ← hrest']
    exact ⟨rfl, rfl⟩

end AlertLedger.Store
