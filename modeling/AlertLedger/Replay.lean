/-
# Replays

A replay applies the operations of a stream in their order, flushes the sink and says how many
operations there were of each kind.
-/
import AlertLedger.Operation.Kind
import AlertLedger.Trail

namespace AlertLedger

/-- What a replay did: how many operations it applied, and how many by their names. -/
structure ReplaySummary where
  operations : Nat := 0
  byOperation : SortedMap String Nat := .empty
deriving DecidableEq, Inhabited

namespace ReplaySummary

/-- The summary with one more operation. -/
def add (s : ReplaySummary) (op : Operation) : ReplaySummary where
  operations := s.operations + 1
  byOperation := s.byOperation.alter op.name fun n => n.getD 0 + 1

end ReplaySummary

namespace Trail

variable {σ τ : Type} [Authority σ] [Sink τ]

/-- Applies operations one after the other, the first one at moment `i` of the clock. -/
def applyAll (clock : Nat → Moment) (i : Nat) (summary : ReplaySummary) :
    List Operation → Trail σ τ → Step (Trail σ τ) ReplaySummary
  | [], t => { result := summary, state := t }
  | op :: ops, t =>
    let step := (t.apply (clock i) op).after [.log (.replaying op.name op.alert?)]
    step.andThen fun _ => applyAll clock (i + 1) (summary.add op) ops

/-- Replays a stream: one moment for each operation and one for the flush. The operations are
applied even if the flush fails in the end. -/
def replay (clock : Nat → Moment) (ops : List Operation) (t : Trail σ τ) :
    Step (Trail σ τ) (Except Fault ReplaySummary) :=
  (t.applyAll clock 0 {} ops).andThen fun summary t =>
    let step := t.flush (clock ops.length)
    { step with result := step.result.map fun _ => summary }

end Trail

end AlertLedger
