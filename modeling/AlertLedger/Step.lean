/-
# Steps

A call on one of the parts leaves behind a result, the part's new state, and what the part
emitted for the log and the metrics, in order.
-/
import AlertLedger.Log.Event
import AlertLedger.Metrics

namespace AlertLedger

/-- What a part emits. -/
inductive Effect where
  | log (e : LogEvent)
  | metric (u : MetricsUpdate)

namespace Effect

/-- The log event that an effect is. -/
def log? : Effect → Option LogEvent
  | .log e => some e
  | .metric _ => none

/-- The report for the metrics that an effect is. -/
def metric? : Effect → Option MetricsUpdate
  | .log _ => none
  | .metric u => some u

end Effect

/-- What a call on a part with states in `σ` leaves behind. -/
structure Step (σ : Type) (α : Type) where
  result : α
  state : σ
  emitted : List Effect := []

namespace Step

variable {σ τ α β : Type}

/-- The step with its state made part of a larger one. -/
def within (s : Step σ α) (f : σ → τ) : Step τ α :=
  ⟨s.result, f s.state, s.emitted⟩

/-- The step with something emitted before it. -/
def after (s : Step σ α) (before : List Effect) : Step σ α :=
  { s with emitted := before ++ s.emitted }

/-- A step followed by a second one, which starts from its state and sees its result. -/
def andThen (s : Step σ α) (next : α → σ → Step σ β) : Step σ β :=
  (next s.result s.state).after s.emitted

end Step

/-- The metrics after what was emitted. -/
def MetricsRegistry.absorb (r : MetricsRegistry) (emitted : List Effect) : MetricsRegistry :=
  (emitted.filterMap Effect.metric?).foldl record r

end AlertLedger
