/-
# Trails

A trail stands in front of an authority and records what happens there. It passes every call on;
around a call that changes an alert it asks for the status before and for what the authority makes
of the alert afterwards, and hands the sink an entry if a rule finds one worth recording. The
arguments of the call decide nothing, since the authority may make of them what it likes.
-/
import AlertLedger.Authority
import AlertLedger.Sink

namespace AlertLedger

/-- An authority with a sink for what happens to its alerts. A trail that is metered also keeps
the metrics. -/
structure Trail (σ τ : Type) where
  authority : σ
  sink : τ
  metered : Bool := false

namespace Trail

variable {σ τ : Type} [Authority σ] [Sink τ]

/-! ## Deciding -/

/-- Runs a change of an alert and decides what is recorded of it: `check` asks the authority
after the change and applies the rule to the status before. -/
def observe (alert : Fingerprint) (change : σ → σ)
    (check : AlertStatus → StateM σ (Option Transition)) : StateM σ (Option Entry) := do
  let prev ← Authority.status alert
  modify change
  let decision ← check prev
  return decision.map fun t => ⟨alert, t⟩

/-- What an operation does to the authority and what is recorded of it. Operations on groups
leave no entry. -/
def decide (op : Operation) : StateM σ (Option Entry) :=
  match op with
  | .silence ref .. =>
    observe ref.resolve (Authority.apply op) fun prev => do
      let now ← Authority.silenced ref.resolve
      return Transition.afterSilencing prev now.silenced
  | .inhibit ref _ =>
    observe ref.resolve (Authority.apply op) fun prev => do
      let now ← Authority.inhibited ref.resolve
      return Transition.afterInhibiting prev now.names now.inEffect
  | .delete ref =>
    observe ref.resolve (Authority.apply op) fun prev => return Transition.afterDeletion prev
  | .mute .. | .unmute _ => do
    modify (Authority.apply op)
    return none

/-! ## Recording -/

/-- Hands an entry to the sink. -/
def record (m : Moment) (entry : Option Entry) (t : Trail σ τ) : Step (Trail σ τ) Unit :=
  match entry with
  | none => { result := (), state := t }
  | some e =>
    let step := Sink.append m e t.sink
    { result := ()
      state := { t with sink := step.state }
      emitted := .log (.appending e) :: step.emitted
        ++ if t.metered then [.metric (.transition e.transition.state.name)] else [] }

/-- Applies an operation. -/
def apply (m : Moment) (op : Operation) (t : Trail σ τ) : Step (Trail σ τ) Unit :=
  let (entry, authority) := (decide op).run t.authority
  { t with authority }.record m entry

/-- Passes a question on to the authority. -/
def ask {α : Type} (question : StateM σ α) (t : Trail σ τ) : Step (Trail σ τ) α :=
  let (answer, authority) := question.run t.authority
  { result := answer, state := { t with authority } }

/-- Flushes the sink. -/
def flush (m : Moment) (t : Trail σ τ) : Step (Trail σ τ) (Except Fault Unit) :=
  (Sink.flush m t.sink).within fun sink => { t with sink }

/-- Closes the sink. -/
def close (m : Moment) (t : Trail σ τ) : Step (Trail σ τ) (Except Fault Unit) :=
  (Sink.close m t.sink).within fun sink => { t with sink }

/-! ## Gauges -/

/-- The states whose alerts are counted, in the order in which they are. -/
def gaugedStates : List AlertState := [.active, .suppressed, .unprocessed]

/-- Counts the alerts of each gauged state. -/
def gauges : StateM σ (List Effect) :=
  gaugedStates.mapM fun s => do
    let alerts ← Authority.count [s]
    return .metric (.marked s.name (UInt64.ofNat alerts))

/-- Brings the gauges up to date. A trail that is not metered asks nothing. -/
def refresh (t : Trail σ τ) : Step (Trail σ τ) Unit :=
  if t.metered then
    let (emitted, authority) := gauges.run t.authority
    { result := (), state := { t with authority }, emitted }
  else { result := (), state := t }

end Trail

end AlertLedger
