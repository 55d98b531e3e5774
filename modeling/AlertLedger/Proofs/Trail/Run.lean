/-
# Runs of a trail

A trail is called any number of times in any order: with operations, with questions, to refresh
the gauges, to flush and to close. Each call comes with a moment, which holds what the surroundings
contribute to it. A run makes the calls one after the other and keeps the replies.

To see what a trail hands to its sink, whatever the sink makes of it, the sink is overheard: an
overheard sink does what it did before, and a list of the entries is kept beside it. What is on
that list is decided by the authority alone (`Trail.perform_heard_eq`). Over the authority in
memory each call has a plain effect: it changes the authority by its operation, if it has one, and
adds at most one entry to the list (`Trail.perform_authority`, `Trail.perform_heard`). What a whole
run keeps follows by the induction in `Trail.run_induction`, or, for a single alert, in
`Trail.run_induction_alert`.
-/
import AlertLedger.Proofs.Trail.Decision
import Mathlib.Tactic.Convert

namespace AlertLedger

/-! ### Questions -/

/-- The questions that an authority answers. -/
inductive Question where
  | status (alert : Fingerprint)
  | unprocessed (alert : Fingerprint)
  | active (alert : Fingerprint)
  | silenced (alert : Fingerprint)
  | inhibited (alert : Fingerprint)
  | count (states : List AlertState)
  | muted (group : GroupKey)

/-- The answers to questions. -/
inductive Answer where
  | status (s : AlertStatus)
  | verdict (b : Bool)
  | silences (r : SilenceReport)
  | effect (r : EffectReport)
  | number (n : Nat)

/-- Puts a question to an authority. -/
def Authority.answer {σ : Type} [Authority σ] : Question → StateM σ Answer
  | .status alert => return .status (← Authority.status alert)
  | .unprocessed alert => return .verdict (← Authority.unprocessed alert)
  | .active alert => return .verdict (← Authority.active alert)
  | .silenced alert => return .silences (← Authority.silenced alert)
  | .inhibited alert => return .effect (← Authority.inhibited alert)
  | .count states => return .number (← Authority.count states)
  | .muted group => return .effect (← Authority.muted group)

/-- To the authority in memory a question does nothing. -/
lemma MemoryAuthority.answer_snd (q : Question) (a : MemoryAuthority) :
    ((Authority.answer q).run a).2 = a := by
  cases q <;> rfl

/-! ### Calls -/

/-- The calls on a trail. -/
inductive Call where
  | change (op : Operation)
  | ask (q : Question)
  | refresh
  | flush
  | close

/-- The operation of a call. -/
def Call.operation? : Call → Option Operation
  | .change op => some op
  | _ => none

/-- What a call gives back. -/
inductive Reply where
  | nothing
  | answer (a : Answer)
  | outcome (r : Except Fault Unit)

namespace Trail

section

variable {σ τ : Type} [Authority σ] [Sink τ]

/-- Makes a call. -/
def perform (m : Moment) (c : Call) (t : Trail σ τ) : Step (Trail σ τ) Reply :=
  match c with
  | .change op => { t.apply m op with result := .nothing }
  | .ask q =>
    let step := t.ask (Authority.answer q)
    { step with result := .answer step.result }
  | .refresh => { t.refresh with result := .nothing }
  | .flush =>
    let step := t.flush m
    { step with result := .outcome step.result }
  | .close =>
    let step := t.close m
    { step with result := .outcome step.result }

/-- Makes calls one after the other. -/
def run : List (Moment × Call) → Trail σ τ → Step (Trail σ τ) (List Reply)
  | [], t => { result := [], state := t }
  | (m, c) :: calls, t =>
    (t.perform m c).andThen fun reply t =>
      let step := run calls t
      { step with result := reply :: step.result }

/-- The trail that a run leaves behind. -/
def after (calls : List (Moment × Call)) (t : Trail σ τ) : Trail σ τ := (run calls t).state

@[simp] lemma after_nil (t : Trail σ τ) : after [] t = t := rfl

@[simp] lemma after_cons (m : Moment) (c : Call) (calls : List (Moment × Call)) (t : Trail σ τ) :
    after ((m, c) :: calls) t = after calls (t.perform m c).state := rfl

lemma after_append (xs ys : List (Moment × Call)) (t : Trail σ τ) :
    after (xs ++ ys) t = after ys (after xs t) := by
  induction xs generalizing t with
  | nil => rfl
  | cons x xs ih => exact ih _

/-- A trail over an authority in memory that knows of nothing yet. -/
def inMemory (sink : τ) (metered : Bool) : Trail MemoryAuthority τ where
  authority := .empty
  sink := sink
  metered := metered

end

end Trail

/-! ### Overheard sinks -/

/-- A sink with the entries that were handed to it, and the moments of these calls. -/
structure Overheard (τ : Type) where
  sink : τ
  heard : List (Moment × Entry) := []

namespace Overheard

variable {τ : Type}

instance [Sink τ] : Sink (Overheard τ) where
  append m e s := (Sink.append m e s.sink).within fun sink => ⟨sink, s.heard ++ [(m, e)]⟩
  flush m s := (Sink.flush m s.sink).within fun sink => { s with sink }
  close m s := (Sink.close m s.sink).within fun sink => { s with sink }

/-- The transitions of one alert that were handed over. -/
def transitionsOf (s : Overheard τ) (alert : Fingerprint) : List Transition :=
  (s.heard.filter fun p => p.2.alert = alert).map fun p => p.2.transition

lemma transitionsOf_append (sink : τ) (xs ys : List (Moment × Entry)) (alert : Fingerprint) :
    transitionsOf { sink, heard := xs ++ ys } alert
      = transitionsOf { sink, heard := xs } alert ++ transitionsOf { sink, heard := ys } alert := by
  simp [transitionsOf]

end Overheard

/-- A trail over an authority in memory that knows of nothing yet, with an overheard sink to which
nothing was handed yet. -/
def Trail.overheard {τ : Type} (sink : τ) (metered : Bool) : Trail MemoryAuthority (Overheard τ) :=
  .inMemory { sink } metered

/-! ### The effect of a call -/

namespace Trail

variable {τ : Type} [Sink τ]

section

variable {σ : Type} [Authority σ]

/-- Applying an operation is deciding what is recorded of it and recording that. -/
lemma apply_def (m : Moment) (op : Operation) (t : Trail σ τ) :
    t.apply m op = { t with authority := ((decide op).run t.authority).2 }.record m
      ((decide op).run t.authority).1 := rfl

lemma apply_metered (m : Moment) (op : Operation) (t : Trail σ τ) :
    (t.apply m op).state.metered = t.metered := by
  rw [apply_def]
  cases ((decide op).run t.authority).1 <;> rfl

/-- An operation leaves the authority as the decision on it does. -/
lemma apply_authority_eq (m : Moment) (op : Operation) (t : Trail σ τ) :
    (t.apply m op).state.authority = ((decide op).run t.authority).2 := by
  rw [apply_def]
  cases ((decide op).run t.authority).1 <;> rfl

/-- The entry that a call leaves, by what the authority is when it comes. -/
def entryOf (c : Call) (a : σ) : Option Entry :=
  c.operation?.bind fun op => ((decide op).run a).1

/-- What a sink is handed is decided by the authority alone. -/
lemma perform_heard_eq (m : Moment) (c : Call) (t : Trail σ (Overheard τ)) :
    (t.perform m c).state.sink.heard
      = t.sink.heard ++ (entryOf c t.authority).toList.map fun e => (m, e) := by
  cases c with
  | change op =>
    change (t.apply m op).state.sink.heard = _ ++ ((decide op).run t.authority).1.toList.map _
    rw [apply_def]
    cases ((decide op).run t.authority).1 with
    | none => exact (List.append_nil _).symm
    | some e => rfl
  | refresh =>
    change t.refresh.state.sink.heard = _
    unfold refresh
    split <;> exact (List.append_nil _).symm
  | ask | flush | close => exact (List.append_nil _).symm

end

/-- Applying an operation over the authority in memory. -/
lemma apply_eq (m : Moment) (op : Operation) (t : Trail MemoryAuthority τ) :
    t.apply m op
      = { t with authority := Authority.apply op t.authority }.record m (op.entry t.authority) := by
  rw [apply_def, decide_run]

lemma apply_authority (m : Moment) (op : Operation) (t : Trail MemoryAuthority τ) :
    (t.apply m op).state.authority = Authority.apply op t.authority := by
  rw [apply_authority_eq, decide_run]

lemma entryOf_eq (c : Call) (a : MemoryAuthority) :
    entryOf c a = c.operation?.bind fun op => op.entry a := by
  rw [entryOf]
  simp only [decide_run]

lemma apply_heard (m : Moment) (op : Operation) (t : Trail MemoryAuthority (Overheard τ)) :
    (t.apply m op).state.sink.heard
      = t.sink.heard ++ (op.entry t.authority).toList.map fun e => (m, e) := by
  have h := perform_heard_eq m (.change op) t
  rw [entryOf_eq] at h
  exact h

omit [Sink τ] in
lemma refresh_state (t : Trail MemoryAuthority τ) : t.refresh.state = t := by
  unfold refresh
  split <;> rfl

/-- A call changes the authority by its operation and by nothing else. -/
lemma perform_authority (m : Moment) (c : Call) (t : Trail MemoryAuthority τ) :
    (t.perform m c).state.authority
      = c.operation?.elim t.authority fun op => Authority.apply op t.authority := by
  cases c with
  | change op => exact apply_authority m op t
  | ask q => exact MemoryAuthority.answer_snd q t.authority
  | refresh => exact congrArg Trail.authority t.refresh_state
  | flush => rfl
  | close => rfl

/-- A call hands over the entry of its operation, if there is one, and nothing else. -/
lemma perform_heard (m : Moment) (c : Call) (t : Trail MemoryAuthority (Overheard τ)) :
    (t.perform m c).state.sink.heard = t.sink.heard
      ++ (c.operation?.bind fun op => op.entry t.authority).toList.map fun e => (m, e) := by
  rw [perform_heard_eq, entryOf_eq]

/-! ### Induction over a run -/

/-- What every operation keeps, a run keeps. -/
theorem run_induction {P : MemoryAuthority → List (Moment × Entry) → Prop}
    (step : ∀ a heard m op, P a heard →
      P (Authority.apply op a) (heard ++ (op.entry a).toList.map fun e => (m, e)))
    (calls : List (Moment × Call)) {t : Trail MemoryAuthority (Overheard τ)}
    (h : P t.authority t.sink.heard) :
    P (after calls t).authority (after calls t).sink.heard := by
  induction calls generalizing t with
  | nil => exact h
  | cons p calls ih =>
    obtain ⟨m, c⟩ := p
    refine ih ?_
    rw [perform_authority, perform_heard]
    cases hc : c.operation? with
    | none => simpa using h
    | some op => exact step _ _ m op h

/-- What is known of one alert and what is recorded of it change together: what every operation
keeps of the two, a run keeps. -/
theorem run_induction_alert {P : Option AlertStatus → List Transition → Prop}
    (start : P none [])
    (step : ∀ known ts (op : Operation), P known ts →
      P (op.revise known) (ts ++ (op.transition known).toList))
    (calls : List (Moment × Call)) (sink : τ) (metered : Bool) (alert : Fingerprint) :
    P ((after calls (overheard sink metered)).authority.alerts.find? alert)
      ((after calls (overheard sink metered)).sink.transitionsOf alert) := by
  refine run_induction (t := overheard sink metered) (P := fun a heard =>
    P (a.alerts.find? alert) (Overheard.transitionsOf { sink, heard } alert)) ?_ calls start
  intro a heard m op h
  rw [MemoryAuthority.find?_apply, Overheard.transitionsOf_append]
  by_cases ha : op.alert? = some alert
  · rw [if_pos ha, Operation.entry_of_alert ha]
    convert step _ _ op h using 2
    cases op.transition (a.alerts.find? alert) <;> simp [Overheard.transitionsOf]
  · rw [if_neg ha]
    convert h using 1
    rw [List.append_right_eq_self]
    cases he : op.entry a with
    | none => rfl
    | some e =>
      -- The entry is about the alert of the operation, which is another one.
      obtain ⟨other, hother, ho⟩ := Option.bind_eq_some_iff.mp he
      obtain ⟨t, -, rfl⟩ := Option.map_eq_some_iff.mp ho
      have hne : other ≠ alert := by
        rintro rfl
        exact ha hother
      simp [Overheard.transitionsOf, hne]

/-- Whatever was called, all statuses are settled. -/
lemma settled_after (calls : List (Moment × Call)) (sink : τ) (metered : Bool)
    (alert : Fingerprint) :
    ∀ s ∈ (after calls (overheard sink metered)).authority.alerts.find? alert, s.Settled := by
  refine run_induction_alert (P := fun known _ => ∀ s ∈ known, s.Settled) ?_ ?_ calls sink metered
    alert
  · intro s hs
    cases hs
  · intro known ts op h
    exact op.settled_revise h

end Trail

end AlertLedger
