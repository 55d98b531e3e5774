/-
# Replays as folds

To replay a stream is to apply its operations one at a time in their order and to flush in the end.
What the authority knows then and what the sink was handed is decided before the flush, and so by
the operations and by the authority alone (`Trail.after_changes_congr`); the flush has a say in the
result only. The summary counts the operations as they come (`ReplaySummary.Counts`), so that the
summaries of two streams add up. Of an alert nothing matters but its fingerprint: a stream and
the stream with all references resolved are replayed alike (`Trail.replay_resolved`). The results
are put together in `Trail.replay_folds`.
-/
import AlertLedger.Proofs.Stats
import AlertLedger.Proofs.Trail.Replay
import AlertLedger.Sink.Recording

namespace AlertLedger

/-! ### Summaries -/

namespace ReplaySummary

/-- A summary counts the operations of a stream, in all and by their names; names that do not occur
have no entry. -/
structure Counts (s : ReplaySummary) (ops : List Operation) : Prop where
  operations : s.operations = ops.length
  find? : ∀ name, s.byOperation.find? name
    = if ops.countP (·.name = name) = 0 then none else some (ops.countP (·.name = name))
  sum : s.byOperation.values.sum = s.operations

namespace Counts

variable {s s' : ReplaySummary} {xs ys : List Operation}

lemma start : Counts {} [] where
  operations := rfl
  find? _ := rfl
  sum := rfl

lemma count_map_name (ops : List Operation) (name : String) :
    (ops.map Operation.name).count name = ops.countP (·.name = name) := by
  rw [List.count, List.countP_map]
  rfl

/-- To count the operations of a stream is to keep a tally of their names. -/
lemma iff_tally : s.Counts xs
    ↔ s.operations = xs.length ∧ Stats.Tally s.byOperation (xs.map Operation.name) := by
  constructor
  · intro h
    refine ⟨h.operations, ⟨fun name => ?_, ?_⟩⟩
    · rw [h.find?, count_map_name]
    · rw [h.sum, h.operations, List.length_map]
  · rintro ⟨hoperations, htally⟩
    refine ⟨hoperations, fun name => ?_, ?_⟩
    · rw [htally.find?, count_map_name]
    · rw [htally.sum, hoperations, List.length_map]

/-- The number of operations of a name. -/
lemma getD (h : s.Counts xs) (name : String) :
    (s.byOperation.find? name).getD 0 = xs.countP (·.name = name) := by
  rw [(iff_tally.mp h).2.getD, count_map_name]

/-- One more operation is counted. -/
lemma add (h : s.Counts xs) (op : Operation) : (s.add op).Counts (xs ++ [op]) := by
  obtain ⟨hoperations, htally⟩ := iff_tally.mp h
  refine iff_tally.mpr ⟨?_, ?_⟩
  · rw [ReplaySummary.add, hoperations, List.length_append, List.length_singleton]
  · rw [List.map_append, List.map_singleton]
    exact htally.count op.name

/-- The summaries of two streams add up to that of the one after the other. -/
lemma append {t : ReplaySummary} (h : s.Counts xs) (h' : s'.Counts ys) (ht : t.Counts (xs ++ ys)) :
    t.operations = s.operations + s'.operations ∧
      ∀ name, (t.byOperation.find? name).getD 0
        = (s.byOperation.find? name).getD 0 + (s'.byOperation.find? name).getD 0 := by
  refine ⟨?_, ?_⟩
  · rw [ht.operations, h.operations, h'.operations, List.length_append]
  · intro name
    rw [ht.getD, h.getD, h'.getD, List.countP_append]

end Counts

end ReplaySummary

/-! ### References -/

namespace Operation

/-- An operation with its alert named by fingerprint. -/
def resolved : Operation → Operation
  | .silence alert version active pending =>
    .silence (.fingerprint alert.resolve) version active pending
  | .inhibit alert inhibitors => .inhibit (.fingerprint alert.resolve) inhibitors
  | .delete alert => .delete (.fingerprint alert.resolve)
  | .mute group intervals => .mute group intervals
  | .unmute group => .unmute group

lemma name_resolved (op : Operation) : op.resolved.name = op.name := by
  cases op <;> rfl

lemma alert?_resolved (op : Operation) : op.resolved.alert? = op.alert? := by
  cases op <;> rfl

end Operation

namespace Trail

variable {σ τ : Type} [Authority σ] [Sink τ]

lemma decide_resolved (op : Operation) :
    (decide op.resolved : StateM σ (Option Entry)) = decide op := by
  cases op <;> rfl

/-- An operation does the same however its alert is named. -/
lemma apply_resolved (m : Moment) (op : Operation) (t : Trail σ τ) :
    t.apply m op.resolved = t.apply m op := by
  rw [apply_def, apply_def, decide_resolved]

lemma applyAll_resolved (clock : Nat → Moment) (i : Nat) (summary : ReplaySummary)
    (ops : List Operation) (t : Trail σ τ) :
    applyAll clock i summary (ops.map Operation.resolved) t = applyAll clock i summary ops t := by
  induction ops generalizing i summary t with
  | nil => rfl
  | cons op ops ih =>
    have hadd : summary.add op.resolved = summary.add op := by
      rw [ReplaySummary.add, ReplaySummary.add, op.name_resolved]
    have hrest : applyAll clock (i + 1) (summary.add op) (ops.map Operation.resolved)
        = applyAll (σ := σ) (τ := τ) clock (i + 1) (summary.add op) ops := funext fun _ => ih ..
    rw [List.map_cons, applyAll, applyAll, apply_resolved, op.name_resolved, op.alert?_resolved,
      hadd, hrest]

/-- A stream is replayed as it is with all references resolved. -/
lemma replay_resolved (clock : Nat → Moment) (ops : List Operation) (t : Trail σ τ) :
    replay clock (ops.map Operation.resolved) t = replay clock ops t := by
  rw [replay, replay, applyAll_resolved, List.length_map]

/-! ### One operation at a time -/

lemma timed_append (clock : Nat → Moment) (i : Nat) (xs ys : List Operation) :
    timed clock i (xs ++ ys) = timed clock i xs ++ timed clock (i + xs.length) ys := by
  rw [timed, List.zipIdx_append, List.map_append]
  rfl

lemma after_changes_append (clock : Nat → Moment) (i : Nat) (xs ys : List Operation)
    (t : Trail σ τ) :
    after (changes (timed clock i (xs ++ ys))) t
      = after (changes (timed clock (i + xs.length) ys))
          (after (changes (timed clock i xs)) t) := by
  rw [timed_append, changes, List.map_append, after_append]
  rfl

/-- What becomes of the authority in a run of operations, and what is handed over, is the same with
any other sink. -/
lemma after_changes_congr {τ' : Type} [Sink τ'] (ops : List (Moment × Operation))
    {t : Trail σ (Overheard τ)} {t' : Trail σ (Overheard τ')} (ha : t'.authority = t.authority)
    (hheard : t'.sink.heard = t.sink.heard) :
    (after (changes ops) t').authority = (after (changes ops) t).authority ∧
      (after (changes ops) t').sink.heard = (after (changes ops) t).sink.heard := by
  induction ops generalizing t t' with
  | nil => exact ⟨ha, hheard⟩
  | cons p ops ih =>
    obtain ⟨m, op⟩ := p
    refine ih ?_ ?_
    · change (t'.apply m op).state.authority = (t.apply m op).state.authority
      rw [apply_authority_eq, apply_authority_eq, ha]
    · rw [perform_heard_eq, perform_heard_eq, ha, hheard]

/-- While operations are applied, they are counted. -/
lemma counts_applyAll (clock : Nat → Moment) (i : Nat) {summary : ReplaySummary}
    {before : List Operation} (h : summary.Counts before) (ops : List Operation) (t : Trail σ τ) :
    (applyAll clock i summary ops t).result.Counts (before ++ ops) := by
  induction ops generalizing i summary before t with
  | nil =>
    rw [List.append_nil]
    exact h
  | cons op ops ih =>
    rw [List.append_cons]
    exact ih (i + 1) (h.add op) (t.apply (clock i) op).state

/-! ### Replays -/

/-- In the end a replay flushes the trail that the operations have left, and the result is that of
the flush. -/
lemma replay_eq (clock : Nat → Moment) (ops : List Operation) (t : Trail σ τ) :
    let flushed := (after (changes (timed clock 0 ops)) t).flush (clock ops.length)
    (replay clock ops t).state = flushed.state ∧
      (replay clock ops t).result
        = flushed.result.map fun _ => (applyAll clock 0 {} ops t).result := by
  intro flushed
  obtain ⟨hstate, -⟩ := applyAll_run clock 0 {} ops t
  change (flush _ (applyAll clock 0 {} ops t).state).state = _ ∧
    (flush _ (applyAll clock 0 {} ops t).state).result.map _ = _
  rw [hstate]
  exact ⟨rfl, rfl⟩

/-- The summary of a replay that succeeds counts the operations of the stream. -/
lemma counts_of_replay_eq_ok {clock : Nat → Moment} {ops : List Operation} {t : Trail σ τ}
    {summary : ReplaySummary} (h : (replay clock ops t).result = .ok summary) :
    summary.Counts ops := by
  rw [(replay_eq clock ops t).2] at h
  cases hflush : ((after (changes (timed clock 0 ops)) t).flush (clock ops.length)).result with
  | error fault =>
    rw [hflush] at h
    cases h
  | ok =>
    rw [hflush] at h
    obtain rfl := Except.ok.inj h
    exact counts_applyAll clock 0 .start ops t

/-- **A replay is a fold.**  To replay one stream after the other leaves the authority, and all that
its sink was handed, as their operations leave them when they are applied one at a time in order,
and then the trail is flushed once. If that fails the replay fails for the same reason, and
otherwise it succeeds; its summary counts the operations, in all and by their names, and is the sum
of the summaries of the two streams, whatever they were replayed on. The authority and what the sink
was handed are the same with any other sink, so also with one that can be flushed when this one
cannot. How the operations name their alerts makes no difference to any of this. -/
theorem replay_folds (clock : Nat → Moment) (xs ys : List Operation) (t : Trail σ (Overheard τ)) :
    let applied := after (changes (timed clock xs.length ys)) (after (changes (timed clock 0 xs)) t)
    let flushed := applied.flush (clock (xs ++ ys).length)
    let replayed := replay clock (xs ++ ys) t
    (replayed.state = flushed.state ∧ replayed.state.authority = applied.authority ∧
        replayed.state.sink.heard = applied.sink.heard) ∧
      (∀ fault, flushed.result = .error fault → replayed.result = .error fault) ∧
      (flushed.result = .ok () → ∃ summary, replayed.result = .ok summary) ∧
      (∀ summary, replayed.result = .ok summary →
        summary.Counts (xs ++ ys) ∧
          ∀ clock' (u v : Trail σ τ) first second, (replay clock' xs u).result = .ok first →
            (replay clock' ys v).result = .ok second →
              summary.operations = first.operations + second.operations ∧
                ∀ name, (summary.byOperation.find? name).getD 0
                  = (first.byOperation.find? name).getD 0
                    + (second.byOperation.find? name).getD 0) ∧
      (∀ {τ' : Type} [Sink τ'] (t' : Trail σ (Overheard τ')), t'.authority = t.authority →
        t'.sink.heard = t.sink.heard →
          (replay clock (xs ++ ys) t').state.authority = replayed.state.authority ∧
            (replay clock (xs ++ ys) t').state.sink.heard = replayed.state.sink.heard) ∧
      ∀ ops, ops.map Operation.resolved = (xs ++ ys).map Operation.resolved →
        replay clock ops t = replayed := by
  intro applied flushed replayed
  have happlied : after (changes (timed clock 0 (xs ++ ys))) t = applied := by
    rw [after_changes_append, Nat.zero_add]
  obtain ⟨hstate, hresult⟩ := replay_eq clock (xs ++ ys) t
  rw [happlied] at hstate hresult
  refine ⟨⟨hstate, ?_, ?_⟩, ?_, ?_, ?_, ?_, ?_⟩
  · exact (congrArg Trail.authority hstate).trans rfl
  · exact (congrArg (·.sink.heard) hstate).trans rfl
  · intro fault hfault
    change flushed.result = _ at hfault
    rw [hresult]
    exact congrArg (Except.map _) hfault
  · intro hok
    rw [hresult]
    exact ⟨_, congrArg (Except.map _) hok⟩
  · intro summary hsummary
    have hcounts : summary.Counts (xs ++ ys) := counts_of_replay_eq_ok hsummary
    refine ⟨hcounts, ?_⟩
    intro clock' u v first second hfirst hsecond
    exact (counts_of_replay_eq_ok hfirst).append (counts_of_replay_eq_ok hsecond) hcounts
  · intro τ' _ t' ha hheard
    obtain ⟨hauthority, hhanded⟩ :=
      after_changes_congr (timed clock 0 (xs ++ ys)) ha hheard
    obtain ⟨hstate', -⟩ := replay_eq clock (xs ++ ys) t'
    obtain ⟨hstate, -⟩ := replay_eq clock (xs ++ ys) t
    rw [hstate', hstate]
    exact ⟨hauthority, hhanded⟩
  · intro ops hops
    rw [← replay_resolved, hops, replay_resolved]

/-! ### A replay that fails in the end -/

/-- An alert with a label. -/
def latency : LabelSet := .ofList [("alertname", "HighLatency")]

/-- The life of an alert, in a group that is muted meanwhile. -/
def lifecycle (ref : AlertRef) : List Operation :=
  [.silence ref 1 [] [], .inhibit ref ["a"], .mute ⟨"route", "group"⟩ ["weekends"], .delete ref]

/-- A trail over an authority in memory that cannot be flushed. -/
def unflushable : Trail MemoryAuthority (Overheard UnreliableSink) :=
  overheard { reason := "disk full" } false

/-- Of a replay of this life all that fails is the flush: the sink was handed what one that keeps
everything was handed, where the replay succeeds and counts one deletion among four operations. It
makes no difference that one of the two streams names the alert by fingerprint. -/
theorem replay_folds_lifecycle :
    let recording := overheard ({} : RecordingSink) true
    (replay fromTen (lifecycle (.labels latency)) unflushable).result
        = .error (.flushFailed "disk full") ∧
      (replay fromTen (lifecycle (.fingerprint latency.fingerprint)) unflushable).state.sink.heard
        = (replay fromTen (lifecycle (.labels latency)) recording).state.sink.heard ∧
      ∃ summary, (replay fromTen (lifecycle (.labels latency)) recording).result = .ok summary ∧
        summary.operations = 4 ∧ summary.byOperation.find? "delete" = some 1 ∧
        summary.byOperation.find? "delete_by_group_key" = none := by
  intro recording
  obtain ⟨-, hfails, -, -, hother, hnamed⟩ :=
    replay_folds fromTen ((lifecycle (.labels latency)).take 2)
      ((lifecycle (.labels latency)).drop 2) unflushable
  obtain ⟨-, -, hsucceeds, hcounts, -, -⟩ :=
    replay_folds fromTen ((lifecycle (.labels latency)).take 2)
      ((lifecycle (.labels latency)).drop 2) recording
  rw [List.take_append_drop] at hfails hother hnamed hsucceeds hcounts
  obtain ⟨summary, hsummary⟩ := hsucceeds rfl
  obtain ⟨hcount, -⟩ := hcounts summary hsummary
  have hrecording := (hother recording rfl rfl).2
  refine ⟨hfails _ rfl, ?_, summary, hsummary, hcount.operations, hcount.find? _, hcount.find? _⟩
  rw [hnamed (lifecycle (.fingerprint latency.fingerprint)) rfl]
  exact hrecording.symm

end Trail

end AlertLedger
