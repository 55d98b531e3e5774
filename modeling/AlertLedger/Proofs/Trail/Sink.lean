/-
# The sink in a run

What the calls on a trail come to for its sink. A call hands it at most one entry, or tells it to
flush or to close, and that is all that the sink sees: in a run of a trail there is a run of its
sink (`Trail.run_sink`). To overhear a sink is to change nothing (`Trail.run_forget`), and every
entry that is handed over has a call that it comes from (`Trail.exists_call`).
-/
import AlertLedger.Proofs.Sink
import AlertLedger.Proofs.Trail.Run
import Mathlib.Data.List.Induction

namespace AlertLedger

namespace Trail

variable {σ τ : Type} [Authority σ] [Sink τ]

/-! ### What the sink sees -/

/-- What a call comes to for the sink, by what the authority is when it comes. -/
def sinkCall? (c : Call) (a : σ) : Option SinkCall :=
  match c with
  | .change _ => (entryOf c a).map .append
  | .flush => some .flush
  | .close => some .close
  | .ask _ | .refresh => none

lemma sinkCall?_change (op : Operation) (a : σ) :
    sinkCall? (.change op) a = ((decide op).run a).1.map .append := rfl

/-- What the calls of a run come to for the sink. -/
def sinkCalls : List (Moment × Call) → Trail σ τ → List (Moment × SinkCall)
  | [], _ => []
  | (m, c) :: calls, t =>
    ((sinkCall? c t.authority).map fun c => (m, c)).toList ++ sinkCalls calls (t.perform m c).state

/-- All that a sink sees of a call is what the call comes to for it, and what it emits then the trail
emits. -/
lemma perform_sink (m : Moment) (c : Call) (t : Trail σ τ) :
    (t.perform m c).state.sink
        = (Sink.run ((sinkCall? c t.authority).map fun c => (m, c)).toList t.sink).state ∧
      (Sink.run ((sinkCall? c t.authority).map fun c => (m, c)).toList t.sink).emitted.Sublist
        (t.perform m c).emitted := by
  cases c with
  | change op =>
    rw [sinkCall?_change]
    change (t.apply m op).state.sink = _ ∧ List.Sublist _ (t.apply m op).emitted
    rw [apply_def]
    cases ((decide op).run t.authority).1 with
    | none => exact ⟨rfl, .refl _⟩
    | some e =>
      refine ⟨rfl, ?_⟩
      change (Sink.run [(m, .append e)] t.sink).emitted.Sublist
        (.log (.appending e) :: ((Sink.append m e t.sink).emitted ++ _))
      rw [Sink.run_singleton_emitted]
      exact (List.sublist_append_left _ _).cons _
  | ask q => exact ⟨rfl, .refl _⟩
  | refresh =>
    refine ⟨?_, List.nil_sublist _⟩
    change t.refresh.state.sink = t.sink
    unfold refresh
    split <;> rfl
  | flush =>
    refine ⟨rfl, ?_⟩
    change (Sink.run [(m, .flush)] t.sink).emitted.Sublist _
    rw [Sink.run_singleton_emitted]
    exact .refl _
  | close =>
    refine ⟨rfl, ?_⟩
    change (Sink.run [(m, .close)] t.sink).emitted.Sublist _
    rw [Sink.run_singleton_emitted]
    exact .refl _

/-- What is emitted in a run is emitted by one of its calls. -/
lemma run_cons_emitted (m : Moment) (c : Call) (calls : List (Moment × Call)) (t : Trail σ τ) :
    (run ((m, c) :: calls) t).emitted
      = (t.perform m c).emitted ++ (run calls (t.perform m c).state).emitted := rfl

/-- All that a sink sees of a run is what its calls come to for it. -/
theorem run_sink (calls : List (Moment × Call)) (t : Trail σ τ) :
    (after calls t).sink = (Sink.run (sinkCalls calls t) t.sink).state ∧
      (Sink.run (sinkCalls calls t) t.sink).emitted.Sublist (run calls t).emitted := by
  induction calls generalizing t with
  | nil => exact ⟨rfl, .refl _⟩
  | cons p calls ih =>
    obtain ⟨m, c⟩ := p
    obtain ⟨hsink, hemitted⟩ := perform_sink m c t
    obtain ⟨hrest, hrest'⟩ := ih (t.perform m c).state
    rw [hsink] at hrest hrest'
    rw [sinkCalls, Sink.run_append_state, Sink.run_append_emitted, run_cons_emitted]
    exact ⟨hrest, hemitted.append hrest'⟩

/-! ### Overhearing -/

/-- The trail with its sink no longer overheard. -/
def forget (t : Trail σ (Overheard τ)) : Trail σ τ where
  authority := t.authority
  sink := t.sink.sink
  metered := t.metered

lemma perform_forget (m : Moment) (c : Call) (t : Trail σ (Overheard τ)) :
    t.forget.perform m c = (t.perform m c).within forget := by
  obtain ⟨a, s, metered⟩ := t
  cases c with
  | change op =>
    simp only [perform, apply, forget]
    cases (decide op).run a with
    | mk entry a => cases entry <;> rfl
  | ask q => rfl
  | refresh => cases metered <;> rfl
  | flush => rfl
  | close => rfl

/-- To overhear a sink changes nothing. -/
theorem run_forget (calls : List (Moment × Call)) (t : Trail σ (Overheard τ)) :
    run calls t.forget = (run calls t).within forget := by
  induction calls generalizing t with
  | nil => rfl
  | cons p calls ih =>
    obtain ⟨m, c⟩ := p
    simp only [run, perform_forget, Step.andThen, Step.within, Step.after, ih]

lemma after_inMemory (calls : List (Moment × Call)) (sink : τ) (metered : Bool) :
    after calls (inMemory sink metered) = (after calls (overheard sink metered)).forget :=
  congrArg Step.state (run_forget calls (overheard sink metered))

/-- The entries that a run hands to its sink, over an authority in memory that knows of nothing
yet. -/
def handed (calls : List (Moment × Call)) (sink : τ) (metered : Bool) : List (Moment × Entry) :=
  (after calls (overheard sink metered)).sink.heard

/-- Every entry that is handed over comes from a call with an operation, and what was handed
over before it is what was handed over up to that call. -/
theorem exists_call {calls : List (Moment × Call)} {sink : τ} {metered : Bool}
    {xs ys : List (Moment × Entry)} {p : Moment × Entry}
    (h : handed calls sink metered = xs ++ p :: ys) :
    ∃ before op rest, calls = before ++ (p.1, .change op) :: rest ∧
      handed before sink metered = xs ∧
      op.entry (after before (overheard sink metered)).authority = some p.2 := by
  -- The last entry comes from the last call that hands one over, so the run is taken from its end.
  induction calls using List.reverseRecOn generalizing ys with
  | nil =>
    have := congrArg List.length h
    simp [handed, overheard, inMemory] at this
  | append_singleton calls c ih =>
    obtain ⟨m, c⟩ := c
    rw [handed, after_append, after_cons, after_nil, perform_heard] at h
    have hearlier {ys : List (Moment × Entry)} (h : handed calls sink metered = xs ++ p :: ys) :
        ∃ before op rest, calls ++ [(m, c)] = before ++ (p.1, .change op) :: rest ∧
          handed before sink metered = xs ∧
          op.entry (after before (overheard sink metered)).authority = some p.2 := by
      obtain ⟨before, op, rest, rfl, hxs, hp⟩ := ih h
      exact ⟨before, op, rest ++ [(m, c)], by simp, hxs, hp⟩
    cases hc : c.operation?.bind fun op =>
        op.entry (after calls (overheard sink metered)).authority with
    | none =>
      rw [hc, Option.toList_none, List.map_nil, List.append_nil] at h
      exact hearlier h
    | some e =>
      rw [hc, Option.toList_some, List.map_singleton] at h
      rcases List.eq_nil_or_concat ys with rfl | ⟨ys, q, rfl⟩
      · -- The entry is the one of this call.
        obtain ⟨hxs, hp⟩ := List.append_inj' h rfl
        obtain rfl : (m, e) = p := by simpa using hp
        obtain ⟨op, hop, he⟩ := Option.bind_eq_some_iff.mp hc
        cases c with
        | change op' =>
          obtain rfl := Option.some.inj hop
          exact ⟨calls, op', [], rfl, hxs, he⟩
        | ask | refresh | flush | close => cases hop
      · rw [List.concat_eq_append, ← List.cons_append, ← List.append_assoc] at h
        exact hearlier (List.append_inj' h rfl).1

end Trail

end AlertLedger
