/-
# What callers see of a trail

A trail passes every call on, and to its callers it should make no difference that it is there. It
asks the authority questions of its own, though, before and after an operation and to bring the
gauges up to date. As long as questions leave no mark on the authority (`Authority.Unmarked`),
nothing comes of that: with a trail or on its own, the authority answers the same and ends up the
same (`Trail.run_answers`, `Trail.after_authority`). The sink and the metrics never get a say in
this, whatever they are like, and so they have none in what the sink is handed either
(`Trail.handedIn_congr`). The results are put together in `Trail.transparent`.
-/
import AlertLedger.Proofs.Trail.Sink
import AlertLedger.Sink.Recording
import AlertLedger.Store

namespace AlertLedger

/-! ### Authorities on their own -/

namespace Authority

variable {σ : Type} [Authority σ]

/-- To answer a question leaves no mark on the authority. -/
def Unmarked (σ : Type) [Authority σ] : Prop :=
  ∀ (q : Question) (a : σ), ((answer q).run a).2 = a

/-- Makes a call on an authority without a trail. What is meant for the sink or for the metrics does
not concern it. -/
def perform (c : Call) : StateM σ (Option Answer) :=
  match c with
  | .change op => do
    modify (apply op)
    return none
  | .ask q => return some (← answer q)
  | .refresh | .flush | .close => return none

/-- Makes calls one after the other. -/
def run (calls : List Call) : StateM σ (List (Option Answer)) := calls.mapM perform

lemma run_cons (c : Call) (calls : List Call) (a : σ) :
    (run (c :: calls)).run a =
      (((perform c).run a).1 :: ((run calls).run ((perform c).run a).2).1,
        ((run calls).run ((perform c).run a).2).2) := by
  rw [run, List.mapM_cons]
  rfl

end Authority

lemma MemoryAuthority.unmarked : Authority.Unmarked MemoryAuthority :=
  MemoryAuthority.answer_snd

/-- The answer that a call gives back, if it gives one. -/
def Reply.answer? : Reply → Option Answer
  | .answer a => some a
  | .nothing | .outcome _ => none

namespace Trail

section

variable {σ : Type} [Authority σ]

/-! ### What the trail asks -/

/-- The questions around an operation leave nothing behind but the operation. -/
lemma decide_snd (h : Authority.Unmarked σ) (op : Operation) (a : σ) :
    ((decide op).run a).2 = Authority.apply op a := by
  cases op with
  | silence ref version active pending =>
    have hstatus : ((Authority.status ref.resolve).run a).2 = a := h (.status ref.resolve) a
    have hnow (b : σ) : ((Authority.silenced ref.resolve).run b).2 = b :=
      h (.silenced ref.resolve) b
    change ((Authority.silenced ref.resolve).run
      (Authority.apply _ ((Authority.status ref.resolve).run a).2)).2 = _
    rw [hnow, hstatus]
  | inhibit ref inhibitors =>
    have hstatus : ((Authority.status ref.resolve).run a).2 = a := h (.status ref.resolve) a
    have hnow (b : σ) : ((Authority.inhibited ref.resolve).run b).2 = b :=
      h (.inhibited ref.resolve) b
    change ((Authority.inhibited ref.resolve).run
      (Authority.apply _ ((Authority.status ref.resolve).run a).2)).2 = _
    rw [hnow, hstatus]
  | delete ref =>
    exact congrArg (Authority.apply (.delete ref)) (h (.status ref.resolve) a)
  | mute | unmute => rfl

/-- What is recorded of an operation is recorded of its alert. -/
lemma alert_of_decide {op : Operation} {a : σ} {e : Entry} (h : e ∈ ((decide op).run a).1) :
    op.alert? = some e.alert := by
  cases op with
  | silence ref | inhibit ref | delete ref =>
    obtain ⟨t, -, rfl⟩ := Option.map_eq_some_iff.mp h
    rfl
  | mute | unmute => cases h

omit [Authority σ] in
/-- What leaves no mark on its own leaves none one after the other. -/
lemma mapM_snd {α β : Type} {f : α → StateM σ β} (hf : ∀ x a, ((f x).run a).2 = a) (xs : List α)
    (a : σ) : ((xs.mapM f).run a).2 = a := by
  induction xs generalizing a with
  | nil => rfl
  | cons x xs ih =>
    rw [List.mapM_cons]
    change ((xs.mapM f).run ((f x).run a).2).2 = a
    rw [ih, hf]

lemma gauges_snd (h : Authority.Unmarked σ) (a : σ) : ((gauges (σ := σ)).run a).2 = a :=
  mapM_snd (fun s a => h (.count [s]) a) gaugedStates a

end

variable {σ τ : Type} [Authority σ] [Sink τ]

/-! ### What callers see -/

lemma apply_snd (h : Authority.Unmarked σ) (m : Moment) (op : Operation) (t : Trail σ τ) :
    (t.apply m op).state.authority = Authority.apply op t.authority := by
  rw [apply_authority_eq, decide_snd h]

/-- A call gives the answer that it gives without the trail. -/
lemma perform_answer (m : Moment) (c : Call) (t : Trail σ τ) :
    (t.perform m c).result.answer? = ((Authority.perform c).run t.authority).1 := by
  cases c <;> rfl

/-- A call leaves the authority as it leaves it without the trail. -/
lemma perform_snd (h : Authority.Unmarked σ) (m : Moment) (c : Call) (t : Trail σ τ) :
    (t.perform m c).state.authority = ((Authority.perform c).run t.authority).2 := by
  cases c with
  | change op => exact apply_snd h m op t
  | ask q => rfl
  | refresh =>
    change t.refresh.state.authority = t.authority
    unfold refresh
    split
    · exact gauges_snd h t.authority
    · rfl
  | flush | close => rfl

/-- A run of a trail is a run of the authority on its own. -/
lemma run_alone (h : Authority.Unmarked σ) (calls : List (Moment × Call)) (t : Trail σ τ) :
    ((run calls t).result.map Reply.answer?, (after calls t).authority)
      = (Authority.run (calls.map (·.2))).run t.authority := by
  induction calls generalizing t with
  | nil => rfl
  | cons p calls ih =>
    obtain ⟨m, c⟩ := p
    have hrest := ih (t.perform m c).state
    rw [perform_snd h] at hrest
    rw [List.map_cons, Authority.run_cons, ← hrest, ← perform_answer m]
    rfl

/-! ### What the sink is handed -/

/-- The trail with its sink overheard from now on. -/
def overhear (t : Trail σ τ) : Trail σ (Overheard τ) where
  authority := t.authority
  sink := { sink := t.sink }
  metered := t.metered

/-- The entries that a run hands to its sink. -/
def handedIn (calls : List (Moment × Call)) (t : Trail σ τ) : List Entry :=
  (after calls t.overhear).sink.heard.map (·.2)

variable {τ' : Type} [Sink τ']

/-- Trails over the same authority that are called alike hand over the same, whatever their sinks
and their metrics. -/
lemma heard_congr (h : Authority.Unmarked σ) {calls calls' : List (Moment × Call)}
    (hcalls : calls.map (·.2) = calls'.map (·.2)) {t : Trail σ (Overheard τ)}
    {t' : Trail σ (Overheard τ')} (ha : t.authority = t'.authority)
    (hheard : t.sink.heard.map (·.2) = t'.sink.heard.map (·.2)) :
    (after calls t).sink.heard.map (·.2) = (after calls' t').sink.heard.map (·.2) := by
  induction calls generalizing calls' t t' with
  | nil =>
    obtain rfl : calls' = [] := List.map_eq_nil_iff.mp hcalls.symm
    exact hheard
  | cons p calls ih =>
    obtain ⟨⟨m', c'⟩, rest, rfl, hc, hrest⟩ := List.map_eq_cons_iff.mp hcalls.symm
    obtain ⟨m, c⟩ := p
    obtain rfl : c' = c := hc
    refine ih hrest.symm ?_ ?_
    · rw [perform_snd h, perform_snd h, ha]
    · rw [perform_heard_eq, perform_heard_eq, List.map_append, List.map_append, hheard, ha]
      simp

/-- **A trail is transparent.**  Over an authority that questions leave unmarked, with any sink and
metered or not, every question in a run is answered as the authority on its own would answer it
after the same calls, and the authority ends up the same. A call hands the sink at most one entry,
and only an operation on an alert hands one over, for its alert. All entries that are handed over in
a run are the same with any other sink, metered or not, at any other moments. -/
theorem transparent (h : Authority.Unmarked σ) (calls : List (Moment × Call)) (t : Trail σ τ) :
    let alone := (Authority.run (calls.map (·.2))).run t.authority
    (run calls t).result.map Reply.answer? = alone.1 ∧
      (after calls t).authority = alone.2 ∧
      (∀ (m : Moment) (c : Call) (s : Trail σ (Overheard τ)), ∃ entry : Option Entry,
        (s.perform m c).state.sink.heard
            = s.sink.heard ++ (entry.map fun e => (m, e)).toList ∧
          ∀ e ∈ entry, ∃ op, c = .change op ∧ op.alert? = some e.alert) ∧
      ∀ {τ' : Type} [Sink τ'] (calls' : List (Moment × Call)) (t' : Trail σ τ'),
        calls'.map (·.2) = calls.map (·.2) → t'.authority = t.authority →
          handedIn calls' t' = handedIn calls t := by
  intro alone
  have halone := run_alone h calls t
  refine ⟨congrArg Prod.fst halone, congrArg Prod.snd halone, ?_, ?_⟩
  · intro m c s
    refine ⟨entryOf c s.authority, ?_, ?_⟩
    · rw [perform_heard_eq]
      cases entryOf c s.authority <;> rfl
    · intro e he
      obtain ⟨op, hop, he⟩ := Option.bind_eq_some_iff.mp he
      cases c with
      | change op' =>
        obtain rfl := Option.some.inj hop
        exact ⟨op', rfl, alert_of_decide he⟩
      | ask | refresh | flush | close => cases hop
  · intro τ' _ calls' t' hcalls ha
    exact heard_congr h hcalls ha rfl

/-- An alert is silenced, inhibited as well, and asked about twice, with the gauges refreshed in
between. -/
def askedTwice : List (Moment × Call) :=
  let ref : AlertRef := .fingerprint ⟨1⟩
  let calls : List Call :=
    [.change (.silence ref 1 ["s"] []), .ask (.status ⟨1⟩), .refresh,
      .change (.inhibit ref ["a"]), .ask (.inhibited ⟨1⟩), .flush]
  calls.map fun c => ({ id := .ofNat 1, now := 0 }, c)

/-- It does not show that a store behind the trail is closed, and the store is handed what a sink
that records everything is handed. -/
theorem transparent_closedStore :
    Authority.Unmarked MemoryAuthority ∧
      let closed := inMemory { Store.onTables .empty 1 with isOpen := false } true
      let recording := inMemory ({} : RecordingSink) false
      (run askedTwice closed).result.map Reply.answer? =
          [none, some (.status ⟨.suppressed, ["s"], [], [], 1⟩), none, none,
            some (.effect ⟨["a"], true⟩), none] ∧
        handedIn askedTwice closed = handedIn askedTwice recording := by
  refine ⟨MemoryAuthority.unmarked, ?_, ?_⟩
  · exact (transparent MemoryAuthority.unmarked askedTwice _).1
  · obtain ⟨-, -, -, hsame⟩ := transparent MemoryAuthority.unmarked askedTwice
      (inMemory ({} : RecordingSink) false)
    exact hsame askedTwice _ rfl rfl

end Trail

end AlertLedger
