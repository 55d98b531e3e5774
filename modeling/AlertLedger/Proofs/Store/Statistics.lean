/-
# Statistics of a store

A row has a reason just if its alert is suppressed, and it names an inhibitor only if the reason is
an inhibition (`StateEvent.WellFormed`): there are two ways to make a row, and both see to that. A
row of an inhibition without inhibitors can be made, but a trail over an authority in memory makes
none, since it records an inhibition only where there are inhibitors (`Trail.namesInhibitor_rows`).

The statistics of a store are counts of what is read from it. So they agree with its answers, and
for well-formed rows the counts by reason sum up to the count of the suppressed alerts. The main
result is `Store.statistics_agree`.
-/
import AlertLedger.Proofs.Stats
import AlertLedger.Proofs.Store.Sessions

namespace AlertLedger

/-! ### The form of rows -/

namespace StateEvent

/-- A row has a reason just if the alert is suppressed, and names an inhibitor only if the reason is
an inhibition. -/
structure WellFormed (e : StateEvent) : Prop where
  suppressed : e.suppressedReason.isSome ↔ e.state = .suppressed
  inhibited : e.suppressedBy.isSome → e.suppressedReason = some .inhibited

/-- A row names an inhibitor just if the reason is an inhibition. -/
def NamesInhibitor (e : StateEvent) : Prop :=
  e.suppressedReason = some .inhibited ↔ e.suppressedBy.isSome

lemma wellFormed_transition (m : Moment) (alert : Fingerprint) (state : AlertState) :
    (transition m alert state).WellFormed where
  suppressed := by
    cases state <;> simp [transition]
  inhibited := by
    intro h
    cases h

lemma wellFormed_inhibited (m : Moment) (alert : Fingerprint) (inhibitors : List String) :
    (inhibited m alert inhibitors).WellFormed where
  suppressed := iff_of_true rfl rfl
  inhibited _ := rfl

end StateEvent

lemma Entry.wellFormed_event (e : Entry) (m : Moment) : (e.event m).WellFormed := by
  obtain ⟨alert, t⟩ := e
  cases t with
  | enter state => exact StateEvent.wellFormed_transition m alert state
  | inhibited inhibitors => exact StateEvent.wellFormed_inhibited m alert inhibitors

/-- A transition that is called for makes a row that names an inhibitor if it must. -/
lemma Transition.CalledFor.namesInhibitor {known : Option AlertStatus} {t : Transition}
    (h : t.CalledFor known) (alert : Fingerprint) (m : Moment) :
    (Entry.event ⟨alert, t⟩ m).NamesInhibitor := by
  cases t with
  | enter state => cases state <;> simp [StateEvent.NamesInhibitor, Entry.event,
      StateEvent.transition]
  | inhibited inhibitors =>
    -- An inhibition is called for only by inhibitors.
    obtain ⟨by', rest, rfl⟩ := List.exists_cons_of_ne_nil h.2
    exact iff_of_true rfl rfl

/-! ### The rows of sessions -/

namespace Trail

/-- **What a trail records of an inhibition names an inhibitor.** This is so whatever the authority
in memory knew before, whatever the sink is, and whatever is called. -/
theorem namesInhibitor_rows {τ : Type} [Sink τ] (known : List Operation) (sink : τ) (metered : Bool)
    (calls : List (Moment × Call)) :
    ∀ e ∈ rowsOf (after calls (knowing known ({ sink } : Overheard τ) metered)).sink.heard,
      e.NamesInhibitor := by
  refine (run_induction (t := knowing known ({ sink } : Overheard τ) metered)
    (P := fun a heard => (∀ alert, ∀ s ∈ a.alerts.find? alert, s.Settled)
      ∧ ∀ e ∈ rowsOf heard, e.NamesInhibitor) ?_ calls ?_).2
  · rintro a heard m op ⟨hsettled, hheard⟩
    refine ⟨?_, ?_⟩
    · intro alert
      rw [MemoryAuthority.find?_apply]
      split_ifs
      · exact op.settled_revise (hsettled alert)
      · exact hsettled alert
    · rw [rowsOf, List.map_append]
      refine List.forall_mem_append.mpr ⟨hheard, ?_⟩
      intro row hrow
      obtain ⟨p, hp, rfl⟩ := List.mem_map.mp hrow
      obtain ⟨e, he, rfl⟩ := List.mem_map.mp hp
      obtain ⟨-, ht⟩ := Operation.entry_eq_some (Option.mem_toList.mp he)
      exact (op.calledFor_transition (hsettled e.alert) ht).namesInhibitor e.alert m
  · exact ⟨MemoryAuthority.settled_afterAll known, List.forall_mem_nil _⟩

end Trail

namespace Session

lemma wellFormed_rows (s : Session) (t : Tables) : ∀ e ∈ s.rows t, e.WellFormed := by
  obtain ⟨calls, -, hrows⟩ := s.exists_run t
  rw [hrows]
  intro row hrow
  obtain ⟨⟨m, c⟩, -, hrow⟩ := List.mem_flatMap.mp hrow
  cases c with
  | append e =>
    rw [List.mem_singleton.mp hrow]
    exact e.wellFormed_event m
  | flush | close => cases hrow

lemma namesInhibitor_rows {s : Session} (h : s.isTrailed) (t : Tables) :
    ∀ e ∈ s.rows t, e.NamesInhibitor := by
  cases s with
  | called => cases h
  | trailed known capacity metered calls => exact Trail.namesInhibitor_rows known _ metered calls

end Session

/-! ### Questions by state and by reason -/

namespace EventQuery

lemma select_state (state : AlertState) (events : List StateEvent) :
    select { state := some state } events = events.filter (·.state == state) := by
  have haccepts : accepts { state := some state } = fun e => e.state == state := by
    funext e
    simp [accepts]
  rw [select, haccepts]
  rfl

lemma select_reason (reason : SuppressionReason) (events : List StateEvent) :
    select { reason := some reason } events
      = events.filter (·.suppressedReason == some reason) := by
  have haccepts : accepts { reason := some reason }
      = fun e => e.suppressedReason == some reason := by
    funext e
    simp [accepts]
  rw [select, haccepts]
  rfl

end EventQuery

/-! ### Statistics -/

namespace Store

/-- **Statistics agree with the store.** Both ways to make a row make well-formed rows, and a trail
over an authority in memory makes rows that name an inhibitor just if the reason is an inhibition.

Whatever sessions a store has had, while it is open the events that it gives when it is asked for
all are well formed, and they name their inhibitors if all was done through such trails. Of their
statistics the total is the number of rows. Under each state there is the number of events that the
store gives for this state, or nothing if it gives none, and these numbers sum up to the total.
Under each reason there is the number of events that it gives for this reason, or nothing, and these
numbers sum up to the one under `suppressed`. -/
theorem statistics_agree :
    ((∀ m alert state, (StateEvent.transition m alert state).WellFormed)
      ∧ ∀ m alert inhibitors, (StateEvent.inhibited m alert inhibitors).WellFormed)
    ∧ (∀ {τ : Type} [Sink τ] (known : List Operation) (sink : τ) metered calls,
      ∀ e ∈ rowsOf (Trail.after calls (.knowing known ({ sink } : Overheard τ) metered)).sink.heard,
        e.suppressedReason = some .inhibited ↔ e.suppressedBy.isSome)
    ∧ ∀ (sessions : List Session) (last : Session) (urnCase : UrnCase),
      let s : Store := { last.store (Session.tables sessions) with urnCase }
      s.isOpen → ∃ events, s.query {} = .ok events
        ∧ (∀ e ∈ events, e.WellFormed)
        ∧ ((∀ session ∈ last :: sessions, session.isTrailed) → ∀ e ∈ events, e.NamesInhibitor)
        ∧ let stats := Stats.ofEvents events
          s.eventCount = .ok stats.total
          ∧ (∀ state, ∃ found, s.query { state := some state } = .ok found
            ∧ stats.byState.find? state.name = if found = [] then none else some found.length)
          ∧ stats.byState.values.sum = stats.total
          ∧ (∀ reason, ∃ found, s.query { reason := some reason } = .ok found
            ∧ stats.byReason.find? reason.name = if found = [] then none else some found.length)
          ∧ stats.byReason.values.sum
            = (stats.byState.find? AlertState.suppressed.name).getD 0 := by
  refine ⟨⟨StateEvent.wellFormed_transition, StateEvent.wellFormed_inhibited⟩,
    Trail.namesInhibitor_rows, ?_⟩
  intro sessions last urnCase s ho
  have hkeeps {P : StateEvent → Prop} (h : ∀ session ∈ last :: sessions, ∀ t,
      ∀ e ∈ session.rows t, P e) : s.tables.Keeps P := by
    obtain ⟨hlast, hsessions⟩ := List.forall_mem_cons.mp h
    exact (Session.keeps_store (Session.keeps_tables hsessions) (hlast _)).tables
  have hwritten := hkeeps fun session _ => session.wellFormed_rows
  have hquery (q : EventQuery) : s.query q = .ok (q.select (s.tables.scan urnCase)) := by
    rw [query, ask, if_pos ho, hwritten.indexed.query_eq_select_scan]
  have hcounts := Stats.counts_ofEvents (s.tables.scan urnCase)
  have hsuppressed := Stats.count_stateNames (s.tables.scan urnCase) .suppressed
  refine ⟨s.tables.scan urnCase, ?_, ?_, ?_, ?_, ?_, ?_, ?_, ?_⟩
  · rw [hquery, EventQuery.select_default]
  · intro e he
    exact hwritten.of_mem_scan he
  · intro htrailed e he
    have hnames := hkeeps fun session hsession =>
      Session.namesInhibitor_rows (htrailed session hsession)
    exact hnames.of_mem_scan he
  · rw [eventCount, ask, if_pos ho, hwritten.indexed.size_eq urnCase, hcounts.total]
  · intro state
    refine ⟨_, hquery _, ?_⟩
    rw [EventQuery.select_state]
    exact hcounts.byState.find?_eq (Stats.count_stateNames _ state)
  · rw [hcounts.byState.sum, hcounts.total, Stats.stateNames, List.length_map]
  · intro reason
    refine ⟨_, hquery _, ?_⟩
    rw [EventQuery.select_reason]
    exact hcounts.byReason.find?_eq (Stats.count_reasonNames _ reason)
  · -- Well-formed events have a reason just if they are of suppressed alerts.
    rw [hcounts.byReason.sum, hcounts.byState.getD, hsuppressed, Stats.length_reasonNames]
    refine congrArg List.length (List.filter_congr ?_)
    intro e he
    have hform := (hwritten.of_mem_scan he).suppressed
    rw [Bool.eq_iff_iff, hform, beq_iff_eq]

/-- The moment with a number. -/
def ticking (n : Nat) : Moment := { id := .ofNat n, now := UInt64.ofNat n }

/-- Two rows are written and a third one waits when the session ends; then a row is written that
names no inhibitor. -/
def earlierSessions : List Session :=
  [.trailed [.silence (.fingerprint ⟨2⟩) 1 ["s"] []] 2 true
      [(ticking 1, .change (.inhibit (.fingerprint ⟨1⟩) ["a", "b"])),
        (ticking 2, .ask (.status ⟨1⟩)),
        (ticking 3, .change (.silence (.fingerprint ⟨2⟩) 2 [] [])),
        (ticking 4, .change (.delete (.fingerprint ⟨1⟩)))],
    .called 1 [(ticking 5, .eventCount), (ticking 6, .sink (.append ⟨⟨3⟩, .inhibited []⟩))]]

/-- The rows that are written. -/
def earlierRows : List StateEvent :=
  [.inhibited (ticking 1) ⟨1⟩ ["a", "b"], .transition (ticking 3) ⟨2⟩ .active,
    .inhibited (ticking 6) ⟨3⟩ []]

/-- Of the three rows two are of suppressed alerts. -/
theorem statistics_agree_earlierSessions :
    let s : Store :=
      { (Session.called 8 []).store (Session.tables earlierSessions) with urnCase := .lower }
    let stats := Stats.ofEvents earlierRows
    s.isOpen ∧ s.query {} = .ok earlierRows ∧ s.eventCount = .ok stats.total
      ∧ stats.byState.find? "suppressed" = some 2
      ∧ stats.byReason.values.sum = 2 := by
  intro s stats
  have hholds : s.tables.Holds earlierRows :=
    Tables.Holds.empty.putAll earlierRows (by decide)
  obtain ⟨-, -, hagree⟩ := statistics_agree
  obtain ⟨events, hevents, -, -, htotal, hstate, -, -, hreasons⟩ :=
    hagree earlierSessions (.called 8 []) .lower rfl
  obtain rfl : events = earlierRows := by
    have hscan : s.query {} = .ok (({} : EventQuery).select earlierRows) :=
      congrArg (fun l => Except.ok (({} : EventQuery).select l)) (hholds.scan_eq .lower)
    exact Except.ok.inj (hevents.symm.trans hscan)
  obtain ⟨found, hfound, hsuppressed⟩ := hstate .suppressed
  obtain rfl : found = [.inhibited (ticking 1) ⟨1⟩ ["a", "b"], .inhibited (ticking 6) ⟨3⟩ []] := by
    have hscan : s.query { state := some .suppressed }
        = .ok (EventQuery.select { state := some .suppressed } earlierRows) :=
      congrArg (fun l => Except.ok (EventQuery.select _ l)) (hholds.scan_eq .lower)
    exact Except.ok.inj (hfound.symm.trans hscan)
  refine ⟨rfl, hevents, htotal, hsuppressed, ?_⟩
  rw [hreasons, hsuppressed]
  rfl

end Store

end AlertLedger
