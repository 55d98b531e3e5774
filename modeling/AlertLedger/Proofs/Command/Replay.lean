/-
# Reports and gauges of a replay

A replay that is asked for on the command line tells twice how many alerts there are: in its report,
and in the gauges of the metrics. Between the two the sink is closed and more is emitted. They agree
all the same (`Run.gauges_of_replay_ok`): the report and the gauges come from the same authority,
which is the one that the operations of the stream make, and what a sink reports moves no gauge.

Together with what is known of tracked alerts this says what the numbers mean
(`Run.alerts_counted`).
-/
import AlertLedger.Command.Run
import AlertLedger.Proofs.Authority.Tracking
import AlertLedger.Proofs.Sink.Reports
import AlertLedger.Proofs.Store.Account
import AlertLedger.Proofs.Trail.Run
import AlertLedger.Replay

namespace AlertLedger

namespace Run

/-! ### Parts of a run -/

section

variable {α β : Type} {p p' : Progress}

/-- A run that succeeds succeeds in each of its parts. -/
lemma bind_ok {x : Run α} {f : α → Run β} {b : β} (h : (x >>= f).run.run p = (.ok b, p')) :
    ∃ a q, x.run.run p = (.ok a, q) ∧ (f a).run.run q = (.ok b, p') := by
  rw [ExceptT.run_bind, StateT.run_bind] at h
  rcases hx : x.run.run p with ⟨r, q⟩
  rw [hx] at h
  cases r with
  | error complaint => cases h
  | ok a => exact ⟨a, q, rfl, h⟩

lemma orComplain_ok {ε : Type} {message : String} {cause : ε → Complaint} {r : Except ε α}
    {a : α} (h : (orComplain message cause r).run.run p = (.ok a, p')) : r = .ok a ∧ p' = p := by
  cases r with
  | ok => cases h; exact ⟨rfl, rfl⟩
  | error => cases h

lemma settle_ok {step : Step ReplayTrail α} {a : α}
    (h : (settle step).run.run p = (.ok a, p')) :
    a = step.result ∧ p'.emitted = p.emitted ++ step.emitted := by
  cases h
  exact ⟨rfl, rfl⟩

/-- To read operations changes nothing. -/
lemma readOperations_ok {path : String} {ops : List Operation}
    (h : (readOperations path).run.run p = (.ok ops, p')) : p' = p := by
  obtain ⟨_, _, hget, hlook⟩ := bind_ok h
  cases hget
  obtain ⟨_, _, hnode, hopened⟩ := bind_ok hlook
  obtain ⟨_, _, hbytes, hread⟩ := bind_ok hopened
  rw [(orComplain_ok hread).2, (orComplain_ok hbytes).2, (orComplain_ok hnode).2]

end

/-- A replay that succeeds has read the stream, applied its operations, flushed the sink, brought
the gauges up to date and closed the sink, in this order, and it reports on the authority that is
there in the end. -/
theorem replay_ok {clock : Nat → Moment} {c : LedgerConfig} {storePath : Option String}
    {path : String} {p p' : Progress} {report : ReplayReport}
    (h : (replay clock c storePath path).run.run p = (.ok report, p')) :
    ∃ ops sink q, (readOperations path).run.run p = (.ok ops, p) ∧
      (chooseSink openStore (clock 0).disk c storePath).run.run p = (.ok sink, q) ∧
      let replayed := Trail.replay clock ops
        { authority := MemoryAuthority.empty, sink, metered := true }
      let refreshed := replayed.state.refresh
      let closed := refreshed.state.close (clock (ops.length + 1))
      replayed.result = .ok report.summary ∧ closed.result = .ok () ∧
        report.alerts = alertCounts closed.state.authority ∧
        p'.emitted = q.emitted ++ replayed.emitted ++ refreshed.emitted ++ closed.emitted
          ++ [.log (.replayComplete report.summary)] := by
  -- Each part succeeds, so the run is taken apart from its start.
  obtain ⟨ops, _, hops, hchosen⟩ := bind_ok h
  obtain rfl := readOperations_ok hops
  obtain ⟨sink, q, hsink, happlied⟩ := bind_ok hchosen
  refine ⟨ops, sink, q, hops, hsink, ?_⟩
  obtain ⟨_, q₁, hreplayed, hflushed⟩ := bind_ok happlied
  obtain ⟨rfl, hq₁⟩ := settle_ok hreplayed
  obtain ⟨summary, _, hsummary, hrefresh⟩ := bind_ok hflushed
  obtain ⟨hresult, rfl⟩ := orComplain_ok hsummary
  obtain ⟨_, q₂, hrefreshed, hclose⟩ := bind_ok hrefresh
  obtain ⟨-, hq₂⟩ := settle_ok hrefreshed
  obtain ⟨_, q₃, hclosed, hend⟩ := bind_ok hclose
  obtain ⟨rfl, hq₃⟩ := settle_ok hclosed
  obtain ⟨_, _, hleft, hreport⟩ := bind_ok hend
  obtain ⟨hresult', rfl⟩ := orComplain_ok hleft
  cases hreport
  refine ⟨hresult, hresult', rfl, ?_⟩
  rw [← hq₁, ← hq₂, ← hq₃]

/-- The entries of the report on alerts, in their order. -/
lemma toList_alertCounts (a : MemoryAuthority) :
    (alertCounts a).toList = [("active", a.countIn [.active]), ("deleted", a.countIn [.deleted]),
      ("suppressed", a.countIn [.suppressed])] := by
  have hstates : AlertState.all.filter (· != .unprocessed) = [.active, .suppressed, .deleted] := by
    decide
  have hsuppressed : compare "suppressed" "active" = .gt := by decide
  have hdeleted : compare "deleted" "active" = .gt := by decide
  have hdeleted' : compare "deleted" "suppressed" = .lt := by decide
  rw [alertCounts, hstates]
  simp [SortedMap.ofList, SortedMap.toList, SortedMap.insert, SortedMap.insertEntry,
    SortedMap.empty, AlertState.name, hsuppressed, hdeleted, hdeleted']

end Run

/-! ### Gauges -/

namespace MetricsRegistry

/-- What a gauge shows of a number. It is signed and shows no more than the largest signed one. -/
def shown (n : UInt64) : UInt64 := if n ≤ gaugeMax then n else gaugeMax

lemma toNat_shown {n : Nat} (h : n ≤ gaugeMax.toNat) : (shown (.ofNat n)).toNat = n := by
  have hn : (UInt64.ofNat n).toNat = n :=
    UInt64.toNat_ofNat_of_lt' (h.trans_lt gaugeMax.toNat_lt)
  rw [shown, if_pos (UInt64.le_iff_toNat_le.mpr (hn.trans_le h)), hn]

/-- Reports on rows move no gauge. -/
lemma marked_absorb (r : MetricsRegistry) {emitted : List Effect} (h : RowsOnly emitted) :
    (r.absorb emitted).marked = r.marked := by
  rw [absorb]
  rw [RowsOnly] at h
  generalize emitted.filterMap Effect.metric? = us at h ⊢
  induction us generalizing r with
  | nil => rfl
  | cons u us ih =>
    obtain ⟨hu, hus⟩ := List.forall_mem_cons.mp h
    rw [List.foldl_cons, ih _ hus]
    cases u with
    | marked => cases hu
    | transition | dropped | flushed | flushTime => rfl

end MetricsRegistry

namespace Trail

variable {τ : Type}

lemma refresh_emitted {t : Trail MemoryAuthority τ} (h : t.metered) :
    t.refresh.emitted = gaugedStates.map fun state =>
      .metric (.marked state.name (.ofNat (t.authority.countIn [state]))) := by
  rw [refresh, if_pos h]
  rfl

/-- The gauges show how many alerts are in each of their states. -/
lemma find?_marked_refresh (r : MetricsRegistry) {t : Trail MemoryAuthority τ} (h : t.metered)
    {state : AlertState} (hstate : state ∈ gaugedStates) :
    (r.absorb t.refresh.emitted).marked.find? state.name
      = some (MetricsRegistry.shown (.ofNat (t.authority.countIn [state]))) := by
  rw [refresh_emitted h]
  change SortedMap.find? (((r.marked.insert "active" _).insert "suppressed" _).insert
    "unprocessed" _) _ = _
  simp only [SortedMap.find?_insert]
  simp only [gaugedStates, List.mem_cons, List.not_mem_nil, or_false] at hstate
  rcases hstate with rfl | rfl | rfl <;> rfl

/-- What a replay leaves of the trail itself. -/
lemma applyAll_state [Sink τ] (clock : Nat → Moment) (i : Nat) (summary : ReplaySummary)
    (ops : List Operation) (t : Trail MemoryAuthority τ) :
    let applied := (applyAll clock i summary ops t).state
    applied.authority = ops.foldl (fun a op => Authority.apply op a) t.authority ∧
      applied.metered = t.metered := by
  induction ops generalizing i summary t with
  | nil => exact ⟨rfl, rfl⟩
  | cons op ops ih =>
    obtain ⟨hauthority, hmetered⟩ := ih (i + 1) (summary.add op) (t.apply (clock i) op).state
    rw [apply_authority] at hauthority
    rw [apply_metered] at hmetered
    exact ⟨hauthority, hmetered⟩

end Trail

/-! ### Reports and gauges -/

namespace Run

open MemoryAuthority (afterAll)

/-- After a replay that succeeds the report and the gauges speak of the same authority. -/
theorem gauges_of_replay_ok {clock : Nat → Moment} {c : LedgerConfig} {storePath : Option String}
    {path : String} {p p' : Progress} {report : ReplayReport}
    (h : (replay clock c storePath path).run.run p = (.ok report, p')) :
    ∃ ops, (readOperations path).run.run p = (.ok ops, p) ∧
      report.alerts = alertCounts (afterAll ops) ∧
      ∀ state ∈ Trail.gaugedStates,
        (MetricsRegistry.empty.absorb p'.emitted).marked.find? state.name
          = some (MetricsRegistry.shown (.ofNat ((afterAll ops).countIn [state]))) := by
  obtain ⟨ops, sink, q, hops, -, -, -, hreport, hemitted⟩ := replay_ok h
  set replayed :=
    Trail.replay clock ops { authority := MemoryAuthority.empty, sink, metered := true }
  obtain ⟨hauthority, hmetered⟩ :
      replayed.state.authority = afterAll ops ∧ replayed.state.metered :=
    Trail.applyAll_state clock 0 {} ops _
  have hrefreshed : replayed.state.refresh.state.authority = afterAll ops := by
    rw [Trail.refresh_state, hauthority]
  -- What is emitted after the gauges are set comes from the sink and from the log.
  have hrest : RowsOnly ((replayed.state.refresh.state.close (clock (ops.length + 1))).emitted
      ++ [.log (.replayComplete report.summary)]) :=
    RowsOnly.append (ChosenSink.reportsRows _ .close _) .nil
  refine ⟨ops, hops, ?_, ?_⟩
  · rw [hreport]
    exact congrArg alertCounts hrefreshed
  · intro state hstate
    rw [hemitted, List.append_assoc, MetricsRegistry.absorb_append,
      MetricsRegistry.marked_absorb _ hrest, MetricsRegistry.absorb_append,
      Trail.find?_marked_refresh _ hmetered hstate, hauthority]

/-- **Statuses, counts, reports and gauges agree.**  Whatever the operations were, a tracked alert
is active if it has neither silences nor inhibitors, and suppressed otherwise; it is silenced if it has
silences, inhibited if it has inhibitors, and unprocessed if it is not tracked, and of unprocessed,
active and suppressed it is just one. The count for a list of states is the number of tracked alerts
whose state is on the list, or of all of them if the list is empty; and that is how many are active
or suppressed.

So after a replay on the command line that succeeds, whatever its sink, the report has the numbers
of active and of suppressed alerts, which make up the tracked ones, and zero for deleted ones. The
gauges show the same two numbers, as far as a signed word can, and zero for unprocessed ones. -/
theorem alerts_counted :
    (∀ (ops : List Operation) (alert : Fingerprint),
      let a := afterAll ops
      let status := a.statusOf alert
      let unprocessed := ((Authority.unprocessed alert).run a).1
      let active := ((Authority.active alert).run a).1
      let suppressed := status.state == .suppressed
      (a.Tracks alert → status.state =
          if status.silencedBy = [] ∧ status.inhibitedBy = [] then .active else .suppressed) ∧
        ((a.silencesOf alert).silenced ↔ status.silencedBy ≠ []) ∧
        ((a.inhibitorsOf alert).inEffect ↔ status.inhibitedBy ≠ []) ∧
        (unprocessed ↔ ¬a.Tracks alert) ∧ [unprocessed, active, suppressed].count true = 1) ∧
      (∀ ops : List Operation,
        let a := afterAll ops
        (∀ states, a.countIn states
          = (if states = [] then a.tracked else a.trackedIn states).ncard) ∧
        a.countIn [] = a.countIn [.active] + a.countIn [.suppressed]) ∧
      ∀ clock c storePath path p p' report,
        (replay clock c storePath path).run.run p = (.ok report, p') →
          ∃ ops, (readOperations path).run.run p = (.ok ops, p) ∧
            let a := afterAll ops
            let gauges := (MetricsRegistry.empty.absorb p'.emitted).marked
            report.alerts.toList = [("active", a.countIn [.active]), ("deleted", 0),
                ("suppressed", a.countIn [.suppressed])] ∧
              a.countIn [.active] + a.countIn [.suppressed] = a.tracked.ncard ∧
              gauges.find? "unprocessed" = some 0 ∧
              ∀ state ∈ [AlertState.active, .suppressed],
                let gauge := MetricsRegistry.shown (.ofNat (a.countIn [state]))
                gauges.find? state.name = some gauge ∧
                  (a.countIn [state] ≤ MetricsRegistry.gaugeMax.toNat →
                    (state.name, gauge.toNat) ∈ report.alerts.toList) := by
  refine ⟨?_, ?_, ?_⟩
  · intro ops alert a status unprocessed active suppressed
    obtain ⟨hstate, hsilenced, hinhibited, hunprocessed⟩ := MemoryAuthority.verdicts ops alert
    have hverdict : unprocessed ↔ ¬a.Tracks alert := by
      rw [← hunprocessed]
      exact beq_iff_eq
    refine ⟨hstate, hsilenced, hinhibited, hverdict, ?_⟩
    change [status.state == .unprocessed, status.state == .active, suppressed].count true = 1
    rcases MemoryAuthority.state_cases ops alert with h | h | h <;> simp [suppressed, status, a, h]
  · intro ops a
    refine ⟨?_, MemoryAuthority.countIn_nil_eq_add ops⟩
    intro states
    split
    case isTrue h => rw [h, MemoryAuthority.countIn_nil]
    case isFalse h => exact MemoryAuthority.countIn_eq a h
  · intro clock c storePath path p p' report h
    obtain ⟨ops, hops, hreport, hgauges⟩ := gauges_of_replay_ok h
    have hzero (state : AlertState) (ha : state ≠ .active) (hs : state ≠ .suppressed) :
        (afterAll ops).countIn [state] = 0 :=
      MemoryAuthority.countIn_eq_zero ops (List.cons_ne_nil _ _) (by simpa using ha.symm)
        (by simpa using hs.symm)
    have hentries := toList_alertCounts (afterAll ops)
    rw [← hreport, hzero .deleted (by decide) (by decide)] at hentries
    refine ⟨ops, hops, hentries, ?_, ?_, ?_⟩
    · rw [← MemoryAuthority.countIn_nil_eq_add, MemoryAuthority.countIn_nil]
    · have hgauge := hgauges .unprocessed (by decide)
      rw [hzero .unprocessed (by decide) (by decide)] at hgauge
      exact hgauge
    · intro state hstate gauge
      refine ⟨hgauges state (List.mem_of_mem_take (i := 2) hstate), ?_⟩
      intro hmax
      rw [MetricsRegistry.toNat_shown hmax, hentries]
      simp only [List.mem_cons, List.not_mem_nil, or_false] at hstate
      rcases hstate with rfl | rfl <;> simp [AlertState.name]

/-- A stream of one line, in which an alert is inhibited. -/
def oneInhibition : Files where
  nodes := SortedMap.empty.insert "ops" <| .plain <| Text.encode
    "\x7b\"op\":\"set_inhibited\",\"alert\":\"0000000000000001\",\"inhibited_by\":[\"a\"]\x7d\n"

/-- The stream is replayed without a ledger. -/
def replayOfOne : Except Complaint ReplayReport × Progress :=
  (replay (fun i => { id := .ofNat i, now := 0 }) { enabled := false } none "ops").run.run
    { files := oneInhibition }

/-- Report and gauge say that one alert is suppressed, and so it is. -/
theorem alerts_counted_oneInhibition :
    let a := afterAll [.inhibit (.fingerprint ⟨1⟩) ["a"]]
    (a.Tracks ⟨1⟩ ∧ (a.statusOf ⟨1⟩).state = .suppressed) ∧
      ∃ report gauge, replayOfOne.1 = .ok report ∧
        report.alerts.toList = [("active", 0), ("deleted", 0), ("suppressed", 1)] ∧
        (MetricsRegistry.empty.absorb replayOfOne.2.emitted).marked.find? "suppressed"
          = some gauge ∧
        ("suppressed", gauge.toNat) ∈ report.alerts.toList := by
  intro a
  have hlist : replayOfOne.1.toOption.map (·.alerts.toList)
      = some [("active", 0), ("deleted", 0), ("suppressed", 1)] := by
    decide +kernel
  obtain ⟨hstatus, -, hreplay⟩ := alerts_counted
  refine ⟨⟨rfl, (hstatus [.inhibit (.fingerprint ⟨1⟩) ["a"]] ⟨1⟩).1 rfl⟩, ?_⟩
  obtain ⟨report, hresult, hentries⟩ : ∃ report, replayOfOne.1 = .ok report ∧
      report.alerts.toList = [("active", 0), ("deleted", 0), ("suppressed", 1)] := by
    cases hresult : replayOfOne.1 with
    | error complaint =>
      rw [hresult] at hlist
      cases hlist
    | ok report =>
      rw [hresult] at hlist
      exact ⟨report, rfl, Option.some.inj hlist⟩
  obtain ⟨ops, -, hcounts, -, -, hgauges⟩ :=
    hreplay _ _ _ _ _ _ report (Prod.ext_iff.mpr ⟨hresult, rfl⟩)
  obtain ⟨hgauge, hentry⟩ := hgauges .suppressed (by decide)
  obtain ⟨-, hone⟩ :
      (afterAll ops).countIn [.active] = 0 ∧ (afterAll ops).countIn [.suppressed] = 1 := by
    rw [hentries] at hcounts
    simpa [eq_comm] using hcounts
  exact ⟨report, _, hresult, hentries, hgauge, hentry (by rw [hone]; decide)⟩

end Run

end AlertLedger
