/-
# Alerts and groups on their own

Operations on different alerts, or on different groups, have nothing to do with one another, though
all of them go through one trail to one authority and one sink. What is known and recorded of an
alert after a stream of operations follows from the operations on that alert alone, and the mutes of
a group follow from the operations on that group. Both come from one statement on runs
(`Trail.view_after`): of a trail, what certain operations change by what it was before, and all
others leave alone, is a fold over these operations.

So streams that have the same operations on each subject, in the same order there, cannot be told
apart in the end, however the operations on different subjects are mixed (`Operation.Rearranged`).
The main result is `Trail.independent`.
-/
import AlertLedger.Proofs.Trail.Replay
import AlertLedger.Sink.Recording

namespace AlertLedger

/-! ### Rearranged streams -/

/-- Lists that have the same elements under every key, in whatever order, are rearrangements of one
another. -/
lemma perm_of_filter_perm {α κ : Type _} [DecidableEq α] [DecidableEq κ] (key : α → κ)
    {l l' : List α}
    (h : ∀ k, (l.filter fun a => key a = k).Perm (l'.filter fun a => key a = k)) : l.Perm l' := by
  rw [List.perm_iff_count]
  intro a
  have hcount := (h (key a)).count_eq a
  rwa [List.count_filter (by simp), List.count_filter (by simp)] at hcount

namespace Operation

lemma on_on (s : Subject) (ops : List Operation) : on s (on s ops) = on s ops := by
  simp [on, List.filter_filter]

/-- Streams with the same operations on each subject, in the same order there. In which order
operations on different subjects come is left open. -/
def Rearranged (ops ops' : List Operation) : Prop := ∀ s, on s ops = on s ops'

/-- Operations on different subjects may change places. -/
lemma Rearranged.swap {op op' : Operation} (h : op.subject ≠ op'.subject) (ops : List Operation) :
    Rearranged (op :: op' :: ops) (op' :: op :: ops) := by
  intro s
  by_cases hs : op.subject = s
  · have hs' : op'.subject ≠ s := fun hs' => h (hs.trans hs'.symm)
    simp [on, hs, hs']
  · simp [on, List.filter_cons, hs]

lemma Rearranged.cons {ops ops' : List Operation} (op : Operation) (h : Rearranged ops ops') :
    Rearranged (op :: ops) (op :: ops') := by
  intro s
  have hs := h s
  rw [on, on] at hs
  rw [on, on, List.filter_cons, List.filter_cons, hs]

lemma Rearranged.trans {ops ops' ops'' : List Operation} (h : Rearranged ops ops')
    (h' : Rearranged ops' ops'') : Rearranged ops ops'' :=
  fun s => (h s).trans (h' s)

/-- What is known of an alert, and what was recorded of it, after one more operation on it. -/
def follow (alert : Fingerprint) (view : Option AlertStatus × List Entry) (op : Operation) :
    Option AlertStatus × List Entry :=
  (op.revise view.1, view.2 ++ ((op.transition view.1).map fun t => ⟨alert, t⟩).toList)

end Operation

/-! ### Counted transitions -/

/-- The state for which a report counts an entry that was handed over. -/
def MetricsUpdate.transition? : MetricsUpdate → Option String
  | .transition state => some state
  | .marked .. | .dropped .. | .flushed _ | .flushTime _ => none

/-- The states for which entries were counted, one after the other. -/
def countedStates (emitted : List Effect) : List String :=
  (emitted.filterMap Effect.metric?).filterMap MetricsUpdate.transition?

lemma countedStates_append (xs ys : List Effect) :
    countedStates (xs ++ ys) = countedStates xs ++ countedStates ys := by
  rw [countedStates, List.filterMap_append, List.filterMap_append, countedStates, countedStates]

namespace Trail

/-! ### One operation -/

section

variable (m : Moment) (op : Operation) (t : Trail MemoryAuthority RecordingSink)

/-- A sink that records keeps the entry of an operation. -/
lemma apply_calls :
    (t.apply m op).state.sink.calls = t.sink.calls ++ (op.entry t.authority).toList := by
  rw [apply_eq]
  cases op.entry t.authority with
  | none => exact (List.append_nil _).symm
  | some e => rfl

/-- The entry of an operation is counted for its state. -/
lemma countedStates_apply :
    countedStates (t.apply m op).emitted =
      if t.metered then (op.entry t.authority).toList.map (·.transition.state.name) else [] := by
  rw [apply_eq]
  cases op.entry t.authority <;> cases t.metered <;> rfl

/-- What is known and recorded of an alert. -/
def viewOf (alert : Fingerprint) : Option AlertStatus × List Entry :=
  (t.authority.alerts.find? alert, t.sink.callsFor alert)

/-- What is known and recorded of an alert changes with the operations on it only, and by nothing
but what was known of it. -/
lemma viewOf_apply (alert : Fingerprint) :
    (t.apply m op).state.viewOf alert =
      if op.subject = .alert alert then Operation.follow alert (t.viewOf alert) op
      else t.viewOf alert := by
  rw [viewOf, apply_authority, MemoryAuthority.find?_apply, RecordingSink.callsFor, apply_calls,
    List.filter_append]
  by_cases h : op.alert? = some alert
  · rw [if_pos h, if_pos (Operation.subject_eq_alert_iff.mpr h), Operation.entry_of_alert h]
    cases ht : op.transition (t.authority.alerts.find? alert) <;>
      simp [Operation.follow, viewOf, RecordingSink.callsFor, ht]
  · rw [if_neg h, if_neg (mt Operation.subject_eq_alert_iff.mp h)]
    have hother : (op.entry t.authority).toList.filter (·.alert == alert) = [] := by
      rw [List.filter_eq_nil_iff]
      intro e he
      -- The entry is about the alert of the operation, which is another one.
      have halert := (Operation.entry_eq_some (Option.mem_toList.mp he)).1
      simp only [beq_iff_eq]
      rintro rfl
      exact h halert
    rw [hother, List.append_nil]
    rfl

end

/-! ### Streams of operations -/

section

variable (clock : Nat → Moment) (i : Nat) (ops : List Operation)
  (t : Trail MemoryAuthority RecordingSink)

/-- **What only certain operations change is a fold over these operations.**  They may change it by
what it was before and by nothing else. -/
theorem view_after {β : Type} (view : Trail MemoryAuthority RecordingSink → β)
    (next : β → Operation → β) {s : Subject}
    (step : ∀ m op t, view (t.apply m op).state
      = if op.subject = s then next (view t) op else view t) :
    view (after (changes (timed clock i ops)) t) = (Operation.on s ops).foldl next (view t) := by
  induction ops generalizing i t with
  | nil => rfl
  | cons op ops ih =>
    change view (after (changes (timed clock (i + 1) ops)) (t.apply (clock i) op).state) = _
    rw [ih, step, Operation.on, Operation.on, List.filter_cons]
    by_cases h : op.subject = s <;> simp [h]

lemma calls_after :
    (after (changes (timed clock i ops)) t).sink.calls
      = t.sink.calls ++ (entriesOf t.authority (timed clock i ops)).map (·.2) := by
  induction ops generalizing i t with
  | nil => exact (List.append_nil _).symm
  | cons op ops ih =>
    change (after (changes (timed clock (i + 1) ops)) (t.apply (clock i) op).state).sink.calls = _
    rw [ih, apply_calls, apply_authority, timed_cons, entriesOf, List.map_append, List.append_assoc]
    cases op.entry t.authority <;> rfl

lemma countedStates_run :
    countedStates (run (changes (timed clock i ops)) t).emitted =
      if t.metered then
        (entriesOf t.authority (timed clock i ops)).map (·.2.transition.state.name)
      else [] := by
  induction ops generalizing i t with
  | nil => cases t.metered <;> rfl
  | cons op ops ih =>
    change countedStates ((t.apply (clock i) op).emitted
      ++ (run (changes (timed clock (i + 1) ops)) (t.apply (clock i) op).state).emitted) = _
    rw [countedStates_append, ih, countedStates_apply, apply_metered, apply_authority, timed_cons,
      entriesOf, List.map_append]
    cases t.metered <;> cases op.entry t.authority <;> rfl

end

/-- A stream of operations on a trail over an authority in memory that knows of nothing yet, with a
sink that records what it is handed. -/
def recorded (clock : Nat → Moment) (metered : Bool) (ops : List Operation) :
    Step (Trail MemoryAuthority RecordingSink) (List Reply) :=
  run (changes (timed clock 0 ops)) (inMemory {} metered)

section

variable (clock clock' : Nat → Moment) (metered metered' : Bool) {ops ops' : List Operation}

/-- What is known and recorded of an alert follows from the operations on it. -/
lemma viewOf_recorded (ops : List Operation) (alert : Fingerprint) :
    (recorded clock metered ops).state.viewOf alert
      = (Operation.on (.alert alert) ops).foldl (Operation.follow alert) (none, []) :=
  view_after clock 0 ops _ (fun t => t.viewOf alert) _ fun m op t => t.viewOf_apply m op alert

/-- The mutes of a group follow from the operations on it. -/
lemma find?_groups_recorded (ops : List Operation) (group : GroupKey) :
    (recorded clock metered ops).state.authority.groups.find? group
      = (Operation.on (.group group) ops).foldl (fun mutes op => op.remute mutes) none := by
  refine view_after clock 0 ops _ (fun t => t.authority.groups.find? group) _ ?_
  intro m op t
  rw [apply_authority, MemoryAuthority.find?_groups_apply]

/-- What is known and recorded of an alert is what the operations on it make of it alone. -/
lemma viewOf_congr {alert : Fingerprint}
    (h : Operation.on (.alert alert) ops = Operation.on (.alert alert) ops') :
    (recorded clock metered ops).state.viewOf alert
      = (recorded clock' metered' ops').state.viewOf alert := by
  rw [viewOf_recorded, viewOf_recorded, h]

/-- The mutes of a group are what the operations on it make of them alone. -/
lemma find?_groups_congr {group : GroupKey}
    (h : Operation.on (.group group) ops = Operation.on (.group group) ops') :
    (recorded clock metered ops).state.authority.groups.find? group
      = (recorded clock' metered' ops').state.authority.groups.find? group := by
  rw [find?_groups_recorded, find?_groups_recorded, h]

/-- Streams that are rearrangements of one another leave the same authority behind. -/
lemma authority_recorded (h : Operation.Rearranged ops ops') :
    (recorded clock metered ops).state.authority
      = (recorded clock' metered' ops').state.authority := by
  have halerts : (recorded clock metered ops).state.authority.alerts
      = (recorded clock' metered' ops').state.authority.alerts := by
    refine SortedMap.ext_find? ?_
    intro alert
    exact congrArg Prod.fst (viewOf_congr clock clock' metered metered' (h (.alert alert)))
  have hgroups : (recorded clock metered ops).state.authority.groups
      = (recorded clock' metered' ops').state.authority.groups := by
    refine SortedMap.ext_find? ?_
    intro group
    exact find?_groups_congr clock clock' metered metered' (h (.group group))
  generalize (recorded clock metered ops).state.authority = left at halerts hgroups ⊢
  generalize (recorded clock' metered' ops').state.authority = right at halerts hgroups ⊢
  obtain ⟨alerts, groups⟩ := left
  obtain rfl : alerts = right.alerts := halerts
  obtain rfl : groups = right.groups := hgroups
  rfl

/-- All entries of a stream, and the states for which they are counted. -/
lemma countedStates_recorded (ops : List Operation) :
    countedStates (recorded clock metered ops).emitted =
      if metered then
        (recorded clock metered ops).state.sink.calls.map (·.transition.state.name)
      else [] := by
  have hcalls := calls_after clock 0 ops (inMemory {} metered)
  have hstates := countedStates_run clock 0 ops (inMemory {} metered)
  change (recorded clock metered ops).state.sink.calls = [] ++ _ at hcalls
  rw [List.nil_append] at hcalls
  rw [hcalls, List.map_map]
  exact hstates

/-- Streams that are rearrangements of one another count the same transitions. -/
lemma perm_countedStates (h : Operation.Rearranged ops ops') :
    (countedStates (recorded clock metered ops).emitted).Perm
      (countedStates (recorded clock' metered ops').emitted) := by
  have hcalls : (recorded clock metered ops).state.sink.calls.Perm
      (recorded clock' metered ops').state.sink.calls := by
    refine perm_of_filter_perm Entry.alert ?_
    intro alert
    have hview := viewOf_congr clock clock' metered metered (h (.alert alert))
    have hcalls := congrArg Prod.snd hview
    simp only [viewOf, RecordingSink.callsFor, beq_eq_decide] at hcalls
    exact .of_eq hcalls
  rw [countedStates_recorded, countedStates_recorded]
  cases metered with
  | false => exact .refl _
  | true => exact hcalls.map _

/-- **Alerts and groups are independent.**  A stream of operations goes through a trail over an
authority in memory that knows of nothing yet, to a sink that records. The status of an alert in the
end, and the entries of that alert, are those of the stream with the operations on this alert only;
the mutes of a group are those of the stream with the operations on this group only, where groups of
different routes are different. So if a stream is rearranged, in such a way that operations on one
and the same alert or group stay in their order, then in the end all statuses, mutes and counts are
the same, and so are the entries of each alert and how often each state was counted. -/
theorem independent (ops : List Operation) :
    let stream := recorded clock metered ops
    (∀ alert,
      let alone := recorded clock' metered' (Operation.on (.alert alert) ops)
      stream.state.authority.statusOf alert = alone.state.authority.statusOf alert ∧
        stream.state.sink.callsFor alert = alone.state.sink.callsFor alert) ∧
      (∀ group,
        let alone := recorded clock' metered' (Operation.on (.group group) ops)
        stream.state.authority.mutesOf group = alone.state.authority.mutesOf group) ∧
      ∀ ops', Operation.Rearranged ops ops' →
        let other := recorded clock' metered ops'
        (∀ alert,
          stream.state.authority.statusOf alert = other.state.authority.statusOf alert ∧
            stream.state.sink.callsFor alert = other.state.sink.callsFor alert) ∧
          (∀ group, stream.state.authority.mutesOf group = other.state.authority.mutesOf group) ∧
          (∀ states, stream.state.authority.countIn states = other.state.authority.countIn states) ∧
          ∀ state : AlertState, (countedStates stream.emitted).count state.name
            = (countedStates other.emitted).count state.name := by
  intro stream
  refine ⟨?_, ?_, ?_⟩
  · intro alert alone
    have hview := viewOf_congr clock clock' metered metered'
      (Operation.on_on (.alert alert) ops).symm
    exact ⟨congrArg (fun view => view.1.getD {}) hview, congrArg Prod.snd hview⟩
  · intro group alone
    have hmutes := find?_groups_congr clock clock' metered metered'
      (Operation.on_on (.group group) ops).symm
    simp only [MemoryAuthority.mutesOf]
    rw [hmutes]
  · intro ops' h other
    have hauthority : stream.state.authority = other.state.authority :=
      authority_recorded clock clock' metered metered h
    refine ⟨?_, ?_, ?_, ?_⟩
    · intro alert
      have hview := viewOf_congr clock clock' metered metered (h (.alert alert))
      exact ⟨by rw [hauthority], congrArg Prod.snd hview⟩
    · intro group
      rw [hauthority]
    · intro states
      rw [hauthority]
    · intro state
      exact (perm_countedStates clock clock' metered h).count_eq state.name

end

/-! ### Two groups whose names read alike -/

/-- An alert is silenced and later inhibited; in between another one is inhibited, and the groups
`c` of route `ab` and `bc` of route `a` are muted. -/
def mixed : List Operation :=
  [.silence (.fingerprint ⟨1⟩) 1 ["s"] [], .inhibit (.fingerprint ⟨2⟩) ["a"],
    .mute ⟨"ab", "c"⟩ ["nights"], .mute ⟨"a", "bc"⟩ [], .inhibit (.fingerprint ⟨1⟩) ["b", "a"]]

/-- The same operations, the other alert and the other group first. -/
def remixed : List Operation :=
  [.inhibit (.fingerprint ⟨2⟩) ["a"], .silence (.fingerprint ⟨1⟩) 1 ["s"] [],
    .mute ⟨"a", "bc"⟩ [], .mute ⟨"ab", "c"⟩ ["nights"], .inhibit (.fingerprint ⟨1⟩) ["b", "a"]]

/-- Nothing of that shows in the end. -/
theorem independent_mixed :
    Operation.Rearranged mixed remixed ∧
      let other := recorded fromTen true remixed
      other.state.authority.statusOf ⟨1⟩ = ⟨.suppressed, ["s"], ["b", "a"], [], 1⟩ ∧
        other.state.sink.callsFor ⟨1⟩
          = [⟨⟨1⟩, .enter .suppressed⟩, ⟨⟨1⟩, .inhibited ["b", "a"]⟩] ∧
        other.state.authority.mutesOf ⟨"ab", "c"⟩ = ⟨["nights"], true⟩ ∧
        other.state.authority.countIn [.suppressed] = 2 ∧
        (countedStates other.emitted).count AlertState.suppressed.name = 3 := by
  have h : Operation.Rearranged mixed remixed :=
    (Operation.Rearranged.swap (by decide) _).trans
      (.cons _ (.cons _ (.swap (by decide) _)))
  obtain ⟨-, -, hsame⟩ := independent fromTen fromTen true true mixed
  obtain ⟨halerts, hgroups, hcounts, htotals⟩ := hsame remixed h
  obtain ⟨hstatus, hcalls⟩ := halerts ⟨1⟩
  exact ⟨h, hstatus.symm, hcalls.symm, (hgroups _).symm, (hcounts _).symm,
    (htotals .suppressed).symm⟩

end Trail

end AlertLedger
