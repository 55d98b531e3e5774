/-
# Silences by any name

An alert is silenced as soon as a silence is active. Which silence that is, how many there are, as
of which version, and which others are still to come does not matter to anything but the answer to
the question for the silences themselves: two streams of operations that differ in nothing else
(`Operation.SilencedAlike`) cannot be told apart by their trails. Inhibitors are another matter,
since an entry names them.

What is left of a status without the names of its silences is its outline (`AlertStatus.outline`).
The argument runs two authorities side by side that have all outlines in common
(`MemoryAuthority.Alike`): an operation leaves the same entry in both and keeps them alike, and so
does a stream (`Trail.alike_after`). The main result is `Trail.silence_names_unseen`.
-/
import AlertLedger.Proofs.Authority.Tracking
import AlertLedger.Proofs.Trail.Independence

namespace AlertLedger

open MemoryAuthority (settle)

/-! ### Outlines -/

namespace AlertStatus

/-- A status without the names of its silences: of these, it says only whether there are any. -/
def outline (s : AlertStatus) : AlertState × List String × Bool :=
  (s.state, s.inhibitedBy, s.silencedBy.isEmpty)

lemma outline_getD {known known' : Option AlertStatus}
    (h : known.map outline = known'.map outline) :
    (known.getD {}).outline = (known'.getD {}).outline := by
  have hmap (o : Option AlertStatus) : (o.getD {}).outline = (o.map outline).getD (outline {}) := by
    cases o <;> rfl
  rw [hmap, hmap, h]

/-- The outline of a status that is settled anew. -/
lemma outline_settle (s : AlertStatus) :
    (settle s).outline
      = (if s.silencedBy.isEmpty && s.inhibitedBy.isEmpty then .active else .suppressed,
          s.inhibitedBy, s.silencedBy.isEmpty) := rfl

variable {s s' : AlertStatus} (h : s.outline = s'.outline)
include h

lemma state_of_outline : s.state = s'.state := congrArg Prod.fst h

lemma inhibitedBy_of_outline : s.inhibitedBy = s'.inhibitedBy :=
  congrArg (fun o => o.2.1) h

lemma isEmpty_of_outline : s.silencedBy.isEmpty = s'.silencedBy.isEmpty :=
  congrArg (fun o => o.2.2) h

lemma isSilenced_of_outline : s.isSilenced = s'.isSilenced := by
  rw [isSilenced, isSilenced, state_of_outline h, isEmpty_of_outline h]

lemma isInhibited_of_outline : s.isInhibited = s'.isInhibited := by
  rw [isInhibited, isInhibited, state_of_outline h, inhibitedBy_of_outline h]

end AlertStatus

namespace Operation

/-- Operations of which the second is the first, but that a silencing may have another version,
other pending silences, and other active ones in place of active ones. -/
inductive SilencedAlike : Operation → Operation → Prop where
  | same (op : Operation) : SilencedAlike op op
  | silence (alert : AlertRef) (version version' : UInt64) {active active' : List String}
      (h : active = [] ↔ active' = []) (pending pending' : List String) :
    SilencedAlike (.silence alert version active pending) (.silence alert version' active' pending')

namespace SilencedAlike

variable {op op' : Operation} {known known' : Option AlertStatus}

lemma alert?_eq (h : SilencedAlike op op') : op.alert? = op'.alert? := by
  cases h <;> rfl

/-- Such operations make the same outline of the same outline. -/
lemma outline_revise (h : SilencedAlike op op')
    (hk : known.map AlertStatus.outline = known'.map AlertStatus.outline) :
    (op.revise known).map AlertStatus.outline = (op'.revise known').map AlertStatus.outline := by
  have hprev := AlertStatus.outline_getD hk
  have hinhibitors := AlertStatus.inhibitedBy_of_outline hprev
  cases h with
  | same =>
    cases op with
    | silence =>
      simp only [revise, Option.map_some, AlertStatus.outline_settle, hinhibitors]
    | inhibit =>
      have hsilences := AlertStatus.isEmpty_of_outline hprev
      simp only [revise, Option.map_some, AlertStatus.outline_settle, hsilences]
    | delete => rfl
    | mute | unmute => exact hk
  | @silence _ _ _ active active' h =>
    have hempty : active.isEmpty = active'.isEmpty := by
      rw [Bool.eq_iff_iff, List.isEmpty_iff, List.isEmpty_iff, h]
    simp only [revise, Option.map_some, AlertStatus.outline_settle, hinhibitors, hempty]

/-- Where the outline is the same, the rules decide the same on such operations: they look at
nothing else. -/
lemma transition_eq (h : SilencedAlike op op')
    (hk : known.map AlertStatus.outline = known'.map AlertStatus.outline) :
    op.transition known = op'.transition known' := by
  have hprev := AlertStatus.outline_getD hk
  have hnext := AlertStatus.outline_getD (h.outline_revise hk)
  have hstate := AlertStatus.state_of_outline hprev
  cases h with
  | same =>
    cases op with
    | silence =>
      simp only [transition, Transition.afterSilencing, hstate,
        AlertStatus.inhibitedBy_of_outline hprev, AlertStatus.isSilenced_of_outline hnext]
    | inhibit =>
      simp only [transition, Transition.afterInhibiting, hstate,
        AlertStatus.inhibitedBy_of_outline hprev, AlertStatus.inhibitedBy_of_outline hnext,
        AlertStatus.isInhibited_of_outline hnext]
    | delete => simp only [transition, Transition.afterDeletion, hstate]
    | mute | unmute => rfl
  | silence =>
    simp only [transition, Transition.afterSilencing, hstate,
      AlertStatus.inhibitedBy_of_outline hprev, AlertStatus.isSilenced_of_outline hnext]

end SilencedAlike

/-- To be recorded as suppressed by silences takes an active one. -/
lemma eq_silence_of_transition {op : Operation} {known : Option AlertStatus}
    (h : op.transition known = some (.enter .suppressed)) :
    ∃ ref version active pending, op = .silence ref version active pending ∧ active ≠ [] := by
  cases op with
  | silence ref version active pending =>
    refine ⟨ref, version, active, pending, rfl, ?_⟩
    rintro rfl
    have hsilenced : (((Operation.silence ref version [] pending).revise known).getD {}).isSilenced
        = false :=
      Bool.and_false _
    rw [transition] at h
    simp only [hsilenced, Transition.afterSilencing, Bool.false_eq_true, if_false] at h
    split_ifs at h
    cases h
  | inhibit ref inhibitors =>
    rw [transition] at h
    simp only [Transition.afterInhibiting] at h
    split_ifs at h
    · cases h
    · split at h <;> cases h
  | delete ref =>
    rw [transition] at h
    simp only [Transition.afterDeletion] at h
    split_ifs at h
    cases h
  | mute | unmute => cases h

end Operation

/-! ### Authorities alike -/

namespace MemoryAuthority

/-- The two authorities know the same of all alerts, but for the names of their silences. -/
def Alike (a a' : MemoryAuthority) : Prop :=
  ∀ alert, (a.alerts.find? alert).map AlertStatus.outline
    = (a'.alerts.find? alert).map AlertStatus.outline

namespace Alike

variable {a a' : MemoryAuthority}

/-- They are kept alike by operations that are. -/
lemma apply (h : a.Alike a') {op op' : Operation} (hop : op.SilencedAlike op') :
    (Authority.apply op a).Alike (Authority.apply op' a') := by
  intro alert
  rw [find?_apply, find?_apply, hop.alert?_eq]
  split
  · exact hop.outline_revise (h alert)
  · exact h alert

/-- Such operations leave the same entry. -/
lemma entry_eq (h : a.Alike a') {op op' : Operation} (hop : op.SilencedAlike op') :
    op.entry a = op'.entry a' := by
  rw [Operation.entry, Operation.entry, hop.alert?_eq]
  congr 1
  funext alert
  rw [hop.transition_eq (h alert)]

lemma outline_statusOf (h : a.Alike a') (alert : Fingerprint) :
    (a.statusOf alert).outline = (a'.statusOf alert).outline :=
  AlertStatus.outline_getD (h alert)

lemma tracks_iff (h : a.Alike a') (alert : Fingerprint) : a.Tracks alert ↔ a'.Tracks alert := by
  have halert := congrArg Option.isSome (h alert)
  rw [Option.isSome_map, Option.isSome_map] at halert
  rw [Tracks, Tracks, halert]

/-- They count the same, since they track the same alerts in the same states. -/
lemma countIn_eq (h : a.Alike a') (states : List AlertState) :
    a.countIn states = a'.countIn states := by
  rcases eq_or_ne states [] with rfl | hne
  · rw [countIn_nil, countIn_nil, tracked, tracked]
    simp only [h.tracks_iff]
  · rw [MemoryAuthority.countIn_eq a hne, MemoryAuthority.countIn_eq a' hne, trackedIn, trackedIn]
    simp only [h.tracks_iff, AlertStatus.state_of_outline (h.outline_statusOf _)]

end Alike

end MemoryAuthority

/-! ### Streams alike -/

/-- Among the metrics, the counters of transitions take in the states that are counted and nothing
else. -/
lemma MetricsRegistry.transitions_absorb (r : MetricsRegistry) (emitted : List Effect) :
    (r.absorb emitted).transitions
      = (countedStates emitted).foldl (fun family state => addTo family state 1) r.transitions := by
  rw [absorb, countedStates]
  induction emitted.filterMap Effect.metric? generalizing r with
  | nil => rfl
  | cons u us ih =>
    rw [List.foldl_cons, ih]
    cases u <;> rfl

namespace Trail

section

variable (clock clock' : Nat → Moment) (metered : Bool)

/-- An entry is left by one of the operations. -/
lemma exists_operation_of_mem_entriesOf (i : Nat) {ops : List Operation} {a : MemoryAuthority}
    {p : Moment × Entry} (h : p ∈ entriesOf a (timed clock i ops)) :
    ∃ op ∈ ops, ∃ b, op.entry b = some p.2 := by
  induction ops generalizing i a with
  | nil => cases h
  | cons op ops ih =>
    rw [timed_cons, entriesOf] at h
    rcases List.mem_append.mp h with h | h
    · obtain ⟨e, he, rfl⟩ := Option.map_eq_some_iff.mp (Option.mem_toList.mp h)
      exact ⟨op, List.mem_cons_self, a, he⟩
    · obtain ⟨op', hop', b, hb⟩ := ih (i + 1) h
      exact ⟨op', List.mem_cons_of_mem _ hop', b, hb⟩

lemma exists_operation_of_mem_calls {ops : List Operation} {e : Entry}
    (h : e ∈ (recorded clock metered ops).state.sink.calls) :
    ∃ op ∈ ops, ∃ a, op.entry a = some e := by
  rw [recorded, ← after, calls_after] at h
  obtain ⟨p, hp, rfl⟩ := List.mem_map.mp h
  exact exists_operation_of_mem_entriesOf clock 0 hp

/-- The authority is told of the operations one after the other. -/
lemma authority_after (i : Nat) (ops : List Operation) (t : Trail MemoryAuthority RecordingSink) :
    (after (changes (timed clock i ops)) t).authority
      = ops.foldl (fun a op => Authority.apply op a) t.authority := by
  induction ops generalizing i t with
  | nil => rfl
  | cons op ops ih =>
    change (after (changes (timed clock (i + 1) ops)) (t.apply (clock i) op).state).authority = _
    rw [ih, apply_authority, List.foldl_cons]

/-- Two trails that were alike so far are alike after operations that are. -/
theorem alike_after (i : Nat) {ops ops' : List Operation}
    (h : List.Forall₂ Operation.SilencedAlike ops ops')
    (t t' : Trail MemoryAuthority RecordingSink) (ha : t.authority.Alike t'.authority)
    (hcalls : t.sink.calls = t'.sink.calls) :
    (after (changes (timed clock i ops)) t).authority.Alike
        (after (changes (timed clock' i ops')) t').authority ∧
      (after (changes (timed clock i ops)) t).sink.calls
        = (after (changes (timed clock' i ops')) t').sink.calls := by
  induction h generalizing i t t' with
  | nil => exact ⟨ha, hcalls⟩
  | @cons op op' ops ops' hop _ ih =>
    refine ih (i + 1) (t.apply (clock i) op).state (t'.apply (clock' i) op').state ?_ ?_
    · rw [apply_authority, apply_authority]
      exact ha.apply hop
    · rw [apply_calls, apply_calls, hcalls, ha.entry_eq hop]

/-- **Which silences there are leaves no trace.**  Two streams of operations go through trails over
authorities in memory that know of nothing yet, to sinks that record, and are the same but that a
silencing may have another version, other pending silences, and other active ones in place of active
ones. Then both sinks are handed the same entries, and in the end all alerts have the same states
and the same inhibitors, as many alerts are counted in any states, and as many transitions to each
state. In particular silences that are pending suppress nothing by themselves: an alert is suppressed
just if it has active silences or inhibitors, and what is recorded as suppressed by silences was
given an active one. -/
theorem silence_names_unseen {ops ops' : List Operation}
    (h : List.Forall₂ Operation.SilencedAlike ops ops') :
    let one := recorded clock metered ops
    let other := recorded clock' metered ops'
    one.state.sink.calls = other.state.sink.calls ∧
      (∀ alert,
        (one.state.authority.statusOf alert).state
            = (other.state.authority.statusOf alert).state ∧
          (one.state.authority.statusOf alert).inhibitedBy
            = (other.state.authority.statusOf alert).inhibitedBy) ∧
      (∀ states, one.state.authority.countIn states = other.state.authority.countIn states) ∧
      (∀ metrics : MetricsRegistry,
        (metrics.absorb one.emitted).transitions = (metrics.absorb other.emitted).transitions) ∧
      (∀ alert,
        (one.state.authority.statusOf alert).state = .suppressed ↔
          (one.state.authority.statusOf alert).silencedBy ≠ [] ∨
            (one.state.authority.statusOf alert).inhibitedBy ≠ []) ∧
      ∀ e ∈ one.state.sink.calls, e.transition = .enter .suppressed →
        ∃ ref version active pending, .silence ref version active pending ∈ ops ∧
          ref.resolve = e.alert ∧ active ≠ [] := by
  intro one other
  obtain ⟨halike, hcalls⟩ := alike_after clock clock' 0 h (inMemory {} metered)
    (inMemory {} metered) (fun _ => rfl) rfl
  change one.state.authority.Alike other.state.authority at halike
  change one.state.sink.calls = other.state.sink.calls at hcalls
  refine ⟨hcalls, ?_, halike.countIn_eq, ?_, ?_, ?_⟩
  · intro alert
    have houtline := halike.outline_statusOf alert
    exact ⟨AlertStatus.state_of_outline houtline, AlertStatus.inhibitedBy_of_outline houtline⟩
  · intro metrics
    have hcounted : countedStates one.emitted = countedStates other.emitted := by
      rw [countedStates_recorded, countedStates_recorded]
      change (if metered then one.state.sink.calls.map _ else []) = _
      rw [hcalls]
    rw [MetricsRegistry.transitions_absorb, MetricsRegistry.transitions_absorb, hcounted]
  · intro alert
    have hauthority : one.state.authority = MemoryAuthority.afterAll ops :=
      authority_after clock 0 ops _
    rw [hauthority]
    rcases MemoryAuthority.tracks_cases ops alert with ⟨-, hstatus⟩ | ⟨-, hsettled⟩
    · rw [hstatus]
      simp
    · exact hsettled.suppressed_iff
  · intro e he ht
    obtain ⟨op, hop, a, hentry⟩ := exists_operation_of_mem_calls clock metered he
    obtain ⟨halert, htransition⟩ := Operation.entry_eq_some hentry
    rw [ht] at htransition
    obtain ⟨ref, version, active, pending, rfl, hactive⟩ :=
      Operation.eq_silence_of_transition htransition
    exact ⟨ref, version, active, pending, hop, Option.some.inj halert, hactive⟩

end

/-! ### Silences under other names -/

/-- An alert is silenced, inhibited as well, and silenced no more; of another one, a silence is to
come. -/
def namedSilences : List Operation :=
  [.silence (.fingerprint ⟨1⟩) 1 ["s"] [], .inhibit (.fingerprint ⟨1⟩) ["a"],
    .silence (.fingerprint ⟨1⟩) 2 [] ["t"], .silence (.fingerprint ⟨2⟩) 2 [] ["t"]]

/-- The same operations with other silences, and with none to come. -/
def renamedSilences : List Operation :=
  [.silence (.fingerprint ⟨1⟩) 7 ["u", "v"] ["w"], .inhibit (.fingerprint ⟨1⟩) ["a"],
    .silence (.fingerprint ⟨1⟩) 0 [] [], .silence (.fingerprint ⟨2⟩) 9 [] []]

/-- Nothing of that shows in the trail. -/
theorem silence_names_unseen_renamed :
    List.Forall₂ Operation.SilencedAlike namedSilences renamedSilences ∧
      let other := recorded fromTen true renamedSilences
      other.state.sink.calls
          = [⟨⟨1⟩, .enter .suppressed⟩, ⟨⟨1⟩, .inhibited ["a"]⟩, ⟨⟨2⟩, .enter .active⟩] ∧
        (other.state.authority.statusOf ⟨1⟩).inhibitedBy = ["a"] ∧
        (other.state.authority.statusOf ⟨2⟩).state = .active ∧
        other.state.authority.countIn [.suppressed] = 1 := by
  have h : List.Forall₂ Operation.SilencedAlike namedSilences renamedSilences :=
    .cons (.silence _ _ _ (by simp) _ _) <| .cons (.same _) <|
      .cons (.silence _ _ _ .rfl _ _) <| .cons (.silence _ _ _ .rfl _ _) .nil
  obtain ⟨hcalls, hstatuses, hcounts, -⟩ := silence_names_unseen fromTen fromTen true h
  exact ⟨h, hcalls.symm, (hstatuses ⟨1⟩).2.symm, (hstatuses ⟨2⟩).1.symm, (hcounts _).symm⟩

end Trail

end AlertLedger
