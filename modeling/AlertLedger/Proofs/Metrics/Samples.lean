/-
# What the samples say

A registry takes in report after report. A report brings a number for a single sample
(`MetricsUpdate.target?`), or a duration for the histogram, and leaves everything else alone
(`MetricsRegistry.value?_record`). So a sample follows from the numbers that were brought for it: a
counter is their sum, as a word that wraps around, and the gauge is the last one, as far as a signed
word goes. No counter depends on the order of the reports.

The buckets of the histogram are counters as well, each one for the durations that are not above its
bound (`Histogram.Counts`). The bounds ascend, so the buckets do, and the last bound is the largest
finite double.

The main result is `MetricsRegistry.samples_account`.
-/
import AlertLedger.Metrics.Exposition
import AlertLedger.Proofs.Metrics.Order
import AlertLedger.Proofs.SortedMap

namespace AlertLedger

/-! ### Samples -/

/-- A sample that is one number. -/
inductive Sample where
  | transitions (state : String)
  | marked (state : String)
  | dropped (reason : String)
  | flushed
deriving DecidableEq, Repr

namespace MetricsUpdate

/-- The sample for which a report brings a number. -/
def target? : MetricsUpdate → Option (Sample × UInt64)
  | .transition state => some (.transitions state, 1)
  | .marked state alerts => some (.marked state, alerts)
  | .dropped reason rows => some (.dropped reason, rows)
  | .flushed rows => some (.flushed, rows)
  | .flushTime _ => none

/-- The number that a report brings for a sample. -/
def amount? (s : Sample) (u : MetricsUpdate) : Option UInt64 :=
  u.target?.bind fun (target, n) => if target = s then some n else none

lemma amount?_of_ne {s : Sample} {u : MetricsUpdate} (h : u.target?.map Prod.fst ≠ some s) :
    u.amount? s = none := by
  unfold amount?
  cases htarget : u.target? with
  | none => rfl
  | some target =>
    have hne : target.1 ≠ s := by simpa [htarget] using h
    simp [hne]

/-- The duration that a report brings. -/
def seconds? : MetricsUpdate → Option Float
  | .flushTime seconds => some seconds
  | .transition _ | .marked .. | .dropped .. | .flushed _ => none

end MetricsUpdate

namespace Sample

/-- Whether a sample is counted up; if not, it is set. -/
def IsCounter : Sample → Prop
  | .marked _ => False
  | .transitions _ | .dropped _ | .flushed => True

/-- The numbers that were brought for a sample, one after the other. -/
def amounts (s : Sample) (us : List MetricsUpdate) : List UInt64 :=
  us.filterMap (MetricsUpdate.amount? s)

/-- What was brought for a sample altogether. -/
def total (s : Sample) (us : List MetricsUpdate) : Nat :=
  ((s.amounts us).map UInt64.toNat).sum

/-- What a sample is once a number was brought for it. -/
def take (old : Option UInt64) (n : UInt64) : Sample → UInt64
  | .marked _ => if n ≤ MetricsRegistry.gaugeMax then n else MetricsRegistry.gaugeMax
  | .transitions _ | .dropped _ | .flushed => old.getD 0 + n

/-- The line of a sample in the exposition. -/
def line (n : UInt64) : Sample → String
  | .transitions state => MetricsFamily.labelled "state_transitions_total" "state" state n
  | .marked state => MetricsFamily.labelled "marked_alerts" "state" state n
  | .dropped reason => MetricsFamily.labelled "state_rows_dropped_total" "reason" reason n
  | .flushed => MetricsFamily.plain "state_rows_flushed_total" (toString n.toNat)

/-- A counter adds up. -/
lemma foldl_take_of_isCounter {s : Sample} (hs : s.IsCounter) (l : List UInt64)
    (old : Option UInt64) :
    l.foldl (fun old n => some (s.take old n)) old
      = if l = [] then old else some (old.getD 0 + UInt64.ofNat (l.map UInt64.toNat).sum) := by
  induction l generalizing old with
  | nil => rfl
  | cons n l ih =>
    have htake : s.take old n = old.getD 0 + n := by
      cases s with
      | marked => exact hs.elim
      | transitions | dropped | flushed => rfl
    rw [List.foldl_cons, ih, htake, if_neg (List.cons_ne_nil n l), List.map_cons, List.sum_cons,
      UInt64.ofNat_add, UInt64.ofNat_toNat, ← UInt64.add_assoc]
    by_cases hl : l = [] <;> simp [hl]

/-- The gauge forgets. -/
lemma foldl_take_marked (state : String) (l : List UInt64) (old : Option UInt64) :
    l.foldl (fun old n => some ((marked state).take old n)) old
      = (l.getLast?.map ((marked state).take none)).or old := by
  induction l generalizing old with
  | nil => rfl
  | cons n l ih =>
    rw [List.foldl_cons, ih, List.getLast?_cons]
    cases l.getLast? <;> rfl

lemma total_perm (s : Sample) {us us' : List MetricsUpdate} (h : us.Perm us') :
    s.total us = s.total us' :=
  ((h.filterMap _).map _).sum_nat

end Sample

/-! ### Samples of a registry -/

namespace MetricsRegistry

/-- What a sample of a registry is, if it is there. -/
def value? (r : MetricsRegistry) : Sample → Option UInt64
  | .transitions state => r.transitions.find? state
  | .marked state => r.marked.find? state
  | .dropped reason => r.dropped.find? reason
  | .flushed => some r.flushed

/-- The registry after some reports. -/
def after (us : List MetricsUpdate) : MetricsRegistry :=
  us.foldl record empty

/-- **One report changes the sample it is about, and no other one.** -/
theorem value?_record (r : MetricsRegistry) (u : MetricsUpdate) (s : Sample) :
    (r.record u).value? s
      = (u.amount? s).elim (r.value? s) fun n => some (s.take (r.value? s) n) := by
  unfold MetricsUpdate.amount?
  cases u with
  | transition state =>
    cases s with
    | transitions state' =>
      by_cases h : state = state' <;>
        simp [record, value?, MetricsUpdate.target?, Sample.take, addTo,
          SortedMap.find?_alter, h, eq_comm]
    | marked | dropped | flushed => rfl
  | marked state alerts =>
    cases s with
    | marked state' =>
      by_cases h : state = state' <;>
        simp [record, value?, MetricsUpdate.target?, Sample.take, SortedMap.find?_insert, h,
          eq_comm]
    | transitions | dropped | flushed => rfl
  | dropped reason rows =>
    cases s with
    | dropped reason' =>
      by_cases h : reason = reason' <;>
        simp [record, value?, MetricsUpdate.target?, Sample.take, addTo,
          SortedMap.find?_alter, h, eq_comm]
    | transitions | marked | flushed => rfl
  | flushed rows => cases s <;> rfl
  | flushTime seconds => cases s <;> rfl

/-- A sample follows from the numbers that are brought for it. -/
lemma value?_foldl_record (r : MetricsRegistry) (us : List MetricsUpdate) (s : Sample) :
    (us.foldl record r).value? s
      = (s.amounts us).foldl (fun old n => some (s.take old n)) (r.value? s) := by
  induction us generalizing r with
  | nil => rfl
  | cons u us ih =>
    rw [List.foldl_cons, ih, value?_record, Sample.amounts, Sample.amounts, List.filterMap_cons]
    cases u.amount? s <;> rfl

lemma value?_record_of_ne (r : MetricsRegistry) {u : MetricsUpdate} {s : Sample}
    (h : u.target?.map Prod.fst ≠ some s) : (r.record u).value? s = r.value? s := by
  rw [value?_record, MetricsUpdate.amount?_of_ne h, Option.elim_none]

lemma getD_value?_empty (s : Sample) : (empty.value? s).getD 0 = 0 := by
  cases s <;> rfl

lemma isSome_value?_empty (s : Sample) : (empty.value? s).isSome ↔ s = .flushed := by
  cases s <;> simp [value?, empty]

/-- A counter is the sum of what it was given, and there once it was given anything. -/
lemma value?_after_of_isCounter {s : Sample} (hs : s.IsCounter) (us : List MetricsUpdate) :
    (after us).value? s
      = if s.amounts us = [] then empty.value? s else some (UInt64.ofNat (s.total us)) := by
  rw [after, value?_foldl_record, Sample.foldl_take_of_isCounter hs, getD_value?_empty,
    UInt64.zero_add, Sample.total]

lemma toNat_value?_after {s : Sample} (hs : s.IsCounter) {us : List MetricsUpdate} {n : UInt64}
    (h : (after us).value? s = some n) : n.toNat = s.total us % 2 ^ 64 := by
  rw [value?_after_of_isCounter hs] at h
  split at h
  case isTrue hnil =>
    have hzero := getD_value?_empty s
    rw [h, Option.getD_some] at hzero
    simp [hzero, Sample.total, hnil]
  case isFalse =>
    obtain rfl := Option.some.inj h
    exact UInt64.toNat_ofNat'

/-- The gauge is the last number that it was given, as far as a signed word goes. -/
lemma value?_after_marked (state : String) (us : List MetricsUpdate) :
    (after us).value? (.marked state)
      = ((Sample.marked state).amounts us).getLast?.map ((Sample.marked state).take none) := by
  have hnone : empty.value? (.marked state) = none := rfl
  rw [after, value?_foldl_record, Sample.foldl_take_marked, hnone, Option.or_none]

/-- The counter without label is always there, a labelled sample once its label was recorded. -/
lemma isSome_value?_after (us : List MetricsUpdate) (s : Sample) :
    ((after us).value? s).isSome ↔ s = .flushed ∨ s.amounts us ≠ [] := by
  by_cases hs : s.IsCounter
  · rw [value?_after_of_isCounter hs]
    by_cases hnil : s.amounts us = []
    · simp [hnil, isSome_value?_empty]
    · simp [hnil]
  · cases s with
    | marked state => simp [value?_after_marked]
    | transitions | dropped | flushed => exact absurd trivial hs

/-- The order in which a counter is given its numbers does not count. -/
lemma value?_after_perm {s : Sample} (hs : s.IsCounter) {us us' : List MetricsUpdate}
    (h : us.Perm us') : (after us).value? s = (after us').value? s := by
  have hamounts : s.amounts us = [] ↔ s.amounts us' = [] := by
    have hlength : (s.amounts us).length = (s.amounts us').length := (h.filterMap _).length_eq
    rw [← List.length_eq_zero_iff, hlength, List.length_eq_zero_iff]
  rw [value?_after_of_isCounter hs, value?_after_of_isCounter hs, s.total_perm h]
  simp only [hamounts]

lemma flushTime_record (r : MetricsRegistry) {u : MetricsUpdate} (h : u.seconds? = none) :
    (r.record u).flushTime = r.flushTime := by
  cases u with
  | flushTime => cases h
  | transition | marked | dropped | flushed => rfl

/-- The histogram follows from the durations. -/
lemma flushTime_foldl_record (r : MetricsRegistry) (us : List MetricsUpdate) :
    (us.foldl record r).flushTime
      = (us.filterMap MetricsUpdate.seconds?).foldl Histogram.observe r.flushTime := by
  induction us generalizing r with
  | nil => rfl
  | cons u us ih =>
    rw [List.foldl_cons, ih]
    cases u <;> rfl

end MetricsRegistry

/-! ### Buckets -/

namespace Histogram

/-- How many durations are not above a bound. -/
def below (bound : Float) (times : List Float) : Nat :=
  times.countP fun t => t ≤ bound

lemma count_foldl_observe (h : Histogram) (times : List Float) :
    (times.foldl observe h).count = h.count + UInt64.ofNat times.length := by
  induction times generalizing h with
  | nil => exact (UInt64.add_zero _).symm
  | cons t times ih =>
    rw [List.foldl_cons, ih, List.length_cons, Nat.add_comm, UInt64.ofNat_add, ← UInt64.add_assoc]
    rfl

lemma buckets_foldl_observe (h : Histogram) (times : List Float) :
    (times.foldl observe h).buckets = h.buckets.map fun (label, bound, hits) =>
      (label, bound, hits + UInt64.ofNat (times.countP (Seconds.notAbove · bound))) := by
  induction times generalizing h with
  | nil => simp
  | cons t times ih =>
    rw [List.foldl_cons, ih, observe, List.map_map]
    refine List.map_congr_left fun (label, bound, hits) _ => ?_
    by_cases ht : Seconds.notAbove t bound
    · simp [ht, UInt64.ofNat_add, UInt64.add_assoc, UInt64.add_comm 1]
    · simp [ht]

/-- Each bucket counts the durations that are not above its bound. -/
lemma buckets_observed {bounds : List (String × Float)}
    (hbounds : ∀ p ∈ bounds, Seconds.IsNumber p.2) (times : List Float) :
    (times.foldl observe (empty bounds)).buckets
      = bounds.map fun p => (p.1, p.2, UInt64.ofNat (below p.2 times)) := by
  rw [buckets_foldl_observe, empty, List.map_map]
  refine List.map_congr_left fun p hmem => ?_
  simp only [Function.comp_apply, UInt64.zero_add, below, Seconds.notAbove_eq _ (hbounds p hmem)]

lemma below_mono {bound bound' : Float} (h : bound ≤ bound') (times : List Float) :
    below bound times ≤ below bound' times := by
  refine List.countP_mono_left fun t _ ht => ?_
  rw [decide_eq_true_iff] at ht ⊢
  exact Seconds.le_trans ht h

lemma below_perm {times times' : List Float} (h : times.Perm times') (bound : Float) :
    below bound times = below bound times' :=
  h.countP_eq _

lemma below_lt_of_length {times : List Float} (h : times.length < 2 ^ 64) (bound : Float) :
    below bound times < 2 ^ 64 :=
  List.countP_le_length.trans_lt h

/-- No finite double is above the largest one. -/
lemma below_of_isFinite {times : List Float} (h : ∀ t ∈ times, t.isFinite) :
    below (.ofBits 0x7fefffffffffffff) times = times.length := by
  have hlast : Seconds.rank (.ofBits 0x7fefffffffffffff) = Seconds.infinityRank - 1 := by
    decide +kernel
  have hnumber : Seconds.IsNumber (.ofBits 0x7fefffffffffffff) := by decide +kernel
  refine List.countP_eq_length.mpr fun t ht => decide_eq_true ?_
  obtain ⟨hlow, hhigh⟩ := (Seconds.isFinite_iff t).mp (h t ht)
  exact (Seconds.le_iff_rank_le _ _).mpr ⟨⟨hlow.le, hhigh.le⟩, hnumber, by omega⟩

/-- What a histogram of flush times shows after some durations. The counts ascend with the bounds,
and so do the words that are kept of them as long as none has wrapped around. -/
structure Counts (h : Histogram) (times : List Float) : Prop where
  count : h.count = UInt64.ofNat times.length
  buckets : h.buckets = flushTimeBounds.map fun p =>
    (p.1, p.2, UInt64.ofNat (below p.2 times))
  ascending : h.buckets.Pairwise fun b b' =>
    b.2.1 ≤ b'.2.1 ∧ below b.2.1 times ≤ below b'.2.1 times
  words : times.length < 2 ^ 64 → h.buckets.Pairwise fun b b' => b.2.2 ≤ b'.2.2
  unbounded : (∀ t ∈ times, t.isFinite) →
    ∃ bound, h.buckets.getLast? = some ("+Inf", bound, h.count)

lemma isNumber_of_mem_flushTimeBounds : ∀ p ∈ flushTimeBounds, Seconds.IsNumber p.2 := by
  decide +kernel

lemma pairwise_flushTimeBounds : flushTimeBounds.Pairwise fun p q => p.2 ≤ q.2 := by
  decide +kernel

theorem counts_observed (times : List Float) :
    (times.foldl observe (empty flushTimeBounds)).Counts times := by
  have hcount : (times.foldl observe (empty flushTimeBounds)).count = UInt64.ofNat times.length :=
    (count_foldl_observe _ times).trans (UInt64.zero_add _)
  have hbuckets := buckets_observed isNumber_of_mem_flushTimeBounds times
  refine ⟨hcount, hbuckets, ?ascending, ?words, ?unbounded⟩
  case ascending =>
    rw [hbuckets, List.pairwise_map]
    exact pairwise_flushTimeBounds.imp fun hle => ⟨hle, below_mono hle times⟩
  case words =>
    intro hlength
    rw [hbuckets, List.pairwise_map]
    refine pairwise_flushTimeBounds.imp fun hle => ?_
    rw [UInt64.le_iff_toNat_le, UInt64.toNat_ofNat_of_lt' (below_lt_of_length hlength _),
      UInt64.toNat_ofNat_of_lt' (below_lt_of_length hlength _)]
    exact below_mono hle times
  case unbounded =>
    intro hfinite
    refine ⟨.ofBits 0x7fefffffffffffff, ?_⟩
    rw [hbuckets, hcount, ← below_of_isFinite hfinite]
    rfl

end Histogram

/-! ### Lines -/

namespace MetricsFamily

lemma mem_samples_iff {name label line : String} {family : SortedMap String UInt64} :
    line ∈ samples name label family
      ↔ ∃ value n, family.find? value = some n ∧ line = labelled name label value n := by
  simp only [samples, List.mem_mergeSort, List.mem_map, SortedMap.toList, Prod.exists,
    SortedMap.mem_entries_iff, eq_comm]

/-- What introduces a family is a comment. -/
lemma head?_of_mem_heading {name kind help line : String} (h : line ∈ heading name kind help) :
    line.toList.head? = some '#' := by
  simp only [heading, List.mem_cons, List.not_mem_nil, or_false] at h
  rcases h with rfl | rfl <;> simp [String.toList_append, ToString.toString]

end MetricsFamily

namespace MetricsRegistry

/-- Comments and durations apart, the lines of the exposition are those of the samples. -/
theorem mem_lines_iff (r : MetricsRegistry) (double : Float → String) {line : String}
    (h : line.toList.head? ≠ some '#') :
    line ∈ r.lines double
      ↔ (∃ s n, r.value? s = some n ∧ line = s.line n) ∨ line ∈ r.flushTime.lines double := by
  have hheading (name kind help : String) : line ∉ MetricsFamily.heading name kind help :=
    fun hmem => h (MetricsFamily.head?_of_mem_heading hmem)
  have heof : line ≠ "# EOF" := by
    rintro rfl
    exact h (by decide)
  simp only [lines, List.mem_append, hheading, MetricsFamily.mem_samples_iff, List.mem_singleton,
    heof, or_false, false_or]
  constructor
  · rintro ((((⟨value, n, hfind, rfl⟩ | ⟨value, n, hfind, rfl⟩) | ⟨value, n, hfind, rfl⟩) | rfl)
      | htime)
    · exact .inl ⟨.marked value, n, hfind, rfl⟩
    · exact .inl ⟨.transitions value, n, hfind, rfl⟩
    · exact .inl ⟨.dropped value, n, hfind, rfl⟩
    · exact .inl ⟨.flushed, r.flushed, rfl, rfl⟩
    · exact .inr htime
  · rintro (⟨s, n, hvalue, rfl⟩ | htime)
    · cases s with
      | transitions state => exact .inl (.inl (.inl (.inr ⟨state, n, hvalue, rfl⟩)))
      | marked state => exact .inl (.inl (.inl (.inl ⟨state, n, hvalue, rfl⟩)))
      | dropped reason => exact .inl (.inl (.inr ⟨reason, n, hvalue, rfl⟩))
      | flushed =>
        obtain rfl := Option.some.inj hvalue
        exact .inl (.inr rfl)
    · exact .inr htime

lemma counts_after (us : List MetricsUpdate) :
    (after us).flushTime.Counts (us.filterMap MetricsUpdate.seconds?) := by
  rw [after, flushTime_foldl_record]
  exact Histogram.counts_observed _

/-- The gauge, read as a signed word. -/
lemma toInt_take_marked (state : String) (n : UInt64) :
    ((Sample.marked state).take none n).toInt64.toInt = min (n.toNat : Int) (2 ^ 63 - 1) := by
  have hmax : gaugeMax.toNat = 2 ^ 63 - 1 := by decide
  have hle (m : UInt64) : m ≤ gaugeMax ↔ m.toNat ≤ 2 ^ 63 - 1 := by
    rw [UInt64.le_iff_toNat_le, hmax]
  have hsigned {m : UInt64} (h : m ≤ gaugeMax) : m.toInt64.toInt = m.toNat := by
    refine BitVec.toInt_eq_toNat_of_lt ?_
    change 2 * m.toNat < 2 ^ 64
    have := (hle m).mp h
    omega
  change (if n ≤ gaugeMax then n else gaugeMax).toInt64.toInt = _
  by_cases h : n ≤ gaugeMax
  · have hn := (hle n).mp h
    rw [if_pos h, hsigned h]
    omega
  · have hn := mt (hle n).mpr h
    rw [if_neg h, hsigned (UInt64.le_refl gaugeMax), hmax]
    omega

/-- **The samples account for what was recorded**, also at the limits of their words. A counter is
what was added to it, modulo the size of a word, and a labelled sample is there once its label was
recorded; the gauge is what it was last set to, but not more than the largest signed word and never
negative. A report changes no sample but its own. In which order the reports come counts neither for
the counters nor for the buckets, which count the durations up to their bounds. All these samples
are shown, and no others. -/
theorem samples_account (us : List MetricsUpdate) (double : Float → String) :
    let r := after us
    (∀ s : Sample, s.IsCounter → ∀ n ∈ r.value? s, n.toNat = s.total us % 2 ^ 64)
    ∧ (∀ s : Sample, (r.value? s).isSome ↔ s = .flushed ∨ s.amounts us ≠ [])
    ∧ (∀ state, (r.value? (.marked state)).map (·.toInt64.toInt)
        = ((Sample.marked state).amounts us).getLast?.map fun n => min (n.toNat : Int) (2 ^ 63 - 1))
    ∧ (∀ state, ∀ n ∈ r.value? (.marked state), 0 ≤ n.toInt64.toInt)
    ∧ (∀ (q : MetricsRegistry) (u : MetricsUpdate),
        (∀ s, u.target?.map Prod.fst ≠ some s → (q.record u).value? s = q.value? s)
        ∧ (u.seconds? = none → (q.record u).flushTime = q.flushTime))
    ∧ (∀ us', us.Perm us' →
        (∀ s : Sample, s.IsCounter → (after us').value? s = r.value? s)
        ∧ (after us').flushTime.count = r.flushTime.count
        ∧ (after us').flushTime.buckets = r.flushTime.buckets)
    ∧ r.flushTime.Counts (us.filterMap MetricsUpdate.seconds?)
    ∧ ∀ line : String, line.toList.head? ≠ some '#' → (line ∈ r.lines double
        ↔ (∃ s n, r.value? s = some n ∧ line = s.line n) ∨ line ∈ r.flushTime.lines double) := by
  intro r
  have hgauge (state : String) : (r.value? (.marked state)).map (·.toInt64.toInt)
      = ((Sample.marked state).amounts us).getLast?.map
        fun n => min (n.toNat : Int) (2 ^ 63 - 1) := by
    simp only [r, value?_after_marked, Option.map_map, Function.comp_def, toInt_take_marked]
  refine ⟨?sums, ?present, hgauge, ?signed, ?others, ?order, counts_after us, ?lines⟩
  case sums => exact fun s hs n hn => toNat_value?_after hs hn
  case present => exact isSome_value?_after us
  case signed =>
    intro state n hn
    have hmap := hgauge state
    rw [Option.mem_def.mp hn, Option.map_some] at hmap
    obtain ⟨m, -, hm⟩ := Option.map_eq_some_iff.mp hmap.symm
    omega
  case others => exact fun q u => ⟨fun s hs => q.value?_record_of_ne hs, q.flushTime_record⟩
  case order =>
    intro us' hperm
    have htimes := hperm.filterMap MetricsUpdate.seconds?
    refine ⟨fun s hs => value?_after_perm hs hperm.symm, ?_, ?_⟩
    · rw [(counts_after us').count, (counts_after us).count, htimes.length_eq]
    · rw [(counts_after us').buckets, (counts_after us).buckets]
      simp only [Histogram.below_perm htimes]
  case lines => exact fun line hline => r.mem_lines_iff double hline

/-- A counter that wraps around, a gauge that stops, and a label under which nothing was dropped. -/
theorem samples_account_atLimits :
    let us : List MetricsUpdate := [.transition "active", .dropped "closed" 0,
      .dropped "flush" 0xffffffffffffffff, .flushTime (.ofBits 0x4034000000000000),
      .marked "suppressed" 0xffffffffffffffff, .dropped "flush" 5, .transition "active",
      .flushTime (.ofBits 0x3f60624dd2f1a9fc), .flushed 7]
    (∀ n ∈ (after us).value? (.dropped "flush"), n.toNat = 4)
    ∧ ((after us).value? (.dropped "closed")).isSome
    ∧ ((after us).value? (.marked "suppressed")).map (·.toInt64.toInt) = some (2 ^ 63 - 1)
    ∧ (after us.reverse).value? (.dropped "flush") = (after us).value? (.dropped "flush")
    ∧ ((after us).record (.dropped "closed" 1)).value? (.dropped "flush")
      = (after us).value? (.dropped "flush")
    ∧ (after us).flushTime.buckets.Pairwise (fun b b' => b.2.2 ≤ b'.2.2)
    ∧ ∃ bound, (after us).flushTime.buckets.getLast? = some ("+Inf", bound, 2) := by
  intro us
  obtain ⟨hsums, hpresent, hgauge, -, hothers, horder, hcounts, -⟩ :=
    samples_account us fun _ => ""
  obtain ⟨hcounters, -, -⟩ := horder us.reverse (List.reverse_perm us).symm
  obtain ⟨bound, hlast⟩ := hcounts.unbounded (by decide +kernel)
  refine ⟨fun n hn => ?_, ?_, ?_, hcounters _ trivial, (hothers _ _).1 _ (by decide),
    hcounts.words (by decide), bound, ?_⟩
  · rw [hsums (.dropped "flush") trivial n hn]
    decide
  · exact (hpresent (.dropped "closed")).mpr (.inr (by decide))
  · rw [hgauge "suppressed"]
    decide
  · rw [hlast, hcounts.count]
    rfl

end MetricsRegistry

end AlertLedger
