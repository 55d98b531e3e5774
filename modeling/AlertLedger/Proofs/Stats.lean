/-
# Counts of events

Statistics are made one event at a time: the count under a name goes up by one, and a name without
a count gets one. So a map of counts tells how often each name came and nothing else
(`Stats.Tally`), and its values sum up to the number of all names that came. The counts by state
are such a map for the states of the events, one for each, and the counts by reason one for the
reasons, which not every event has (`Stats.counts_ofEvents`).
-/
import AlertLedger.Proofs.SortedMap
import AlertLedger.Stats
import Mathlib.Data.List.Induction

namespace AlertLedger.Stats

/-! ### Counts under names -/

/-- A map tells how often each of some names came. Names that did not come are not in it. -/
structure Tally (m : SortedMap String Nat) (names : List String) : Prop where
  find? : ∀ name, m.find? name = if names.count name = 0 then none else some (names.count name)
  sum : m.values.sum = names.length

namespace Tally

variable {m : SortedMap String Nat} {names : List String}

lemma start : Tally .empty [] where
  find? _ := rfl
  sum := rfl

lemma getD (h : Tally m names) (name : String) : (m.find? name).getD 0 = names.count name := by
  rw [h.find?]
  split_ifs with hzero
  · exact hzero.symm
  · rfl

/-- One more name came. -/
lemma count (h : Tally m names) (name : String) : Tally (count m name) (names ++ [name]) where
  find? := by
    intro other
    rw [Stats.count, SortedMap.find?_alter, List.count_append,
      List.count_singleton, h.getD, h.find?]
    by_cases hname : other = name
    · subst hname
      simp
    · simp [hname, Ne.symm hname]
  sum := by
    have hsum := m.sum_values_insert name ((m.find? name).getD 0 + 1)
    rw [h.sum] at hsum
    rw [Stats.count, SortedMap.alter, List.length_append, List.length_singleton]
    omega

end Tally

/-! ### Counts of events -/

/-- The names of the states that events have, one for each. -/
def stateNames (events : List StateEvent) : List String := events.map fun e => e.state.name

/-- The names of the reasons that events have, one for each that has one. -/
def reasonNames (events : List StateEvent) : List String :=
  events.filterMap fun e => e.suppressedReason.map SuppressionReason.name

/-- Statistics count some events. -/
structure Counts (s : Stats) (events : List StateEvent) : Prop where
  total : s.total = events.length
  byState : Tally s.byState (stateNames events)
  byReason : Tally s.byReason (reasonNames events)

variable {s : Stats} {events : List StateEvent}

/-- One more event is counted. -/
lemma Counts.add (h : s.Counts events) (e : StateEvent) : (s.add e).Counts (events ++ [e]) where
  total := by
    rw [Stats.add, h.total, List.length_append, List.length_singleton]
  byState := by
    rw [stateNames, List.map_append, List.map_singleton]
    exact h.byState.count e.state.name
  byReason := by
    rw [reasonNames, List.filterMap_append, Stats.add]
    cases hreason : e.suppressedReason with
    | none =>
      rw [List.filterMap_cons_none (by rw [hreason]; rfl), List.filterMap_nil, List.append_nil]
      exact h.byReason
    | some r =>
      rw [List.filterMap_cons_some (by rw [hreason]; rfl), List.filterMap_nil]
      exact h.byReason.count r.name

/-- **Statistics count the events of which they are.** -/
theorem counts_ofEvents (events : List StateEvent) : (ofEvents events).Counts events := by
  induction events using List.reverseRecOn with
  | nil => exact ⟨rfl, .start, .start⟩
  | append_singleton events e ih =>
    have hadd : ofEvents (events ++ [e]) = (ofEvents events).add e := List.foldl_concat ..
    rw [hadd]
    exact ih.add e

/-! ### What the counts mean -/

lemma count_stateNames (events : List StateEvent) (state : AlertState) :
    (stateNames events).count state.name = (events.filter (·.state == state)).length := by
  have hname (e : StateEvent) : (e.state.name == state.name) = (e.state == state) := by
    cases e.state <;> cases state <;> decide
  rw [stateNames, List.count, List.countP_map, List.countP_eq_length_filter]
  simp only [Function.comp_def, hname]

lemma count_reasonNames (events : List StateEvent) (reason : SuppressionReason) :
    (reasonNames events).count reason.name
      = (events.filter (·.suppressedReason == some reason)).length := by
  have hname (r : Option SuppressionReason) :
      (r.map SuppressionReason.name == some reason.name) = (r == some reason) := by
    cases r with
    | none => rfl
    | some r => cases r <;> cases reason <;> decide
  rw [← List.countP_eq_length_filter]
  induction events with
  | nil => rfl
  | cons e events ih =>
    rw [List.countP_cons, ← ih, reasonNames, List.filterMap_cons, ← hname]
    cases e.suppressedReason with
    | none => rfl
    | some r => exact List.count_cons

/-- There is a reason for each event that has one. -/
lemma length_reasonNames (events : List StateEvent) :
    (reasonNames events).length = (events.filter (·.suppressedReason.isSome)).length := by
  rw [reasonNames, List.length_filterMap_eq_countP, List.countP_eq_length_filter]
  simp only [Option.isSome_map]

/-- A count is that of a selection of events, or there is none if nothing is selected. -/
lemma Tally.find?_eq {m : SortedMap String Nat} {names : List String} {name : String}
    {selected : List StateEvent} (h : Tally m names) (hcount : names.count name = selected.length) :
    m.find? name = if selected = [] then none else some selected.length := by
  rw [h.find?, hcount]
  simp only [List.length_eq_zero_iff]

end AlertLedger.Stats
