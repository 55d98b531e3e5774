/-
# The rows of tables

Tables hold events, in this order, if going through the rows is going through the events and the
index leads, for every alert, to the rows of its events in the same order (`Tables.Holds`). New
tables hold nothing, and to write an event whose id is larger than all before is to add it at the
end. What the tables answer follows from what they hold: all events, or all those of one alert.
-/
import AlertLedger.Proofs.Encoding.Event
import AlertLedger.Proofs.SortedMap
import AlertLedger.Store.Tables
import Mathlib.Data.List.Basic

namespace AlertLedger

/-- An event with a smaller id. -/
def StateEvent.Before (e f : StateEvent) : Prop := compare e.id f.id = .lt

instance : DecidableRel StateEvent.Before := fun e f =>
  inferInstanceAs (Decidable (compare e.id f.id = .lt))

/-- To ask for one alert is to ask for its events, all of them. -/
lemma EventQuery.select_forAlert (alert : Fingerprint) (events : List StateEvent) :
    (EventQuery.forAlert alert 0).select events = events.filter fun e => e.fingerprint == alert := by
  have haccepts : (EventQuery.forAlert alert 0).accepts = fun e => e.fingerprint == alert := by
    funext e
    simp [EventQuery.accepts, EventQuery.forAlert]
  rw [EventQuery.select, haccepts]
  rfl

/-- The tables hold these events and no others, in the order of their ids. -/
structure Tables.Holds (t : Tables) (events : List StateEvent) : Prop where
  ascending : events.Pairwise StateEvent.Before
  rows : t.rows.entries = events.map fun e => (e.id, e.encode)
  index : ∀ alert, t.idsOf alert = (events.filter (·.fingerprint = alert)).map (·.id)

namespace Tables

/-! ### Writing -/

lemma putAll_append (t : Tables) (es fs : List StateEvent) :
    t.putAll (es ++ fs) = (t.putAll es).putAll fs := by
  rw [putAll, putAll, putAll, List.foldl_append]

/-- Batches that are written one after the other come to one with all their rows. -/
lemma foldl_putAll (t : Tables) (batches : List (List StateEvent)) :
    batches.foldl putAll t = t.putAll batches.flatten := by
  induction batches generalizing t with
  | nil => rfl
  | cons batch batches ih => rw [List.foldl_cons, ih, List.flatten_cons, putAll_append]

lemma idsOf_eq (t : Tables) (alert : Fingerprint) :
    t.idsOf alert = (t.index.entries.filter fun e => e.1.alert == alert).map (·.1.id) := by
  rw [idsOf, SortedMap.keys, List.filter_map, List.map_map]
  rfl

/-- Keys of one alert compare by id. -/
lemma compare_indexKey (alert : Fingerprint) (a b : Uuid) :
    compare (IndexKey.mk alert a) (IndexKey.mk alert b) = compare a b := by
  change (compare alert alert).then (compare a b) = compare a b
  rw [Std.compare_self]
  rfl

namespace Holds

variable {t : Tables} {events : List StateEvent}

lemma empty : Tables.empty.Holds [] := ⟨.nil, rfl, fun _ => rfl⟩

/-- An event whose id is larger than all before is added at the end. -/
lemma put (h : t.Holds events) {e : StateEvent} (he : ∀ f ∈ events, f.Before e) :
    (t.put e).Holds (events ++ [e]) := by
  refine ⟨?_, ?_, ?_⟩
  · refine List.pairwise_append.mpr ⟨h.ascending, List.pairwise_singleton _ _, ?_⟩
    intro f hf e' he'
    rw [List.mem_singleton.mp he']
    exact he f hf
  · have hlast : ∀ x ∈ t.rows.entries, compare x.1 e.id = .lt := by
      intro x hx
      rw [h.rows] at hx
      obtain ⟨f, hf, rfl⟩ := List.mem_map.mp hx
      exact he f hf
    change SortedMap.insertEntry e.id e.encode t.rows.entries = _
    rw [SortedMap.insertEntry_of_last _ hlast, h.rows, List.map_append,
      List.map_singleton]
  · intro alert
    have hindex := h.index alert
    rw [idsOf_eq] at hindex ⊢
    change ((SortedMap.insertEntry ⟨e.fingerprint, e.id⟩ () t.index.entries).filter _).map _ = _
    by_cases hf : e.fingerprint = alert
    · subst hf
      -- Among the keys of its own alert the new one is the largest; those of others may be larger.
      have hlast : ∀ x ∈ t.index.entries, x.1.alert == e.fingerprint →
          compare x.1 ⟨e.fingerprint, e.id⟩ = .lt := by
        rintro ⟨⟨alert, id⟩, _⟩ hx hk
        obtain rfl : alert = e.fingerprint := by simpa using hk
        have hid : id ∈ (events.filter (·.fingerprint = e.fingerprint)).map (·.id) := by
          rw [← hindex]
          exact List.mem_map.mpr ⟨_, List.mem_filter.mpr ⟨hx, hk⟩, rfl⟩
        obtain ⟨f, hf, rfl⟩ := List.mem_map.mp hid
        rw [compare_indexKey]
        exact he f (List.mem_filter.mp hf).1
      rw [SortedMap.filter_insertEntry_of_last (p := fun k : IndexKey => k.alert == e.fingerprint)
        (by simp) () t.index.sorted hlast, List.map_append, hindex, List.filter_append,
        List.map_append]
      simp
    · rw [SortedMap.filter_insertEntry_of_neg (p := fun k : IndexKey => k.alert == alert)
        (by simpa using hf), hindex, List.filter_append]
      simp [hf]

lemma putAll (h : t.Holds events) (batch : List StateEvent)
    (hb : (events ++ batch).Pairwise StateEvent.Before) :
    (t.putAll batch).Holds (events ++ batch) := by
  induction batch generalizing t events with
  | nil =>
    rw [List.append_nil]
    exact h
  | cons e batch ih =>
    rw [List.append_cons] at hb ⊢
    refine ih (h.put ?_) hb
    intro f hf
    have := (List.pairwise_append.mp (List.pairwise_append.mp hb).1).2.2
    exact this f hf e List.mem_cons_self

/-! ### Reading -/

lemma event?_eq (h : t.Holds events) (urnCase : UrnCase) {e : StateEvent} (he : e ∈ events) :
    t.event? urnCase e.id = some e := by
  have hmem : (e.id, e.encode) ∈ t.rows.entries := by
    rw [h.rows]
    exact List.mem_map.mpr ⟨e, he, rfl⟩
  rw [event?, SortedMap.find?_of_mem hmem, Option.bind_some, StateEvent.decode?_encode]

/-- To go through the rows is to go through the events. -/
lemma scan_eq (h : t.Holds events) (urnCase : UrnCase) : t.scan urnCase = events := by
  have hall : ∀ e ∈ events, (StateEvent.decode? urnCase ∘ StateEvent.encode) e = some e := by
    intro e _
    exact StateEvent.decode?_encode urnCase e
  have hvalues : t.rows.values = events.map StateEvent.encode := by
    simp only [SortedMap.values, h.rows, List.map_map, Function.comp_def]
  rw [scan, hvalues, List.filterMap_map, List.filterMap_congr hall, List.filterMap_some]

/-- The index leads to all events of an alert. -/
lemma lookup_eq (h : t.Holds events) (urnCase : UrnCase) (alert : Fingerprint) :
    t.lookup urnCase alert = events.filter (·.fingerprint = alert) := by
  have hall : ∀ e ∈ events.filter (·.fingerprint = alert),
      (t.event? urnCase ∘ (·.id)) e = some e := by
    intro e he
    exact h.event?_eq urnCase (List.mem_filter.mp he).1
  rw [lookup, h.index, List.filterMap_map, List.filterMap_congr hall, List.filterMap_some]

/-- All events of an alert are the answer to the question for them. -/
lemma query_forAlert_eq (h : t.Holds events) (urnCase : UrnCase) (alert : Fingerprint) :
    t.query urnCase (.forAlert alert 0) = events.filter (·.fingerprint = alert) := by
  change EventQuery.select _ (t.lookup urnCase alert) = _
  rw [h.lookup_eq, EventQuery.select_forAlert, List.filter_filter]
  simp [beq_eq_decide]

end Holds

end Tables

end AlertLedger
