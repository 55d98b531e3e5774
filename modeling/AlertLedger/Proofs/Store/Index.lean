/-
# The index of tables

A question about one alert is answered through the index, any other one by going through the rows.
The two ways read two tables, and this file is about how far they agree.

In any tables, whatever lies in them, the index leads to nothing that is not among the rows, so an
answer that goes through the index is a part of the one that goes through the rows; what cannot be
read is passed over on both ways. In tables that were written batch by batch the index leads to
every row (`Tables.Indexed`), even where ids were used again and old keys of the index lead to rows
of other alerts by now. There the two ways give the same.

Both are statements on ascending lists of ids, of which only those count that lead to an event. The
main results are

* `Tables.lookup_sublist_scan`: the index leads to nothing but rows;
* `Tables.Indexed.filter_lookup`: in written tables it leads to all that are accepted;
* `Tables.query_forAlert_putAll`: rows with larger ids come last in the history of their alert;
* `Store.query_through_index`: what follows for the answers of a store.
-/
import AlertLedger.Proofs.Store.Tables
import AlertLedger.Store

namespace AlertLedger

namespace Tables

/-! ### Two ways to the rows -/

section

variable (t : Tables) (urnCase : UrnCase)

/-- To go through the rows is to go through their ids. -/
lemma scan_eq : t.scan urnCase = t.rows.keys.filterMap (t.event? urnCase) :=
  t.rows.filterMap_values _

variable {t urnCase} {alert : Fingerprint} {id : Uuid}

/-- Only rows hold events. -/
lemma mem_keys_of_event? (h : (t.event? urnCase id).isSome) : id ∈ t.rows.keys := by
  rw [SortedMap.mem_keys_iff]
  obtain ⟨e, he⟩ := Option.isSome_iff_exists.mp h
  obtain ⟨value, hvalue, -⟩ := Option.bind_eq_some_iff.mp he
  rw [hvalue]
  rfl

lemma mem_idsOf : id ∈ t.idsOf alert ↔ ⟨alert, id⟩ ∈ t.index.keys := by
  simp only [idsOf, List.mem_map, List.mem_filter, beq_iff_eq]
  constructor
  · rintro ⟨⟨other, id⟩, ⟨hkey, rfl⟩, rfl⟩
    exact hkey
  · intro hkey
    exact ⟨_, ⟨hkey, rfl⟩, rfl⟩

variable (t alert)

lemma ascending_idsOf : (t.idsOf alert).Pairwise fun a b => compare a b = .lt := by
  refine List.pairwise_map.mpr (List.pairwise_filter.mpr (t.index.ascending_keys.imp ?_))
  rintro ⟨a, i⟩ ⟨b, j⟩ hij ha hb
  obtain rfl : a = alert := by simpa using ha
  obtain rfl : b = a := by simpa using hb
  rwa [compare_indexKey] at hij

/-- **The index leads to nothing but rows.**  Whatever lies in the tables, what is found through
the index is a part of what is found by going through the rows, in the same order. -/
theorem lookup_sublist_scan (urnCase : UrnCase) :
    (t.lookup urnCase alert).Sublist (t.scan urnCase) := by
  rw [scan_eq]
  refine SortedMap.filterMap_sublist_of_ascending (t.ascending_idsOf alert)
    t.rows.ascending_keys ?_
  intro id _ hevent
  exact mem_keys_of_event? hevent

end

/-! ### Written tables -/

/-- New tables after some batches. -/
def ofBatches (batches : List (List StateEvent)) : Tables := batches.foldl putAll empty

/-- Every row is the row of an event, and the index leads there from the event's alert. -/
def Indexed (t : Tables) : Prop :=
  ∀ row ∈ t.rows.entries,
    ∃ e : StateEvent, row = (e.id, e.encode) ∧ ⟨e.fingerprint, e.id⟩ ∈ t.index.keys

namespace Indexed

variable {t : Tables}

lemma empty : Tables.empty.Indexed := by
  intro row hrow
  cases hrow

/-- A row that takes the place of another one leaves the old key in the index, which does no
harm. -/
lemma put (h : t.Indexed) (e : StateEvent) : (t.put e).Indexed := by
  intro row hrow
  rcases SortedMap.mem_insertEntry hrow with rfl | hrow
  · exact ⟨e, rfl, SortedMap.mem_keys_insert.mpr (.inl rfl)⟩
  · obtain ⟨f, hf, hkey⟩ := h row hrow
    exact ⟨f, hf, SortedMap.mem_keys_insert.mpr (.inr hkey)⟩

lemma putAll (h : t.Indexed) (batch : List StateEvent) : (t.putAll batch).Indexed := by
  induction batch generalizing t with
  | nil => exact h
  | cons e batch ih => exact ih (h.put e)

lemma foldl_putAll (h : t.Indexed) (batches : List (List StateEvent)) :
    (batches.foldl Tables.putAll t).Indexed := by
  induction batches generalizing t with
  | nil => exact h
  | cons batch batches ih => exact ih (h.putAll batch)

/-- The row of an id has an event, to which the index leads. -/
lemma exists_event (h : t.Indexed) (urnCase : UrnCase) {id : Uuid} {e : StateEvent}
    (he : t.event? urnCase id = some e) : id ∈ t.idsOf e.fingerprint := by
  rw [event?, Option.bind_eq_some_iff] at he
  obtain ⟨value, hvalue, hdecode⟩ := he
  obtain ⟨f, hrow, hkey⟩ := h _ (SortedMap.mem_of_find? hvalue)
  rw [Prod.mk.injEq] at hrow
  rw [hrow.2, StateEvent.decode?_encode, Option.some.injEq] at hdecode
  rw [← hdecode, hrow.1]
  exact mem_idsOf.mpr hkey

/-- **In written tables the index leads to every row.**  A question about one alert is answered
through the index as it would be by going through the rows. -/
theorem filter_lookup (h : t.Indexed) (urnCase : UrnCase) {q : EventQuery} {alert : Fingerprint}
    (hq : q.fingerprint = some alert) :
    (t.lookup urnCase alert).filter q.accepts = (t.scan urnCase).filter q.accepts := by
  rw [scan_eq, lookup, List.filter_filterMap, List.filter_filterMap]
  refine SortedMap.filterMap_eq_of_ascending (t.ascending_idsOf alert) t.rows.ascending_keys ?_
  intro id hsome
  obtain ⟨e, he⟩ := Option.isSome_iff_exists.mp hsome
  obtain ⟨he, haccepts⟩ := Option.filter_eq_some_iff.mp he
  have halert : e.fingerprint = alert := by
    simp only [EventQuery.accepts, hq, Option.all_some, Bool.and_eq_true, beq_iff_eq] at haccepts
    exact haccepts.1.1.1.1
  refine iff_of_true ?_ ?_
  · rw [← halert]
    exact h.exists_event urnCase he
  · exact mem_keys_of_event? (Option.isSome_of_mem he)

end Indexed

lemma indexed_ofBatches (batches : List (List StateEvent)) : (ofBatches batches).Indexed :=
  Indexed.empty.foldl_putAll batches

/-! ### Unreadable rows -/

/-- The tables without the rows that cannot be read. -/
def readable (t : Tables) (urnCase : UrnCase) : Tables where
  rows := t.rows.restrict fun value => (StateEvent.decode? urnCase value).isSome
  index := t.index

lemma event?_readable (t : Tables) (urnCase : UrnCase) (id : Uuid) :
    (t.readable urnCase).event? urnCase id = t.event? urnCase id := by
  rw [event?, readable, SortedMap.find?_restrict, event?]
  cases t.rows.find? id with
  | none => rfl
  | some value =>
    cases h : StateEvent.decode? urnCase value with
    | none => simp [Option.filter, h]
    | some e => simp [Option.filter, h]

/-- Rows that cannot be read are passed over, whatever is asked. -/
lemma query_readable (t : Tables) (urnCase : UrnCase) (q : EventQuery) :
    (t.readable urnCase).query urnCase q = t.query urnCase q := by
  have hevent : (t.readable urnCase).event? urnCase = t.event? urnCase :=
    funext (t.event?_readable urnCase)
  have hscan : (t.readable urnCase).scan urnCase = t.scan urnCase := by
    rw [scan_eq, scan_eq, hevent]
    refine SortedMap.filterMap_eq_of_ascending (SortedMap.ascending_keys _)
      t.rows.ascending_keys ?_
    intro id hsome
    have hsome' : ((t.readable urnCase).event? urnCase id).isSome := by
      rw [hevent]
      exact hsome
    exact iff_of_true (mem_keys_of_event? hsome') (mem_keys_of_event? hsome)
  have hlookup (alert : Fingerprint) :
      (t.readable urnCase).lookup urnCase alert = t.lookup urnCase alert := by
    rw [lookup, hevent]
    rfl
  simp only [query, hscan, hlookup]

/-! ### Larger ids -/

section

variable {t : Tables} {e : StateEvent} {alert : Fingerprint}

lemma event?_put (t : Tables) (urnCase : UrnCase) (e : StateEvent) (id : Uuid) :
    (t.put e).event? urnCase id = if id = e.id then some e else t.event? urnCase id := by
  rw [event?, put, SortedMap.find?_insert]
  split_ifs
  · rw [Option.bind_some, StateEvent.decode?_encode]
  · rfl

lemma mem_idsOf_put {id : Uuid} :
    id ∈ (t.put e).idsOf alert ↔ e.fingerprint = alert ∧ id = e.id ∨ id ∈ t.idsOf alert := by
  rw [mem_idsOf, put, SortedMap.mem_keys_insert, ← mem_idsOf, IndexKey.mk.injEq, eq_comm]

/-- The ids that the index has for an alert and that lead to events of this alert. -/
def historyIds (t : Tables) (urnCase : UrnCase) (alert : Fingerprint) : List Uuid :=
  (t.idsOf alert).filter fun id => (t.event? urnCase id).any (·.fingerprint == alert)

lemma mem_historyIds {urnCase : UrnCase} {id : Uuid} :
    id ∈ t.historyIds urnCase alert ↔
      id ∈ t.idsOf alert ∧ ∃ e, t.event? urnCase id = some e ∧ e.fingerprint = alert := by
  simp only [historyIds, List.mem_filter, Option.any_eq_true, beq_iff_eq]

lemma ascending_historyIds (t : Tables) (urnCase : UrnCase) (alert : Fingerprint) :
    (t.historyIds urnCase alert).Pairwise fun a b => compare a b = .lt :=
  (t.ascending_idsOf alert).filter _

/-- The history of an alert are the events of these ids. -/
lemma query_forAlert (t : Tables) (urnCase : UrnCase) (alert : Fingerprint) :
    t.query urnCase (.forAlert alert 0)
      = (t.historyIds urnCase alert).filterMap (t.event? urnCase) := by
  change (EventQuery.forAlert alert 0).select (t.lookup urnCase alert) = _
  rw [EventQuery.select_forAlert, lookup, List.filter_filterMap, historyIds,
    List.filterMap_filter]
  refine List.filterMap_congr ?_
  intro id _
  cases t.event? urnCase id <;> simp [Option.filter]

/-- A row whose id is larger than those of all rows comes last among the ids of its alert. It counts
for no other alert, even if the index has its id there. -/
lemma historyIds_put (urnCase : UrnCase) (hnew : ∀ id ∈ t.rows.keys, compare id e.id = .lt) :
    (t.put e).historyIds urnCase alert
      = t.historyIds urnCase alert ++ if e.fingerprint = alert then [e.id] else [] := by
  have hsmaller : ∀ id ∈ t.historyIds urnCase alert, compare id e.id = .lt := by
    intro id hid
    obtain ⟨-, f, hf, -⟩ := mem_historyIds.mp hid
    exact hnew id (mem_keys_of_event? (Option.isSome_of_mem hf))
  refine SortedMap.eq_of_ascending ((t.put e).ascending_historyIds urnCase alert) ?_ ?_
  · refine List.pairwise_append.mpr ⟨t.ascending_historyIds urnCase alert, ?_, ?_⟩
    · split_ifs <;> simp
    · intro id hid id' hid'
      obtain rfl : id' = e.id := by
        split_ifs at hid' with halert
        · exact List.mem_singleton.mp hid'
        · cases hid'
      exact hsmaller id hid
  · intro id
    rw [List.mem_append, mem_historyIds, mem_historyIds, mem_idsOf_put, event?_put]
    by_cases hid : id = e.id
    · subst hid
      have hfresh : ¬ ∃ f, t.event? urnCase e.id = some f ∧ f.fingerprint = alert := by
        rintro ⟨f, hf, -⟩
        have := hnew _ (mem_keys_of_event? (Option.isSome_of_mem hf))
        simp at this
      by_cases halert : e.fingerprint = alert <;> simp [hfresh, halert]
    · by_cases halert : e.fingerprint = alert <;> simp [hid, halert]

/-- A row whose id is larger than those of all rows comes last in the history of its alert and in
no other one. -/
lemma query_forAlert_put (urnCase : UrnCase)
    (hnew : ∀ id ∈ t.rows.keys, compare id e.id = .lt) :
    (t.put e).query urnCase (.forAlert alert 0)
      = t.query urnCase (.forAlert alert 0) ++ if e.fingerprint = alert then [e] else [] := by
  rw [query_forAlert, query_forAlert, historyIds_put urnCase hnew, List.filterMap_append]
  congr 1
  · refine List.filterMap_congr ?_
    intro id hid
    obtain ⟨-, f, hf, -⟩ := mem_historyIds.mp hid
    have hne : id ≠ e.id := by
      rintro rfl
      have := hnew _ (mem_keys_of_event? (Option.isSome_of_mem hf))
      simp at this
    rw [event?_put, if_neg hne]
  · split_ifs <;> simp [event?_put]

/-- **Rows with larger ids come last in the history of their alert.**  This holds for any tables,
whatever lies in them. -/
theorem query_forAlert_putAll (urnCase : UrnCase) (alert : Fingerprint) {t : Tables}
    {batch : List StateEvent} (hids : batch.Pairwise StateEvent.Before)
    (hnew : ∀ e ∈ batch, ∀ id ∈ t.rows.keys, compare id e.id = .lt) :
    (t.putAll batch).query urnCase (.forAlert alert 0)
      = t.query urnCase (.forAlert alert 0) ++ batch.filter (·.fingerprint = alert) := by
  induction batch generalizing t with
  | nil => exact (List.append_nil _).symm
  | cons e batch ih =>
    obtain ⟨hbefore, hrest⟩ := List.pairwise_cons.mp hids
    obtain ⟨he, hbatch⟩ := List.forall_mem_cons.mp hnew
    have hnew' : ∀ f ∈ batch, ∀ id ∈ (t.put e).rows.keys, compare id f.id = .lt := by
      intro f hf id hid
      rcases SortedMap.mem_keys_insert.mp hid with rfl | hid
      · exact hbefore f hf
      · exact hbatch f hf id hid
    change ((t.put e).putAll batch).query urnCase _ = _
    rw [ih hrest hnew', query_forAlert_put urnCase he, List.append_assoc, List.filter_cons]
    split_ifs <;> simp_all

end

end Tables

/-! ### The answers of a store -/

namespace EventQuery

variable {α : Type _} {q : EventQuery}

lemma page_sublist (q : EventQuery) (l : List α) : (q.page l).Sublist l := by
  unfold page
  split_ifs
  · exact List.drop_sublist _ _
  · exact (List.take_sublist _ _).trans (List.drop_sublist _ _)

lemma page_eq_self (hlimit : q.limit = 0) (hoffset : q.offset = 0) (l : List α) :
    q.page l = l := by
  simp only [page, hlimit, hoffset, List.drop_zero, if_true]

end EventQuery

/-- The answer to a question, found by going through all rows. -/
def Tables.answerByScan (t : Tables) (urnCase : UrnCase) (q : EventQuery) : List StateEvent :=
  let events := t.rows.toList.filterMap fun row => StateEvent.decode? urnCase row.2
  let rest := (events.filter q.accepts).drop q.offset
  if q.limit = 0 then rest else rest.take q.limit

lemma Tables.select_scan (t : Tables) (urnCase : UrnCase) (q : EventQuery) :
    q.select (t.scan urnCase) = t.answerByScan urnCase q := by
  rw [scan, SortedMap.values, List.filterMap_map]
  rfl

namespace Tables

lemma Indexed.query_eq_answerByScan {t : Tables} (h : t.Indexed) (urnCase : UrnCase)
    (q : EventQuery) : t.query urnCase q = t.answerByScan urnCase q := by
  rw [← select_scan]
  cases hq : q.fingerprint with
  | none => simp only [query, hq]
  | some alert =>
    simp only [query, hq, EventQuery.select]
    rw [h.filter_lookup urnCase hq]

/-- What is found on either way is read from rows. -/
lemma query_eq_select (t : Tables) (urnCase : UrnCase) (q : EventQuery) :
    ∃ events, t.query urnCase q = q.select events ∧ events.Sublist (t.scan urnCase) := by
  cases hq : q.fingerprint with
  | none => exact ⟨t.scan urnCase, by simp only [query, hq], .refl _⟩
  | some alert => exact ⟨_, by simp only [query, hq], t.lookup_sublist_scan alert urnCase⟩

lemma exists_row_of_mem_query (t : Tables) {urnCase : UrnCase} {q : EventQuery} {e : StateEvent}
    (he : e ∈ t.query urnCase q) :
    q.accepts e ∧ ∃ row ∈ t.rows.toList, StateEvent.decode? urnCase row.2 = some e := by
  obtain ⟨events, hevents, hsub⟩ := t.query_eq_select urnCase q
  rw [hevents] at he
  obtain ⟨he, haccepts⟩ := List.mem_filter.mp (q.page_sublist _ |>.subset he)
  refine ⟨haccepts, ?_⟩
  obtain ⟨value, hvalue, hdecode⟩ := List.mem_filterMap.mp (hsub.subset he)
  obtain ⟨row, hrow, rfl⟩ := List.mem_map.mp hvalue
  exact ⟨row, hrow, hdecode⟩

lemma query_sublist_answerByScan (t : Tables) (urnCase : UrnCase) {q : EventQuery}
    (hlimit : q.limit = 0) (hoffset : q.offset = 0) :
    (t.query urnCase q).Sublist (t.answerByScan urnCase q) := by
  obtain ⟨events, hevents, hsub⟩ := t.query_eq_select urnCase q
  rw [hevents, ← select_scan, EventQuery.select, EventQuery.select,
    EventQuery.page_eq_self hlimit hoffset, EventQuery.page_eq_self hlimit hoffset]
  exact hsub.filter _

end Tables

namespace Store

/-- **An answer through the index is the answer of a scan.**  In a store whose tables were written
batch by batch, the index has every row under the alert of its event, and every question is answered
as by going through all rows, decoding each of them and applying the filters, the offset and the
limit. In a store with any tables whatsoever every question has an answer, and it is the same
without the rows that cannot be read; all events in it are read from rows and accepted, and without
a limit and an offset they are a part of what a scan gives, in the same order. -/
theorem query_through_index (batches : List (List StateEvent)) (t : Tables)
    (pending : List StateEvent) (capacity : Nat) (urnCase : UrnCase) (q : EventQuery) :
    let written : Store := { tables := .ofBatches batches, pending, capacity, urnCase }
    let found : Store := { tables := t, pending, capacity, urnCase }
    (∀ row ∈ written.tables.rows.toList, ∃ e, StateEvent.decode? urnCase row.2 = some e ∧
        e.id = row.1 ∧ ⟨e.fingerprint, row.1⟩ ∈ written.tables.index.keys) ∧
      written.query q = .ok (written.tables.answerByScan urnCase q) ∧
      (∃ events, found.query q = .ok events ∧
        { found with tables := t.readable urnCase }.query q = .ok events ∧
        ∀ e ∈ events, q.accepts e ∧
          ∃ row ∈ t.rows.toList, StateEvent.decode? urnCase row.2 = some e) ∧
      ∃ events, found.query { q with limit := 0, offset := 0 } = .ok events ∧
        events.Sublist (t.answerByScan urnCase { q with limit := 0, offset := 0 }) := by
  intro written found
  have hindexed := Tables.indexed_ofBatches batches
  refine ⟨?_, ?_, ?_, ?_⟩
  · intro row hrow
    obtain ⟨e, hvalue, hkey⟩ := hindexed row hrow
    refine ⟨e, ?_, ?_, ?_⟩
    · rw [hvalue, StateEvent.decode?_encode]
    · rw [hvalue]
    · rw [hvalue]
      exact hkey
  · change Except.ok (Tables.query _ urnCase q) = _
    rw [hindexed.query_eq_answerByScan]
  · refine ⟨t.query urnCase q, rfl, congrArg Except.ok (t.query_readable urnCase q), ?_⟩
    intro e he
    exact t.exists_row_of_mem_query he
  · exact ⟨_, rfl, t.query_sublist_answerByScan urnCase rfl rfl⟩

end Store

end AlertLedger
