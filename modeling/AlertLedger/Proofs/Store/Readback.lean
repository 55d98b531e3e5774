/-
# Written rows read back

A reader passes over a row that it cannot read without a word, so a value that could be written but
not read would be lost and nobody told. There is none: an event is read back from what is written
for it, whatever its id, its time and its texts (`StateEvent.decode?_encode`). Hence a row in
written tables is read as the event for which it was written, under the id of that event
(`Tables.Indexed.entries_eq`), and what is counted is what is found.

The main result is `Store.rows_survive`.
-/
import AlertLedger.Proofs.Store.Index

namespace AlertLedger

/-! ### Events -/

namespace StateEvent

variable (urnCase : UrnCase)

/-- What is read, written and read again is what was read at first. -/
lemma decode?_encode_decode? (bytes : List UInt8) :
    ((decode? urnCase bytes).map encode).bind (decode? urnCase) = decode? urnCase bytes := by
  cases h : decode? urnCase bytes with
  | none => rfl
  | some e => exact decode?_encode urnCase e

end StateEvent

/-! ### Rows -/

/-- To ask for everything is to get everything. -/
lemma EventQuery.select_default (events : List StateEvent) :
    ({} : EventQuery).select events = events := by
  have haccepts : ∀ e ∈ events, ({} : EventQuery).accepts e := fun e _ => rfl
  rw [select, List.filter_eq_self.mpr haccepts]
  rfl

namespace Tables.Indexed

variable {t : Tables}

/-- A row of written tables is the row of the event that is read from it. -/
lemma row_eq (h : t.Indexed) (urnCase : UrnCase) {row : Uuid × List UInt8}
    (hrow : row ∈ t.rows.entries) :
    (StateEvent.decode? urnCase row.2).map (fun e => (e.id, e.encode)) = some row := by
  obtain ⟨e, rfl, -⟩ := h row hrow
  rw [StateEvent.decode?_encode]
  rfl

/-- The rows of written tables are the rows of the events that are read from them, one by one. -/
lemma entries_eq (h : t.Indexed) (urnCase : UrnCase) :
    t.rows.entries = (t.scan urnCase).map fun e => (e.id, e.encode) := by
  have hrows : t.rows.entries.filterMap
      (fun row => (StateEvent.decode? urnCase row.2).map fun e => (e.id, e.encode))
        = t.rows.entries.filterMap some :=
    List.filterMap_congr fun row hrow => h.row_eq urnCase hrow
  rw [List.filterMap_some] at hrows
  rw [scan, SortedMap.values, List.filterMap_map, List.map_filterMap]
  exact hrows.symm

lemma decode?_values (h : t.Indexed) (urnCase : UrnCase) :
    t.rows.values.map (StateEvent.decode? urnCase) = (t.scan urnCase).map some := by
  rw [SortedMap.values, h.entries_eq urnCase, List.map_map, List.map_map]
  simp only [Function.comp_def, StateEvent.decode?_encode]

lemma keys_eq (h : t.Indexed) (urnCase : UrnCase) :
    t.rows.keys = (t.scan urnCase).map (·.id) := by
  rw [SortedMap.keys, h.entries_eq urnCase, List.map_map]
  rfl

lemma size_eq (h : t.Indexed) (urnCase : UrnCase) : t.size = (t.scan urnCase).length := by
  rw [size, SortedMap.size, h.entries_eq urnCase, List.length_map]

/-- Every question is answered from all rows. -/
lemma query_eq_select_scan (h : t.Indexed) (urnCase : UrnCase) (q : EventQuery) :
    t.query urnCase q = q.select (t.scan urnCase) := by
  rw [h.query_eq_answerByScan, select_scan]

end Tables.Indexed

namespace Store

/-- **Rows survive being written.**  Every event is read back from the bytes that are written for
it. Bytes that are read as an event, whatever their form, give the same event again when it is
written and read once more, and what is written for it then is written for it ever after. In a store
whose tables were written batch by batch there is an event for each row, which is read from it and
has the id under which the row lies; every question is answered from all of these events, with no
filters and no limit they are the answer, and they are as many as the store counts. -/
theorem rows_survive (urnCase : UrnCase) (batches : List (List StateEvent))
    (pending : List StateEvent) (capacity : Nat) :
    let decode? := StateEvent.decode? urnCase
    let written : Store := { tables := .ofBatches batches, pending, capacity, urnCase }
    (∀ e : StateEvent, decode? e.encode = some e) ∧
      (∀ bytes, ((decode? bytes).map StateEvent.encode).bind decode? = decode? bytes ∧
        (((decode? bytes).map StateEvent.encode).bind decode?).map StateEvent.encode
          = (decode? bytes).map StateEvent.encode) ∧
      ∃ events : List StateEvent,
        written.tables.rows.values.map decode? = events.map some ∧
          written.tables.rows.keys = events.map (·.id) ∧
          (∀ q, written.query q = .ok (q.select events)) ∧
          written.query {} = .ok events ∧ written.eventCount = .ok events.length := by
  intro decode? written
  have hindexed : written.tables.Indexed := Tables.indexed_ofBatches batches
  have hquery (q : EventQuery) :
      written.query q = .ok (q.select (written.tables.scan urnCase)) :=
    congrArg Except.ok (hindexed.query_eq_select_scan urnCase q)
  refine ⟨StateEvent.decode?_encode urnCase, ?_,
    written.tables.scan urnCase, ?_, ?_, hquery, ?_, ?_⟩
  · intro bytes
    have hagain := StateEvent.decode?_encode_decode? urnCase bytes
    exact ⟨hagain, congrArg (Option.map StateEvent.encode) hagain⟩
  · exact hindexed.decode?_values urnCase
  · exact hindexed.keys_eq urnCase
  · rw [hquery, EventQuery.select_default]
  · exact congrArg Except.ok (hindexed.size_eq urnCase)

end Store

end AlertLedger
