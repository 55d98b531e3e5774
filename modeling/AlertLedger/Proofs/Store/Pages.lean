/-
# Pages of answers

A reader who cannot take in a long answer asks for it page by page. The offset counts rows that
passed the filters, and so does the limit, so the pages of one size, laid side by side, are the
whole answer, and nothing is left out or given twice (`EventQuery.flatten_pages`).

Between two pages the store may grow. Rows whose ids are larger than those of all rows come behind
them (`Tables.scan_prefix_putAll`), so what was at some place of an answer stays there: a full page
is the same later on, and only the last page may have become longer.

All this is said of the list that goes through the filters. In tables that were written batch by
batch it is the same list for every question, whether the answer goes through the index or not.

The main result is `Store.pages_tile`.
-/
import AlertLedger.Proofs.Store.Readback
import Mathlib.Data.List.Infix

namespace AlertLedger

/-! ### Pages of a list -/

namespace EventQuery

variable {α : Type _} {q : EventQuery} {l l' : List α}

/-- The pages of one size make up the list as far as they go. -/
lemma flatten_pages (q : EventQuery) {size : Nat} (hsize : 0 < size) (l : List α) (n : Nat) :
    ((List.range n).map fun i => { q with limit := size, offset := i * size }.page l).flatten
      = l.take (n * size) := by
  have hpage (o : Nat) : { q with limit := size, offset := o }.page l = (l.drop o).take size :=
    if_neg (Nat.ne_of_gt hsize)
  simp only [hpage]
  induction n with
  | zero => simp
  | succ n ih =>
    rw [List.range_succ, List.map_append, List.flatten_append, ih, List.map_singleton,
      List.flatten_singleton, Nat.succ_mul, List.take_add]

/-- Beyond the end of a list there is nothing. -/
lemma page_eq_nil (h : l.length ≤ q.offset) : q.page l = [] := by
  simp only [page, List.drop_eq_nil_of_le h, List.take_nil, ite_self]

/-- A list that grows at its end keeps its full pages. -/
lemma page_of_full (h : l <+: l') (hlimit : 0 < q.limit) (hfull : (q.page l).length = q.limit) :
    q.page l' = q.page l := by
  obtain ⟨more, rfl⟩ := h
  simp only [page, if_neg (Nat.ne_of_gt hlimit)] at hfull ⊢
  have hroom : q.limit ≤ (l.drop q.offset).length := by
    rw [List.length_take] at hfull
    omega
  rw [List.drop_append, List.take_append_of_le_length hroom]

/-- Without a limit what was given comes first. -/
lemma page_prefix (h : l <+: l') (hlimit : q.limit = 0) : q.page l <+: q.page l' := by
  simp only [page, if_pos hlimit]
  exact h.drop q.offset

end EventQuery

/-! ### Tables that grow at their end -/

namespace Tables

variable {t : Tables} {rows : List (Uuid × List UInt8)} {events : List StateEvent}

/-- Rows with larger ids, in whatever order they are written, come behind those that are there. -/
lemma entries_prefix_putAll (h : rows <+: t.rows.entries)
    (hids : ∀ e ∈ events, ∀ row ∈ rows, compare row.1 e.id = .lt) :
    rows <+: (t.putAll events).rows.entries := by
  induction events generalizing t with
  | nil => exact h
  | cons e events ih =>
    obtain ⟨he, hevents⟩ := List.forall_mem_cons.mp hids
    refine ih ?_ hevents
    obtain ⟨more, hmore⟩ := h
    change rows <+: SortedMap.insertEntry e.id e.encode t.rows.entries
    rw [← hmore, SortedMap.insertEntry_append he]
    exact List.prefix_append _ _

lemma scan_prefix_putAll (urnCase : UrnCase)
    (hids : ∀ e ∈ events, ∀ id ∈ t.rows.keys, compare id e.id = .lt) :
    t.scan urnCase <+: (t.putAll events).scan urnCase := by
  have hrows : t.rows.entries <+: (t.putAll events).rows.entries := by
    refine entries_prefix_putAll List.prefix_rfl ?_
    intro e he row hrow
    exact hids e he _ (List.mem_map_of_mem hrow)
  exact (hrows.map _).filterMap _

/-- The events of written tables ascend by id. -/
lemma Indexed.ascending_scan (h : t.Indexed) (urnCase : UrnCase) :
    (t.scan urnCase).Pairwise StateEvent.Before := by
  have hkeys := t.rows.ascending_keys
  rwa [h.keys_eq urnCase, List.pairwise_map] at hkeys

end Tables

/-! ### Pages of answers -/

namespace Store

/-- The first pages of an answer, each with the same number of rows. -/
def pages (s : Store) (q : EventQuery) (size n : Nat) : Except Fault (List (List StateEvent)) :=
  (List.range n).mapM fun i => s.query { q with limit := size, offset := i * size }

/-- **Pages tile the answer, and a full page is final.**  In a store whose tables were written batch
by batch, whatever the filters, the whole answer to a question ascends strictly by id. Its pages of
any one size, laid side by side, are its first rows, and all of them as soon as the pages reach its
end. An offset without a limit leaves out so many rows at the front; from beyond the end nothing is
given.

When further batches are written, all of whose ids are larger than those of the rows that are there,
the answer from any offset on begins with what it was before, and a page that was full is the same
as before. -/
theorem pages_tile (urnCase : UrnCase) (capacity : Nat) (pending pending' : List StateEvent)
    (batches later : List (List StateEvent)) (q : EventQuery)
    (hlater : ∀ e ∈ later.flatten, ∀ id ∈ (Tables.ofBatches batches).rows.keys,
      compare id e.id = .lt) :
    let before : Store := { tables := .ofBatches batches, pending, capacity, urnCase }
    let after : Store :=
      { tables := .ofBatches (batches ++ later), pending := pending', capacity, urnCase }
    let answer (s : Store) (limit offset : Nat) := s.query { q with limit, offset }
    ∃ rows, answer before 0 0 = .ok rows ∧ rows.Pairwise StateEvent.Before ∧
      (∀ size > 0, ∀ n,
        (before.pages q size n).map List.flatten = .ok (rows.take (n * size)) ∧
          (rows.length ≤ n * size → (before.pages q size n).map List.flatten = .ok rows)) ∧
      (∀ offset, answer before 0 offset = .ok (rows.drop offset)) ∧
      (∀ limit offset, rows.length ≤ offset → answer before limit offset = .ok []) ∧
      (∀ offset, ∃ more, answer after 0 offset = .ok (rows.drop offset ++ more)) ∧
      ∀ size > 0, ∀ offset page, answer before size offset = .ok page → page.length = size →
        answer after size offset = .ok page := by
  intro before after answer
  have hindexed := Tables.indexed_ofBatches batches
  have hindexed' := Tables.indexed_ofBatches (batches ++ later)
  -- Both stores answer from what is left of their rows by the filters.
  set rows := (before.tables.scan urnCase).filter q.accepts
  set rows' := (after.tables.scan urnCase).filter q.accepts
  have hbefore (limit offset : Nat) :
      answer before limit offset = .ok ({ q with limit, offset }.page rows) :=
    congrArg Except.ok (hindexed.query_eq_select_scan urnCase _)
  have hafter (limit offset : Nat) :
      answer after limit offset = .ok ({ q with limit, offset }.page rows') :=
    congrArg Except.ok (hindexed'.query_eq_select_scan urnCase _)
  have hgrown : rows <+: rows' := by
    have hscan := Tables.scan_prefix_putAll urnCase hlater
    rw [← Tables.foldl_putAll, Tables.ofBatches, ← List.foldl_append] at hscan
    exact hscan.filter _
  have htake (size n : Nat) (hsize : 0 < size) :
      (before.pages q size n).map List.flatten = .ok (rows.take (n * size)) := by
    have hpages : before.pages q size n = .ok
        ((List.range n).map fun i => { q with limit := size, offset := i * size }.page rows) := by
      simp only [pages, show ∀ i, before.query { q with limit := size, offset := i * size } = _
        from fun i => hbefore size (i * size)]
      exact List.mapM_pure
    rw [hpages, Except.map, q.flatten_pages hsize]
  refine ⟨rows, ?_, ?_, ?_, ?_, ?_, ?_, ?_⟩
  · rw [hbefore, EventQuery.page_eq_self rfl rfl]
  · exact (hindexed.ascending_scan urnCase).filter _
  · intro size hsize n
    refine ⟨htake size n hsize, ?_⟩
    intro hend
    rw [htake size n hsize, List.take_of_length_le hend]
  · exact fun offset => hbefore 0 offset
  · intro limit offset hend
    rw [hbefore, EventQuery.page_eq_nil hend]
  · intro offset
    obtain ⟨more, hmore⟩ := EventQuery.page_prefix (q := { q with limit := 0, offset }) hgrown rfl
    exact ⟨more, by rw [hafter, ← hmore]; rfl⟩
  · intro size hsize offset page hpage hfull
    rw [hbefore, Except.ok.injEq] at hpage
    subst hpage
    rw [hafter, EventQuery.page_of_full hgrown hsize hfull]

/-- The row with a number, for an alert that becomes active. -/
def activeRow (id : Nat) (alert : Fingerprint) : StateEvent where
  id := .ofNat id
  createdAtNs := 0
  fingerprint := alert
  state := .active

/-- The rows of two alerts in two batches, of which the second one brings smaller ids, too. -/
def twoAlerts : List (List StateEvent) :=
  [[activeRow 2 ⟨1⟩, activeRow 5 ⟨2⟩], [activeRow 4 ⟨1⟩, activeRow 3 ⟨2⟩]]

/-- A batch with larger ids, not in their order. -/
def moreRows : List (List StateEvent) := [[activeRow 9 ⟨1⟩, activeRow 8 ⟨1⟩]]

/-- The first page of an alert's rows is full, and stays what it is when more of them come. -/
theorem pages_tile_twoAlerts :
    let before : Store := { tables := .ofBatches twoAlerts, capacity := 2 }
    let after : Store := { tables := .ofBatches (twoAlerts ++ moreRows), capacity := 2 }
    let q : EventQuery := { fingerprint := some ⟨1⟩ }
    (∀ e ∈ moreRows.flatten, ∀ id ∈ (Tables.ofBatches twoAlerts).rows.keys,
        compare id e.id = .lt) ∧
      (before.pages q 1 2).map List.flatten = .ok [activeRow 2 ⟨1⟩, activeRow 4 ⟨1⟩] ∧
      before.query { q with limit := 2 } = .ok [activeRow 2 ⟨1⟩, activeRow 4 ⟨1⟩] ∧
      after.query { q with limit := 2 } = .ok [activeRow 2 ⟨1⟩, activeRow 4 ⟨1⟩] := by
  intro before after q
  have hids : ∀ e ∈ moreRows.flatten, ∀ id ∈ (Tables.ofBatches twoAlerts).rows.keys,
      compare id e.id = .lt := by decide
  obtain ⟨rows, hall, -, hpages, -, -, -, hfinal⟩ :=
    pages_tile .any 2 [] [] twoAlerts moreRows q hids
  have hrows : before.query q = .ok [activeRow 2 ⟨1⟩, activeRow 4 ⟨1⟩] := by
    decide +kernel
  obtain rfl : rows = _ := Except.ok.inj (hall.symm.trans hrows)
  have hfull : before.query { q with limit := 2 } = .ok [activeRow 2 ⟨1⟩, activeRow 4 ⟨1⟩] := by
    have hone := (hpages 2 (by decide) 1).1
    rw [pages, List.range_one, List.mapM_cons, List.mapM_nil] at hone
    cases hquery : before.query { q with limit := 2, offset := 0 * 2 } with
    | error fault =>
      rw [hquery] at hone
      cases hone
    | ok page =>
      rw [hquery] at hone
      have hpage : page ++ [] = [activeRow 2 ⟨1⟩, activeRow 4 ⟨1⟩] := Except.ok.inj hone
      rw [List.append_nil] at hpage
      rw [← hpage]
  exact ⟨hids, (hpages 1 (by decide) 2).2 (by decide), hfull,
    hfinal 2 (by decide) 0 _ hfull rfl⟩

end Store

end AlertLedger
