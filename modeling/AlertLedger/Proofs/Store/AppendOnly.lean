/-
# Tables that only grow

A row that was written stays as it is, and a batch is written as a whole or not at all, into both
tables at once. That is only so for ids that are new: a row under an id that is in use would take
the place of the other one. `Tables.New` says of rows that neither the rows of the tables nor the
index knows their ids; in written tables it is enough that the rows do not (`Tables.Fresh.new`).

Writing new rows adds just these to both tables (`Tables.New.gains_putAll`), and so leaves the
others in them (`Tables.Gains.toExtends`). What a call makes of the tables is read off the four
things that it can come to (`Store.Outcome.allOrNothing`): each keeps what is yet to come new
(`Store.Outcome.ready`), and that carries both facts through a run.

The main result is `Store.append_only`.
-/
import AlertLedger.Proofs.Store.Account
import AlertLedger.Proofs.Store.Calls
import AlertLedger.Proofs.Store.Index

namespace AlertLedger

/-! ### Growing tables -/

namespace Tables

variable {t t' t'' : Tables} {rows rows' batch batch' : List StateEvent}

/-- Tables that have the rows of a batch besides those before, and keys of the index for them. -/
structure Gains (t : Tables) (batch : List StateEvent) (t' : Tables) : Prop where
  rows : t'.rows.toList.Perm (t.rows.toList ++ batch.map fun e => (e.id, e.encode))
  index : t'.index.keys.Perm (t.index.keys ++ batch.map fun e => ⟨e.fingerprint, e.id⟩)

/-- Tables from which nothing was removed and in which nothing was changed. -/
structure Extends (t t' : Tables) : Prop where
  rows : t.rows.toList.Sublist t'.rows.toList
  index : t.index.keys.Sublist t'.index.keys

namespace Gains

lemma refl (t : Tables) : t.Gains [] t where
  rows := .of_eq (List.append_nil _).symm
  index := .of_eq (List.append_nil _).symm

lemma trans (h : t.Gains batch t') (h' : t'.Gains batch' t'') :
    t.Gains (batch ++ batch') t'' where
  rows := by
    rw [List.map_append, ← List.append_assoc]
    exact h'.rows.trans (h.rows.append_right _)
  index := by
    rw [List.map_append, ← List.append_assoc]
    exact h'.index.trans (h.index.append_right _)

/-- Since the tables are sorted, what is added to them leaves the rest in order. -/
lemma toExtends (h : t.Gains batch t') : t.Extends t' where
  rows := SortedMap.sublist_entries fun _ he => h.rows.mem_iff.mpr (List.mem_append_left _ he)
  index := SortedMap.sublist_of_ascending t.index.ascending_keys t'.index.ascending_keys
    fun _ hk => h.index.mem_iff.mpr (List.mem_append_left _ hk)

end Gains

namespace Extends

lemma refl (t : Tables) : t.Extends t := ⟨.refl _, .refl _⟩

lemma trans (h : t.Extends t') (h' : t'.Extends t'') : t.Extends t'' :=
  ⟨h.rows.trans h'.rows, h.index.trans h'.index⟩

end Extends

/-! ### New rows -/

/-- Rows with distinct ids, which neither the rows of the tables nor the keys of the index have. -/
structure New (t : Tables) (rows : List StateEvent) : Prop extends t.Fresh rows where
  unindexed : ∀ e ∈ rows, t.index.find? ⟨e.fingerprint, e.id⟩ = none

namespace New

lemma sublist (h : t.New rows) (hs : rows'.Sublist rows) : t.New rows' :=
  ⟨h.toFresh.sublist hs, fun e he => h.unindexed e (hs.subset he)⟩

lemma put {e : StateEvent} (h : t.New (e :: rows)) : (t.put e).New rows := by
  refine ⟨h.toFresh.put, ?_⟩
  intro f hf
  have hne : (⟨f.fingerprint, f.id⟩ : IndexKey) ≠ ⟨e.fingerprint, e.id⟩ := by
    intro hkey
    have hid := (IndexKey.mk.inj hkey).2
    exact (List.nodup_cons.mp h.distinct).1 (List.mem_map.mpr ⟨f, hf, hid⟩)
  rw [Tables.put, SortedMap.find?_insert, if_neg hne]
  exact h.unindexed f (List.mem_cons_of_mem e hf)

/-- What is new besides some rows stays so when these are written. -/
lemma putAll (h : t.New (batch ++ rows)) : (t.putAll batch).New rows := by
  induction batch generalizing t with
  | nil => exact h
  | cons e batch ih => exact ih h.put

lemma gains_put {e : StateEvent} (h : t.New (e :: rows)) : t.Gains [e] (t.put e) where
  rows := (SortedMap.perm_insertEntry e.encode (h.unused e List.mem_cons_self)).trans
    (List.perm_append_singleton _ _).symm
  index := ((SortedMap.perm_insertEntry () (h.unindexed e List.mem_cons_self)).map _).trans
    (List.perm_append_singleton _ _).symm

/-- **New rows are added to both tables.** -/
theorem gains_putAll (h : t.New rows) : t.Gains rows (t.putAll rows) := by
  induction rows generalizing t with
  | nil => exact .refl t
  | cons e rows ih => exact h.gains_put.trans (ih h.put)

end New

/-! ### Keys of rows -/

/-- The index has no id that the rows do not have. -/
def Rooted (t : Tables) : Prop := ∀ k ∈ t.index.keys, k.id ∈ t.rows.keys

namespace Rooted

lemma empty : Tables.empty.Rooted := by
  intro k hk
  cases hk

lemma put (h : t.Rooted) (e : StateEvent) : (t.put e).Rooted := by
  intro k hk
  rcases SortedMap.mem_keys_insert.mp hk with rfl | hk
  · exact SortedMap.mem_keys_insert.mpr (.inl rfl)
  · exact SortedMap.mem_keys_insert.mpr (.inr (h k hk))

lemma putAll (h : t.Rooted) (batch : List StateEvent) : (t.putAll batch).Rooted := by
  induction batch generalizing t with
  | nil => exact h
  | cons e batch ih => exact ih (h.put e)

end Rooted

lemma rooted_ofBatches (batches : List (List StateEvent)) : (ofBatches batches).Rooted := by
  rw [ofBatches, foldl_putAll]
  exact Rooted.empty.putAll _

/-- Ids that no row has are new to the index, too, if that has no others. -/
lemma Fresh.new (h : t.Fresh rows) (hrooted : t.Rooted) : t.New rows := by
  refine ⟨h, ?_⟩
  intro e he
  rw [← Option.not_isSome_iff_eq_none, ← SortedMap.mem_keys_iff]
  intro hkey
  have hid := SortedMap.mem_keys_iff.mp (hrooted _ hkey)
  rw [h.unused e he] at hid
  cases hid

end Tables

namespace Store

/-! ### All or nothing -/

/-- The rows that wait and those yet to come are new, and in a closed store none wait. -/
structure Ready (s : Store) (rows : List StateEvent) : Prop where
  new : s.tables.New (s.pending ++ rows)
  idle : s.isOpen = false → s.pending = []

/-- The tables stay as they are, and the rows of a batch all wait or are all gone; or the tables
gain the whole batch. -/
def AllOrNothing (m : Moment) (batch : List StateEvent) (s s' : Store) : Prop :=
  s'.tables = s.tables ∧ (s'.pending = batch ∨ s'.pending = []) ∨
    s.tables.Gains batch s'.tables ∧ s'.pending = [] ∧ batch ≠ [] ∧ m.disk = .working

namespace AllOrNothing

variable {m : Moment} {batch : List StateEvent} {s s' : Store}

lemma toExtends (h : AllOrNothing m batch s s') : s.tables.Extends s'.tables := by
  rcases h with ⟨htables, -⟩ | ⟨hgains, -⟩
  · rw [htables]
    exact .refl _
  · exact hgains.toExtends

end AllOrNothing

section

variable {m : Moment} {c : SinkCall} {s s' : Store} {emitted : List Effect}
  {rows : List StateEvent}

lemma Outcome.allOrNothing (h : Outcome m c s s' emitted) (hs : s.Ready (c.rows m)) :
    AllOrNothing m (s.pending ++ c.rows m) s s' := by
  rw [← waiting_eq]
  cases h with
  | refused ho => exact .inl ⟨rfl, .inr (hs.idle ho)⟩
  | waited => exact .inl ⟨rfl, .inl rfl⟩
  | written _ hne _ hdisk =>
    have hnew : s.tables.New (s.waiting m c) := by
      rw [waiting_eq]
      exact hs.new
    exact .inr ⟨hnew.gains_putAll, rfl, hne, hdisk⟩
  | lost => exact .inl ⟨rfl, .inr rfl⟩

/-- While there is room for the row that comes, nothing is written. -/
lemma Outcome.tables_of_room (h : Outcome m c s s' emitted) (hrows : c.rows m ≠ [])
    (hroom : (s.pending ++ c.rows m).length < s.capacity) : s'.tables = s.tables := by
  rw [← waiting_eq] at hroom
  cases h with
  | written _ _ hfull => exact absurd (hfull hrows) (Nat.not_le_of_lt hroom)
  | refused | waited | lost => rfl

/-- Where nothing waits there is nothing to flush, be the store open or closed. -/
lemma flush_of_pending_eq_nil (m : Moment) (h : s.pending = []) :
    (s.flush m).state = s ∧ (s.flush m).emitted = [] := by
  cases ho : s.isOpen with
  | false =>
    rw [flush_of_closed m ho]
    exact ⟨rfl, rfl⟩
  | true =>
    rw [flush_of_nil m ho h]
    exact ⟨rfl, rfl⟩

lemma Outcome.ready (h : Outcome m c s s' emitted) (hs : s.Ready (c.rows m ++ rows)) :
    s'.Ready rows := by
  refine ⟨?_, h.idle hs.idle⟩
  have hnew := hs.new
  rw [← List.append_assoc, ← waiting_eq] at hnew
  have hrest : s.tables.New rows := hnew.sublist (List.sublist_append_right _ _)
  cases h with
  | refused ho =>
    rw [hs.idle ho]
    exact hrest
  | waited => exact hnew
  | written => exact hnew.putAll
  | lost => exact hrest

end

lemma Ready.start {t : Tables} {rows : List StateEvent} (h : t.New rows) (capacity : Nat) :
    (Store.onTables t capacity).Ready rows :=
  ⟨h, fun _ => rfl⟩

lemma Ready.left {s : Store} {xs ys : List StateEvent} (h : s.Ready (xs ++ ys)) : s.Ready xs := by
  refine ⟨h.new.sublist ?_, h.idle⟩
  rw [← List.append_assoc]
  exact List.sublist_append_left _ _

/-! ### Runs -/

/-- A call on a store whose rows are new writes all that waits or nothing. -/
lemma serve_allOrNothing {m : Moment} {c : Call} {s : Store} (hs : s.Ready (c.rows m)) :
    AllOrNothing m (s.pending ++ c.rows m) s (serve m c s).state := by
  cases c with
  | sink c => exact (perform_outcome m c s).allOrNothing hs
  | query | history | eventCount => exact .inl ⟨rfl, .inl (List.append_nil _).symm⟩

lemma serve_ready {m : Moment} {c : Call} {s : Store} {rows : List StateEvent}
    (hs : s.Ready (c.rows m ++ rows)) : (serve m c s).state.Ready rows := by
  cases c with
  | sink c => exact (perform_outcome m c s).ready hs
  | query | history | eventCount => exact hs

/-- In a run nothing is removed from the tables and nothing is changed in them. -/
theorem serveAll_extends (calls : List (Moment × Call)) {s : Store} {rows : List StateEvent}
    (hs : s.Ready (Call.allRows calls ++ rows)) :
    (serveAll calls s).state.Ready rows ∧
      s.tables.Extends (serveAll calls s).state.tables := by
  induction calls generalizing s with
  | nil => exact ⟨hs, .refl _⟩
  | cons c calls ih =>
    obtain ⟨m, c⟩ := c
    rw [Call.allRows_cons, List.append_assoc] at hs
    obtain ⟨hready, hextends⟩ := ih (serve_ready hs)
    exact ⟨hready, (serve_allOrNothing hs.left).toExtends.trans hextends⟩

/-- **The tables only grow, by whole batches.**  A store is opened on tables and called in any way,
with ids that are new and with disks that work or fail as they like. Each call leaves the tables as
they are, or it adds to both of them all the rows that wait, the one that it brings included, and
this only if the disk works; in no case is a part of the rows written or left waiting. Whatever is
in the tables then stays there, as it is, in all that follows. A row that finds room leaves the
tables alone; to flush when nothing waits does nothing at all and emits nothing, and so does a
question. -/
theorem append_only (t : Tables) (capacity : Nat) (calls later : List (Moment × Call))
    (m : Moment) (c : Call) (hnew : t.New (Call.allRows (calls ++ (m, c) :: later))) :
    let before := (serveAll calls (.onTables t capacity)).state
    let step := serve m c before
    let batch := before.pending ++ c.rows m
    AllOrNothing m batch before step.state ∧
      before.tables.Extends step.state.tables ∧
      step.state.tables.Extends (serveAll later step.state).state.tables ∧
      (∀ e, c = .sink (.append e) → batch.length < max capacity 1 →
        step.state.tables = before.tables) ∧
      (c = .sink .flush → before.pending = [] → step.state = before ∧ step.emitted = []) ∧
      (c.sinkCall? = none → step.state = before ∧ step.emitted = []) := by
  intro before step batch
  rw [Call.allRows_append, Call.allRows_cons] at hnew
  have hbefore : before.Ready (c.rows m ++ Call.allRows later) :=
    (serveAll_extends calls (Ready.start hnew capacity)).1
  have hstep : AllOrNothing m batch before step.state := serve_allOrNothing hbefore.left
  have hafter : step.state.Ready (Call.allRows later ++ []) := by
    rw [List.append_nil]
    exact serve_ready hbefore
  have hcapacity : before.capacity = max capacity 1 := by
    rw [show before = _ from (serveAll_eq_run calls _).1, (settings_run _ _).1]
    rfl
  refine ⟨hstep, hstep.toExtends, (serveAll_extends later hafter).2, ?_, ?_, ?_⟩
  · rintro e rfl hroom
    rw [← hcapacity] at hroom
    exact (perform_outcome m (.append e) before).tables_of_room (List.cons_ne_nil _ _) hroom
  · rintro rfl hnil
    exact flush_of_pending_eq_nil m hnil
  · intro hc
    cases c with
    | sink => cases hc
    | query | history | eventCount => exact ⟨rfl, rfl⟩

/-- The moment with a number, on a disk. -/
def onDisk (disk : Disk) (n : Nat) : Moment := { id := .ofNat n, now := UInt64.ofNat n, disk }

/-- Tables with one row. -/
def oneRow : Tables := .ofBatches [[.transition (onDisk .working 1) ⟨1⟩ .active]]

/-- Two rows are lost, and a third one waits. -/
def lostBatch : List (Moment × Call) :=
  [(onDisk .working 2, .sink (.append ⟨⟨1⟩, .enter .suppressed⟩)),
    (onDisk .working 2, .query {}),
    (onDisk .full 3, .sink (.append ⟨⟨2⟩, .enter .active⟩)),
    (onDisk .working 4, .sink (.append ⟨⟨1⟩, .inhibited ["a"]⟩))]

/-- A row is lost on the way to the close. -/
def lostOnClose : List (Moment × Call) :=
  [(onDisk .working 6, .history ⟨1⟩ 0), (onDisk .failing 6, .sink .flush),
    (onDisk .working 6, .sink (.append ⟨⟨1⟩, .enter .deleted⟩)),
    (onDisk .failing 7, .sink .close), (onDisk .working 8, .sink .close)]

/-- The batch between the lost ones is written, and stays. -/
theorem append_only_betweenLosses :
    let call : Call := .sink (.append ⟨⟨2⟩, .enter .deleted⟩)
    oneRow.New (Call.allRows (lostBatch ++ (onDisk .working 5, call) :: lostOnClose)) ∧
      let before := (serveAll lostBatch (.onTables oneRow 2)).state
      let after := (serve (onDisk .working 5) call before).state
      let last := (serveAll lostOnClose after).state
      before.tables = oneRow ∧
        before.tables.Gains [.inhibited (onDisk .working 4) ⟨1⟩ ["a"],
          .transition (onDisk .working 5) ⟨2⟩ .deleted] after.tables ∧
        after.tables.Extends last.tables ∧ last.isOpen = false := by
  intro call
  have hfresh : oneRow.Fresh
      (Call.allRows (lostBatch ++ (onDisk .working 5, call) :: lostOnClose)) :=
    ⟨by decide, by decide⟩
  have hnew := hfresh.new (Tables.rooted_ofBatches _)
  obtain ⟨hstep, -, hlater, -⟩ :=
    append_only oneRow 2 lostBatch lostOnClose (onDisk .working 5) call hnew
  refine ⟨hnew, rfl, ?_, hlater, rfl⟩
  rcases hstep with ⟨htables, -⟩ | ⟨hgains, -⟩
  · have hsize := congrArg Tables.size htables
    exact absurd hsize (by decide)
  · exact hgains

end Store

end AlertLedger
