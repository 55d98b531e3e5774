/-
# The account of a store

Of every row that is handed to a store it is to be known what became of it. The store itself does
not keep that: rows that are lost leave no trace in it. So an account is kept from outside
(`Account`), call by call: each new row waits at first, and whenever a call emits that rows were
written or dropped, all rows that wait go there. The metrics are kept beside it, and the number of
calls after which the tables were larger.

The account is balanced (`Account.Balanced`) if the store, the metrics and the account say the
same. Every call keeps it balanced, which is shown for the four things that a call can come to.
So no row is lost without being counted, and none is written twice (`Store.rows_accounted`).
-/
import AlertLedger.Proofs.SortedMap
import AlertLedger.Proofs.Store.Run
import AlertLedger.Proofs.Store.Tables
import Mathlib.Data.List.Pairwise

namespace AlertLedger

/-! ### New ids -/

/-- Rows with distinct ids, none of which the tables have. -/
structure Tables.Fresh (t : Tables) (rows : List StateEvent) : Prop where
  distinct : (rows.map (·.id)).Nodup
  unused : ∀ e ∈ rows, t.rows.find? e.id = none

namespace Tables

variable {t : Tables} {rows rows' : List StateEvent}

lemma find?_putAll_of_not_mem (t : Tables) {id : Uuid} (h : id ∉ rows.map (·.id)) :
    (t.putAll rows).rows.find? id = t.rows.find? id := by
  induction rows generalizing t with
  | nil => rfl
  | cons e rows ih =>
    obtain ⟨hne, hrest⟩ := not_or.mp (mt List.mem_cons.mpr h)
    change ((t.put e).putAll rows).rows.find? id = _
    rw [ih (t.put e) hrest, put, SortedMap.find?_insert, if_neg hne]

namespace Fresh

lemma sublist (h : t.Fresh rows) (hs : rows'.Sublist rows) : t.Fresh rows' :=
  ⟨h.distinct.sublist (hs.map _), fun e he => h.unused e (hs.subset he)⟩

lemma put {e : StateEvent} (h : t.Fresh (e :: rows)) : (t.put e).Fresh rows := by
  obtain ⟨hne, hdistinct⟩ := List.nodup_cons.mp h.distinct
  refine ⟨hdistinct, ?_⟩
  intro f hf
  have hfe : f.id ≠ e.id := by
    intro hfe
    exact hne (List.mem_map.mpr ⟨f, hf, hfe⟩)
  rw [Tables.put, SortedMap.find?_insert, if_neg hfe]
  exact h.unused f (List.mem_cons_of_mem e hf)

lemma size_putAll (h : t.Fresh rows) : (t.putAll rows).size = t.size + rows.length := by
  induction rows generalizing t with
  | nil => rfl
  | cons e rows ih =>
    have hput : (t.put e).size = t.size + 1 :=
      SortedMap.size_insert _ (h.unused e List.mem_cons_self)
    change ((t.put e).putAll rows).size = _
    rw [ih h.put, hput, List.length_cons]
    omega

lemma find?_putAll (h : t.Fresh rows) {e : StateEvent} (he : e ∈ rows) :
    (t.putAll rows).rows.find? e.id = some e.encode := by
  induction rows generalizing t with
  | nil => cases he
  | cons f rows ih =>
    change ((t.put f).putAll rows).rows.find? e.id = _
    rcases List.mem_cons.mp he with rfl | he
    · rw [find?_putAll_of_not_mem _ (List.nodup_cons.mp h.distinct).1, Tables.put,
        SortedMap.find?_insert, if_pos rfl]
    · exact ih h.put he

end Fresh

end Tables

/-! ### Places -/

/-- Where a row is that was handed to a store. -/
inductive Place where
  | pending
  | committed
  | dropped (reason : String)
deriving DecidableEq, Repr

/-- Where the rows go that waited, if an effect tells. -/
def Effect.place? : Effect → Option Place
  | .metric (.flushed _) => some .committed
  | .metric (.dropped reason _) => some (.dropped reason)
  | _ => none

namespace Place

/-- The places where a row of a store can be. -/
def all : List Place :=
  [.pending, .committed, .dropped Store.flushReason, .dropped Store.closedReason]

/-- Where the rows go that waited, if all this is emitted. -/
def told (emitted : List Effect) : Place := (emitted.findSome? Effect.place?).getD .pending

/-- Rows with their places, after those that waited went to `p`. -/
def move (p : Place) (placed : List (StateEvent × Place)) : List (StateEvent × Place) :=
  placed.map fun r => if r.2 = .pending then (r.1, p) else r

/-- Rows with their places, after new ones came, which wait. -/
def arrive (rows : List StateEvent) (placed : List (StateEvent × Place)) :
    List (StateEvent × Place) :=
  placed ++ rows.map fun e => (e, .pending)

/-- The rows at a place. -/
def rowsAt (p : Place) (placed : List (StateEvent × Place)) : List StateEvent :=
  (placed.filter (·.2 = p)).map (·.1)

/-- No row that waits came before one that is written. -/
def InOrder (placed : List (StateEvent × Place)) : Prop :=
  placed.Pairwise fun r r' => r.2 = .pending → r'.2 ≠ .committed

variable {p q : Place} {placed : List (StateEvent × Place)} {rows : List StateEvent}

lemma rowsAt_cons (p : Place) (r : StateEvent × Place) (placed : List (StateEvent × Place)) :
    p.rowsAt (r :: placed) = if r.2 = p then r.1 :: p.rowsAt placed else p.rowsAt placed := by
  by_cases h : r.2 = p <;> simp [rowsAt, h]

lemma rowsAt_arrive (p : Place) (rows : List StateEvent) (placed : List (StateEvent × Place)) :
    p.rowsAt (arrive rows placed) = p.rowsAt placed ++ if p = .pending then rows else [] := by
  have hnew : p.rowsAt (rows.map fun e => (e, .pending)) = if p = .pending then rows else [] := by
    induction rows with
    | nil => simp [rowsAt]
    | cons e rows ih =>
      rw [List.map_cons, rowsAt_cons, ih]
      by_cases h : p = .pending <;> simp [h, eq_comm]
  rw [← hnew, arrive, rowsAt, List.filter_append, List.map_append, rowsAt, rowsAt]

lemma rowsAt_sublist (p : Place) (placed : List (StateEvent × Place)) :
    (p.rowsAt placed).Sublist (placed.map (·.1)) :=
  List.filter_sublist.map _

lemma mem_rowsAt {e : StateEvent} : e ∈ p.rowsAt placed ↔ (e, p) ∈ placed := by
  simp [rowsAt]

lemma map_fst_arrive (rows : List StateEvent) (placed : List (StateEvent × Place)) :
    (arrive rows placed).map (·.1) = placed.map (·.1) ++ rows := by
  rw [arrive, List.map_append, List.map_map]
  exact congrArg _ (List.map_id rows)

lemma map_fst_move (p : Place) (placed : List (StateEvent × Place)) :
    (p.move placed).map (·.1) = placed.map (·.1) := by
  rw [move, List.map_map]
  refine List.map_congr_left ?_
  intro r _
  by_cases h : r.2 = .pending <;> simp [h]

/-- Rows that wait on stay where they are. -/
lemma move_pending (placed : List (StateEvent × Place)) : move .pending placed = placed := by
  have hstay : ∀ r ∈ placed, (if r.2 = .pending then (r.1, Place.pending) else r) = id r := by
    rintro ⟨e, q⟩ -
    by_cases h : q = .pending <;> simp [h]
  rw [move, List.map_congr_left hstay, List.map_id]

lemma move_cons (p : Place) (r : StateEvent × Place) (placed : List (StateEvent × Place)) :
    p.move (r :: placed) = (if r.2 = .pending then (r.1, p) else r) :: p.move placed := rfl

lemma rowsAt_pending_move (hp : p ≠ .pending) : rowsAt .pending (p.move placed) = [] := by
  rw [List.eq_nil_iff_forall_not_mem]
  intro e he
  obtain ⟨⟨f, q⟩, -, hr⟩ := List.mem_map.mp (mem_rowsAt.mp he)
  by_cases h : q = .pending
  · rw [if_pos h] at hr
    exact hp (Prod.mk.inj hr).2
  · rw [if_neg h] at hr
    exact h (Prod.mk.inj hr).2

/-- Rows elsewhere stay where they are. -/
lemma rowsAt_move_of_ne (hq : q ≠ .pending) (hqp : q ≠ p) :
    q.rowsAt (p.move placed) = q.rowsAt placed := by
  induction placed with
  | nil => rfl
  | cons r placed ih =>
    rw [move_cons, rowsAt_cons, rowsAt_cons, ih]
    by_cases h : r.2 = .pending
    · simp [h, hq.symm, hqp.symm]
    · simp [h]

lemma length_rowsAt_move (hp : p ≠ .pending) :
    (p.rowsAt (p.move placed)).length
      = (p.rowsAt placed).length + (rowsAt .pending placed).length := by
  induction placed with
  | nil => rfl
  | cons r placed ih =>
    rw [move_cons, rowsAt_cons, rowsAt_cons, rowsAt_cons]
    by_cases h : r.2 = .pending
    · simp [h, hp.symm, ih]
      omega
    · by_cases hr : r.2 = p
      · simp [hr, hp, ih]
        omega
      · simp [h, hr, ih]

namespace InOrder

/-- Rows that wait come after those that are written, once they are written too. -/
lemma rowsAt_committed_move (h : InOrder placed) :
    rowsAt .committed (move .committed placed)
      = rowsAt .committed placed ++ rowsAt .pending placed := by
  induction placed with
  | nil => rfl
  | cons r placed ih =>
    obtain ⟨hr, hrest⟩ := List.pairwise_cons.mp h
    rw [move_cons, rowsAt_cons, rowsAt_cons, rowsAt_cons, ih hrest]
    by_cases hp : r.2 = .pending
    · -- Nothing after a row that waits is written.
      have hnone : rowsAt .committed placed = [] := by
        rw [List.eq_nil_iff_forall_not_mem]
        intro e he
        exact hr _ (mem_rowsAt.mp he) hp rfl
      simp [hp, hnone]
    · by_cases hc : r.2 = .committed <;> simp [hp, hc]

/-- New rows come last. -/
lemma arrive (h : InOrder placed) (rows : List StateEvent) : InOrder (arrive rows placed) := by
  have hnew : ∀ r ∈ rows.map fun e => (e, Place.pending), r.2 = .pending := by
    intro r hr
    obtain ⟨e, -, rfl⟩ := List.mem_map.mp hr
    rfl
  refine List.pairwise_append.mpr ⟨h, ?_, ?_⟩
  · refine List.pairwise_of_forall_mem_list ?_
    intro r _ r' hr' _
    rw [hnew r' hr']
    simp
  · intro r _ r' hr' _
    rw [hnew r' hr']
    simp

/-- Where no row waits there is nothing to be in order. -/
lemma move_of_ne (hp : p ≠ .pending) (placed : List (StateEvent × Place)) :
    InOrder (p.move placed) := by
  refine List.pairwise_of_forall_mem_list ?_
  rintro ⟨e, q⟩ hr r' _ rfl
  have he := mem_rowsAt.mpr hr
  rw [rowsAt_pending_move hp] at he
  cases he

end InOrder

end Place

/-! ### Counters -/

namespace MetricsRegistry

/-- Of all counters of a family, the one that is added to grows. -/
lemma getD_find?_addTo (family : SortedMap String UInt64) (label reason : String) (n : UInt64) :
    ((addTo family label n).find? reason).getD 0
      = (family.find? reason).getD 0 + if reason = label then n else 0 := by
  rw [addTo, SortedMap.find?_alter]
  by_cases h : reason = label <;> simp [h]

lemma absorb_append (r : MetricsRegistry) (xs ys : List Effect) :
    r.absorb (xs ++ ys) = (r.absorb xs).absorb ys := by
  rw [absorb, List.filterMap_append, List.foldl_append, absorb, absorb]

end MetricsRegistry

lemma Store.rowCount_add {rows xs ys : List StateEvent}
    (h : rows.length = xs.length + ys.length) :
    rowCount rows = rowCount xs + rowCount ys := by
  rw [rowCount, h, UInt64.ofNat_add, rowCount, rowCount]

/-! ### The account -/

/-- A store in a run, with what is kept of the run from outside: where the rows are that it was
handed, the metrics, and the number of calls after which there were more rows in the tables. -/
structure Account where
  store : Store
  placed : List (StateEvent × Place) := []
  metrics : MetricsRegistry := .empty
  commits : Nat := 0

namespace Account

/-- The account after a call that brings `rows`, leaves `s` behind and emits `emitted`. -/
def enter (a : Account) (rows : List StateEvent) (s : Store) (emitted : List Effect) :
    Account where
  store := s
  placed := (Place.told emitted).move (Place.arrive rows a.placed)
  metrics := a.metrics.absorb emitted
  commits := a.commits + if a.store.tables.size < s.tables.size then 1 else 0

/-- The account after a call. -/
def next (a : Account) (m : Moment) (c : SinkCall) : Account :=
  let step := Sink.perform m c a.store
  a.enter (c.rows m) step.state step.emitted

/-- The account after a run. -/
def run (a : Account) (calls : List (Moment × SinkCall)) : Account :=
  calls.foldl (fun a c => a.next c.1 c.2) a

/-- The rows that the store was handed. -/
def rows (a : Account) : List StateEvent := a.placed.map (·.1)

/-- The rows at a place. -/
def rowsAt (a : Account) (p : Place) : List StateEvent := p.rowsAt a.placed

section

variable {a : Account} {rows : List StateEvent} {s : Store} {emitted : List Effect} {p q : Place}

lemma rows_enter : (a.enter rows s emitted).rows = a.rows ++ rows := by
  rw [Account.rows, enter, Place.map_fst_move, Place.map_fst_arrive, Account.rows]

/-- Only the rows that wait go anywhere. -/
lemma rowsAt_enter_of_ne (hq : q ≠ .pending) (hne : q ≠ Place.told emitted) :
    (a.enter rows s emitted).rowsAt q = a.rowsAt q := by
  change q.rowsAt (Place.move _ _) = _
  rw [Place.rowsAt_move_of_ne hq hne, Place.rowsAt_arrive, if_neg hq, List.append_nil, rowsAt]

lemma rowsAt_pending_enter (hp : Place.told emitted ≠ .pending) :
    (a.enter rows s emitted).rowsAt .pending = [] :=
  Place.rowsAt_pending_move hp

lemma length_rowsAt_enter (hp : p ≠ .pending) (htold : Place.told emitted = p) :
    ((a.enter rows s emitted).rowsAt p).length
      = (a.rowsAt p).length + (a.rowsAt .pending ++ rows).length := by
  change (p.rowsAt (Place.move _ _)).length = _
  rw [htold, Place.length_rowsAt_move hp, Place.rowsAt_arrive, if_neg hp, List.append_nil,
    Place.rowsAt_arrive, if_pos rfl]
  rfl

lemma fresh_rowsAt {t : Tables} (h : t.Fresh a.rows) (p : Place) : t.Fresh (a.rowsAt p) :=
  h.sublist (p.rowsAt_sublist a.placed)

end

/-- The store, the metrics and the account say the same. -/
structure Balanced (t : Tables) (a : Account) : Prop where
  tables : a.store.tables = t.putAll (a.rowsAt .committed)
  pending : a.store.pending = a.rowsAt .pending
  idle : a.store.isOpen = false → a.store.pending = []
  known : ∀ r ∈ a.placed, r.2 ∈ Place.all
  inOrder : Place.InOrder a.placed
  flushed : a.metrics.flushed = Store.rowCount (a.rowsAt .committed)
  dropped : ∀ reason,
    (a.metrics.dropped.find? reason).getD 0 = Store.rowCount (a.rowsAt (.dropped reason))
  flushTimes : a.metrics.flushTime.count = UInt64.ofNat a.commits

namespace Balanced

variable {t : Tables} {a : Account} {rows : List StateEvent} {s : Store}

lemma start (t : Tables) (capacity : Nat) : Balanced t { store := .onTables t capacity } where
  tables := rfl
  pending := rfl
  idle := fun _ => rfl
  known := fun r hr => by cases hr
  inOrder := .nil
  flushed := rfl
  dropped := fun _ => rfl
  flushTimes := rfl

lemma known_enter (h : a.Balanced t) (rows : List StateEvent) (s : Store) {emitted : List Effect}
    (htold : Place.told emitted ∈ Place.all) :
    ∀ r ∈ (a.enter rows s emitted).placed, r.2 ∈ Place.all := by
  intro r hr
  obtain ⟨r', hr', rfl⟩ := List.mem_map.mp hr
  by_cases hp : r'.2 = .pending
  · rw [if_pos hp]
    exact htold
  · rw [if_neg hp]
    rcases List.mem_append.mp hr' with hr' | hr'
    · exact h.known r' hr'
    · obtain ⟨e, -, rfl⟩ := List.mem_map.mp hr'
      exact absurd rfl hp

/-- The rows wait on. -/
lemma stay (h : a.Balanced t) (htables : s.tables = a.store.tables)
    (hpending : s.pending = a.store.pending ++ rows)
    (hidle : s.isOpen = false → a.store.pending ++ rows = []) :
    (a.enter rows s []).Balanced t := by
  have hplaced : (a.enter rows s []).placed = Place.arrive rows a.placed := Place.move_pending _
  have hrowsAt {p : Place} (hp : p ≠ .pending) : (a.enter rows s []).rowsAt p = a.rowsAt p :=
    rowsAt_enter_of_ne hp hp
  have hcommits : (a.enter rows s []).commits = a.commits := by
    simp [enter, htables]
  constructor
  case tables =>
    rw [hrowsAt (by simp)]
    exact htables.trans h.tables
  case pending =>
    rw [rowsAt, hplaced, Place.rowsAt_arrive, if_pos rfl]
    exact hpending.trans (congrArg (· ++ rows) h.pending)
  case idle =>
    intro ho
    exact hpending.trans (hidle ho)
  case known => exact h.known_enter rows s (by decide)
  case inOrder =>
    rw [hplaced]
    exact h.inOrder.arrive rows
  case flushed =>
    rw [hrowsAt (by simp)]
    exact h.flushed
  case dropped =>
    intro reason
    rw [hrowsAt (by simp)]
    exact h.dropped reason
  case flushTimes =>
    rw [hcommits]
    exact h.flushTimes

/-- The rows that wait are written. -/
lemma commit (h : a.Balanced t) (e : LogEvent) (seconds : Float)
    (hfresh : t.Fresh (a.rows ++ rows)) (hne : a.store.pending ++ rows ≠ [])
    (htables : s.tables = a.store.tables.putAll (a.store.pending ++ rows))
    (hpending : s.pending = []) :
    (a.enter rows s [.log e, .metric (.flushed (Store.rowCount (a.store.pending ++ rows))),
      .metric (.flushTime seconds)]).Balanced t := by
  set emitted := [Effect.log e, .metric (.flushed (Store.rowCount (a.store.pending ++ rows))),
    .metric (.flushTime seconds)]
  have htold : Place.told emitted = .committed := rfl
  have hcommitted : (a.enter rows s emitted).rowsAt .committed
      = a.rowsAt .committed ++ (a.store.pending ++ rows) := by
    change Place.rowsAt _ (Place.move _ _) = _
    rw [htold, (h.inOrder.arrive rows).rowsAt_committed_move, Place.rowsAt_arrive,
      Place.rowsAt_arrive, if_pos rfl, if_neg (by simp), List.append_nil, h.pending]
    rfl
  have hwritten : s.tables = t.putAll ((a.enter rows s emitted).rowsAt .committed) := by
    rw [hcommitted, Tables.putAll_append, ← h.tables, htables]
  have hlarger : a.store.tables.size < s.tables.size := by
    have hbefore : t.Fresh (a.rowsAt .committed) :=
      fresh_rowsAt (hfresh.sublist (List.sublist_append_left _ _)) _
    have hrows : t.Fresh (a.enter rows s emitted).rows := by
      rw [rows_enter]
      exact hfresh
    have hnow : t.Fresh ((a.enter rows s emitted).rowsAt .committed) := fresh_rowsAt hrows _
    have hpos : 0 < (a.store.pending ++ rows).length := List.length_pos_iff.mpr hne
    rw [hwritten, h.tables, hbefore.size_putAll, hnow.size_putAll, hcommitted, List.length_append]
    omega
  have hcommits : (a.enter rows s emitted).commits = a.commits + 1 := by
    simp [enter, hlarger]
  constructor
  case tables => exact hwritten
  case pending =>
    rw [rowsAt_pending_enter (by simp [htold])]
    exact hpending
  case idle =>
    intro _
    exact hpending
  case known => exact h.known_enter rows s (htold ▸ by decide)
  case inOrder => exact Place.InOrder.move_of_ne (by simp [htold]) _
  case flushed =>
    rw [hcommitted, Store.rowCount_add (List.length_append), ← h.flushed]
    rfl
  case dropped =>
    intro reason
    rw [rowsAt_enter_of_ne (by simp) (by simp [htold])]
    exact h.dropped reason
  case flushTimes =>
    rw [hcommits, UInt64.ofNat_add, ← h.flushTimes]
    rfl

/-- The rows that wait are dropped. -/
lemma drop (h : a.Balanced t) (rows : List StateEvent) (e : LogEvent) (reason : String)
    (hreason : .dropped reason ∈ Place.all) (htables : s.tables = a.store.tables)
    (hpending : s.pending = []) :
    (a.enter rows s [.log e,
      .metric (.dropped reason (Store.rowCount (a.store.pending ++ rows)))]).Balanced t := by
  set emitted := [Effect.log e,
    .metric (.dropped reason (Store.rowCount (a.store.pending ++ rows)))]
  have htold : Place.told emitted = .dropped reason := rfl
  have hcommits : (a.enter rows s emitted).commits = a.commits := by
    simp [enter, htables]
  constructor
  case tables =>
    rw [rowsAt_enter_of_ne (by simp) (by simp [htold])]
    exact htables.trans h.tables
  case pending =>
    rw [rowsAt_pending_enter (by simp [htold])]
    exact hpending
  case idle =>
    intro _
    exact hpending
  case known => exact h.known_enter rows s hreason
  case inOrder => exact Place.InOrder.move_of_ne (by simp [htold]) _
  case flushed =>
    rw [rowsAt_enter_of_ne (by simp) (by simp [htold])]
    exact h.flushed
  case dropped =>
    intro reason'
    change ((MetricsRegistry.addTo a.metrics.dropped reason _).find? reason').getD 0 = _
    rw [MetricsRegistry.getD_find?_addTo, h.dropped]
    by_cases hr : reason' = reason
    · subst hr
      have hlength : ((a.enter rows s emitted).rowsAt (.dropped reason')).length
          = (a.rowsAt (.dropped reason')).length + (a.rowsAt .pending ++ rows).length :=
        length_rowsAt_enter (by simp) htold
      rw [if_pos rfl, Store.rowCount_add hlength, h.pending]
    · rw [if_neg hr, rowsAt_enter_of_ne (by simp) (by simpa [htold] using hr)]
      exact UInt64.add_zero _
  case flushTimes =>
    rw [hcommits]
    exact h.flushTimes

/-- A call keeps the account balanced, whichever of the four things it comes to. -/
lemma of_outcome (h : a.Balanced t) {m : Moment} {c : SinkCall} {emitted : List Effect}
    (hs : Store.Outcome m c a.store s emitted) (hfresh : t.Fresh (a.rows ++ c.rows m)) :
    (a.enter (c.rows m) s emitted).Balanced t := by
  cases hs with
  | refused ho =>
    have hnil := h.idle ho
    cases c with
    | append e =>
      -- The row that comes is the only one there is.
      have hdrop := h.drop [e.event m] (.droppedAfterClose (e.event m)) Store.closedReason
        (by decide) rfl hnil
      rwa [hnil] at hdrop
    | flush | close => exact h.stay rfl (List.append_nil _).symm fun _ => by rw [hnil]; rfl
  | waited ho hroom =>
    refine h.stay rfl (Store.waiting_eq m c a.store) ?_
    intro ho'
    rcases hroom with hnil | ⟨hrows, -⟩
    · rwa [Store.waiting_eq] at hnil
    · -- A row that comes does not close the store.
      cases c with
      | append => simp [SinkCall.closes, ho] at ho'
      | flush | close => exact absurd rfl hrows
  | written ho hne =>
    rw [Store.waiting_eq] at hne ⊢
    exact h.commit _ _ hfresh hne rfl rfl
  | lost ho hne =>
    rw [Store.waiting_eq] at hne ⊢
    exact h.drop _ _ _ (by decide) rfl rfl

lemma next (h : a.Balanced t) {m : Moment} {c : SinkCall}
    (hfresh : t.Fresh (a.rows ++ c.rows m)) : (a.next m c).Balanced t :=
  h.of_outcome (Store.perform_outcome m c a.store) hfresh

/-- The account is balanced after any run. -/
theorem run (h : a.Balanced t) (calls : List (Moment × SinkCall))
    (hfresh : t.Fresh (a.rows ++ SinkCall.allRows calls)) : (a.run calls).Balanced t := by
  induction calls generalizing a with
  | nil => exact h
  | cons c calls ih =>
    obtain ⟨m, c⟩ := c
    rw [SinkCall.allRows_cons, ← List.append_assoc] at hfresh
    refine ih (h.next (hfresh.sublist (List.sublist_append_left _ _))) ?_
    change t.Fresh ((a.enter _ _ _).rows ++ _)
    rw [rows_enter]
    exact hfresh

end Balanced

/-! ### The account of a run -/

lemma store_run (a : Account) (calls : List (Moment × SinkCall)) :
    (a.run calls).store = (Sink.run calls a.store).state := by
  induction calls generalizing a with
  | nil => rfl
  | cons c calls ih => exact ih (a.next c.1 c.2)

lemma metrics_run (a : Account) (calls : List (Moment × SinkCall)) :
    (a.run calls).metrics = a.metrics.absorb (Sink.run calls a.store).emitted := by
  induction calls generalizing a with
  | nil => rfl
  | cons c calls ih =>
    obtain ⟨m, c⟩ := c
    rw [Sink.run_cons_emitted, MetricsRegistry.absorb_append]
    exact ih (a.next m c)

lemma rows_run (a : Account) (calls : List (Moment × SinkCall)) :
    (a.run calls).rows = a.rows ++ SinkCall.allRows calls := by
  induction calls generalizing a with
  | nil => exact (List.append_nil _).symm
  | cons c calls ih =>
    obtain ⟨m, c⟩ := c
    rw [SinkCall.allRows_cons, ← List.append_assoc, ← rows_enter]
    exact ih (a.next m c)

/-- A row is at one place only, and no other row has its id. -/
lemma eq_of_id_eq {t : Tables} {a : Account} (hfresh : t.Fresh a.rows) {r r' : StateEvent × Place}
    (hr : r ∈ a.placed) (hr' : r' ∈ a.placed) (hid : r.1.id = r'.1.id) : r = r' := by
  have hdistinct := hfresh.distinct
  rw [rows, List.map_map] at hdistinct
  exact List.inj_on_of_nodup_map hdistinct hr hr' hid

/-- The place of a row that the store was handed, as the tables and the buffer show it. -/
lemma Balanced.find?_row {t : Tables} {a : Account} (h : a.Balanced t) (hfresh : t.Fresh a.rows)
    {e : StateEvent} {p : Place} (he : (e, p) ∈ a.placed) :
    a.store.tables.rows.find? e.id = if p = .committed then some e.encode else none := by
  rw [h.tables]
  by_cases hp : p = .committed
  · rw [if_pos hp]
    subst hp
    exact (fresh_rowsAt hfresh _).find?_putAll (Place.mem_rowsAt.mpr he)
  · rw [if_neg hp, Tables.find?_putAll_of_not_mem]
    · exact hfresh.unused e (List.mem_map_of_mem he)
    · -- No other row has this id, so that it would be written were this one not.
      intro hid
      obtain ⟨f, hf, hfe⟩ := List.mem_map.mp hid
      obtain ⟨-, rfl⟩ := Prod.mk.inj (eq_of_id_eq hfresh he (Place.mem_rowsAt.mp hf) hfe.symm)
      exact hp rfl

/-- A row waits in the buffer exactly if the account has it there. -/
lemma Balanced.mem_pending_iff {t : Tables} {a : Account} (h : a.Balanced t)
    (hfresh : t.Fresh a.rows) {e : StateEvent} {p : Place} (he : (e, p) ∈ a.placed) :
    e ∈ a.store.pending ↔ p = .pending := by
  rw [h.pending, rowsAt, Place.mem_rowsAt]
  constructor
  · intro hpending
    exact (Prod.mk.inj (eq_of_id_eq hfresh he hpending rfl)).2
  · rintro rfl
    exact he

end Account

namespace Store

/-- **No row is lost without being counted, and none is written twice.**  In a run on a store, with
disks that work or fail as they like and with ids that are new, the rows that the store is handed
are each at one of four places. The tables have exactly the rows that are written, each once, and
the buffer those that wait. The counter of flushed rows says how many were written, the counters of
dropped rows how many were dropped for each reason, and a time was taken for each call after which
there were more rows. The rows that are written are in the order in which they came, and those that
wait came after them. As a run may end with any call, this is so after every call. -/
theorem rows_accounted (t : Tables) (capacity : Nat) (calls : List (Moment × SinkCall))
    (hfresh : t.Fresh (SinkCall.allRows calls)) :
    let start := Store.onTables t capacity
    let account := Account.run { store := start } calls
    let store := (Sink.run calls start).state
    let metrics := MetricsRegistry.empty.absorb (Sink.run calls start).emitted
    account.rows = SinkCall.allRows calls ∧
      (∀ r ∈ account.placed, r.2 ∈ Place.all ∧ (r.1 ∈ store.pending ↔ r.2 = .pending) ∧
        store.tables.rows.find? r.1.id
          = if r.2 = .committed then some r.1.encode else none) ∧
      store.tables = t.putAll (account.rowsAt .committed) ∧
      store.tables.size = t.size + (account.rowsAt .committed).length ∧
      metrics.flushed = rowCount (account.rowsAt .committed) ∧
      (∀ reason,
        (metrics.dropped.find? reason).getD 0 = rowCount (account.rowsAt (.dropped reason))) ∧
      metrics.flushTime.count = UInt64.ofNat account.commits ∧
      (account.rowsAt .committed).Sublist (SinkCall.allRows calls) ∧
      store.pending = account.rowsAt .pending ∧ Place.InOrder account.placed := by
  intro start account store metrics
  have hrows : account.rows = SinkCall.allRows calls := Account.rows_run _ calls
  have hstore : account.store = store := Account.store_run _ calls
  have hmetrics : account.metrics = metrics := Account.metrics_run _ calls
  have h : account.Balanced t := (Account.Balanced.start t capacity).run calls hfresh
  rw [← hrows] at hfresh ⊢
  rw [← hstore, ← hmetrics]
  refine ⟨rfl, ?_, h.tables, ?_, h.flushed, h.dropped, h.flushTimes, ?_, h.pending, h.inOrder⟩
  · intro r hr
    exact ⟨h.known r hr, h.mem_pending_iff hfresh hr, h.find?_row hfresh hr⟩
  · rw [h.tables, (Account.fresh_rowsAt hfresh _).size_putAll]
  · exact Place.rowsAt_sublist _ _

/-- A run with each of the four ends: three rows are written in two batches, three are lost in two
others, the second of them on the way to a close, and one comes after the close. -/
def mixedRun : List (Moment × SinkCall) :=
  let moment (id : Nat) (disk : Disk) : Moment := { id := .ofNat id, now := 0, disk }
  let entry : SinkCall := .append ⟨⟨1⟩, .enter .active⟩
  [(moment 1 .working, entry), (moment 2 .working, entry), (moment 3 .working, entry),
    (moment 4 .full, entry), (moment 5 .working, entry), (moment 6 .failing, .close),
    (moment 7 .working, entry), (moment 8 .working, .close), (moment 9 .working, entry)]

/-- Its rows are where they should be, and the counters say so. -/
theorem rows_accounted_mixedRun :
    Tables.empty.Fresh (SinkCall.allRows mixedRun) ∧
      let start := Store.onTables .empty 2
      let account := Account.run { store := start } mixedRun
      let store := (Sink.run mixedRun start).state
      let metrics := MetricsRegistry.empty.absorb (Sink.run mixedRun start).emitted
      account.placed.map (·.2) = [.committed, .committed, .dropped flushReason,
          .dropped flushReason, .dropped flushReason, .committed, .dropped closedReason] ∧
        store.tables.size = 3 ∧ metrics.flushed = 3 ∧
        (metrics.dropped.find? flushReason).getD 0 = 3 ∧
        (metrics.dropped.find? closedReason).getD 0 = 1 ∧ metrics.flushTime.count = 2 := by
  have hfresh : Tables.empty.Fresh (SinkCall.allRows mixedRun) := ⟨by decide, fun _ _ => rfl⟩
  obtain ⟨-, -, -, hsize, hflushed, hdropped, htimes, -⟩ :=
    rows_accounted .empty 2 mixedRun hfresh
  exact ⟨hfresh, rfl, hsize, hflushed, hdropped flushReason, hdropped closedReason, htimes⟩

end Store

end AlertLedger
