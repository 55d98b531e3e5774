/-
# What sinks report

A report for the metrics says what became of rows, that an entry was handed over, or how many alerts
there are in some state. A sink learns of entries only and so reports of rows only
(`Sink.ReportsRows`), which holds for every sink of the program (`ChosenSink.reportsRows`). All other
reports are left to the trail.
-/
import AlertLedger.Proofs.Store.Run
import AlertLedger.Sink.Chosen

namespace AlertLedger

/-- Whether a report says what became of rows. -/
def MetricsUpdate.ofRows : MetricsUpdate → Bool
  | .dropped .. | .flushed _ | .flushTime _ => true
  | .transition _ | .marked .. => false

/-- If something is reported it is what became of rows. -/
def RowsOnly (emitted : List Effect) : Prop :=
  ∀ u ∈ emitted.filterMap Effect.metric?, u.ofRows

namespace RowsOnly

variable {xs ys : List Effect}

@[simp] lemma nil : RowsOnly [] := List.forall_mem_nil _

@[simp] lemma cons_log (e : LogEvent) : RowsOnly (.log e :: xs) ↔ RowsOnly xs := .rfl

@[simp] lemma cons_metric (u : MetricsUpdate) :
    RowsOnly (.metric u :: xs) ↔ u.ofRows ∧ RowsOnly xs :=
  List.forall_mem_cons

lemma append (hxs : RowsOnly xs) (hys : RowsOnly ys) : RowsOnly (xs ++ ys) := by
  rw [RowsOnly, List.filterMap_append, List.forall_mem_append]
  exact ⟨hxs, hys⟩

end RowsOnly

/-- Sinks that report what became of rows and nothing else. -/
def Sink.ReportsRows (τ : Type) [Sink τ] : Prop :=
  ∀ m c (s : τ), RowsOnly (perform m c s).emitted

lemma Sink.ReportsRows.run {τ : Type} [Sink τ] (h : ReportsRows τ)
    (calls : List (Moment × SinkCall)) (s : τ) : RowsOnly (Sink.run calls s).emitted := by
  induction calls generalizing s with
  | nil => exact .nil
  | cons c calls ih =>
    obtain ⟨m, c⟩ := c
    rw [run_cons_emitted]
    exact (h m c s).append (ih _)

lemma Store.reportsRows : Sink.ReportsRows Store := by
  intro m c s
  have hcall := perform_outcome m c s
  generalize (Sink.perform m c s).state = s', (Sink.perform m c s).emitted = emitted at hcall ⊢
  cases hcall with
  | refused =>
    cases c with
    | append e => simp [SinkCall.rows, MetricsUpdate.ofRows]
    | flush | close => exact .nil
  | waited => exact .nil
  | written | lost => simp [MetricsUpdate.ofRows]

lemma StoreHandle.reportsRows : Sink.ReportsRows StoreHandle := by
  intro m c h
  cases c with
  | append e => exact Store.reportsRows _ (.append e) h.store
  | flush => exact Store.reportsRows _ .flush h.store
  | close => exact Store.reportsRows _ .close h.store

lemma Shelf.reportsRows : Sink.ReportsRows Shelf := by
  have hcall {α : Type} (missing : α) (f : StoreHandle → Step StoreHandle α)
      (hf : ∀ h, RowsOnly (f h).emitted) (s : Shelf) : RowsOnly (s.call 0 missing f).emitted := by
    rw [call]
    cases s.handles[0]? with
    | none => exact .nil
    | some p => exact hf p.2
  intro m c s
  cases c with
  | append e => exact hcall () (Sink.append m e) (StoreHandle.reportsRows m (.append e)) s
  | flush => exact hcall (.ok ()) (Sink.flush m) (StoreHandle.reportsRows m .flush) s
  | close => exact hcall (.ok ()) (Sink.close m) (StoreHandle.reportsRows m .close) s

/-- No sink of the program reports anything but what became of rows. -/
theorem ChosenSink.reportsRows : Sink.ReportsRows ChosenSink := by
  intro m c s
  cases s with
  | stores s =>
    have hshelf := Shelf.reportsRows m c s
    cases c <;> exact hshelf
  | recording | logging | discarding | unreliable => cases c <;> exact .nil

end AlertLedger
