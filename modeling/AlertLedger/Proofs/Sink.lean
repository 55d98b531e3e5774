/-
# Runs of a sink

A sink is handed entries, flushed and closed, any number of times in any order. These calls are data
here, so that what a run of them comes to can be stated for every sink, and for every part of the
program that calls one.
-/
import AlertLedger.Sink
import Mathlib.Tactic.Lemma

namespace AlertLedger

/-- The calls on a sink. -/
inductive SinkCall where
  | append (e : Entry)
  | flush
  | close

namespace SinkCall

/-- The rows that a call brings. -/
def rows (m : Moment) : SinkCall → List StateEvent
  | .append e => [e.event m]
  | .flush | .close => []

/-- Whether the sink is to be closed. -/
def closes : SinkCall → Bool
  | .append _ | .flush => false
  | .close => true

/-- The rows that calls bring. -/
def allRows (calls : List (Moment × SinkCall)) : List StateEvent :=
  calls.flatMap fun (m, c) => c.rows m

lemma allRows_cons (m : Moment) (c : SinkCall) (calls : List (Moment × SinkCall)) :
    allRows ((m, c) :: calls) = c.rows m ++ allRows calls := rfl

lemma allRows_append (xs ys : List (Moment × SinkCall)) :
    allRows (xs ++ ys) = allRows xs ++ allRows ys :=
  List.flatMap_append

end SinkCall

namespace Sink

variable {τ : Type} [Sink τ]

/-- Makes a call. An entry is always taken, whatever becomes of it. -/
def perform (m : Moment) (c : SinkCall) (s : τ) : Step τ (Except Fault Unit) :=
  match c with
  | .append e => { Sink.append m e s with result := .ok () }
  | .flush => Sink.flush m s
  | .close => Sink.close m s

/-- Makes calls one after the other. -/
def run : List (Moment × SinkCall) → τ → Step τ (List (Except Fault Unit))
  | [], s => { result := [], state := s }
  | (m, c) :: calls, s =>
    (perform m c s).andThen fun reply s =>
      let step := run calls s
      { step with result := reply :: step.result }

lemma run_cons_state (m : Moment) (c : SinkCall) (calls : List (Moment × SinkCall)) (s : τ) :
    (run ((m, c) :: calls) s).state = (run calls (perform m c s).state).state := rfl

lemma run_cons_emitted (m : Moment) (c : SinkCall) (calls : List (Moment × SinkCall)) (s : τ) :
    (run ((m, c) :: calls) s).emitted
      = (perform m c s).emitted ++ (run calls (perform m c s).state).emitted := rfl

lemma run_singleton_emitted (m : Moment) (c : SinkCall) (s : τ) :
    (run [(m, c)] s).emitted = (perform m c s).emitted :=
  List.append_nil _

lemma run_append (xs ys : List (Moment × SinkCall)) (s : τ) :
    run (xs ++ ys) s = (run xs s).andThen fun replies s =>
      let step := run ys s
      { step with result := replies ++ step.result } := by
  induction xs generalizing s with
  | nil => rfl
  | cons c xs ih =>
    obtain ⟨m, c⟩ := c
    simp only [List.cons_append, run, ih, Step.andThen, Step.after, List.append_assoc]

lemma run_append_state (xs ys : List (Moment × SinkCall)) (s : τ) :
    (run (xs ++ ys) s).state = (run ys (run xs s).state).state := by
  rw [run_append]
  rfl

lemma run_append_emitted (xs ys : List (Moment × SinkCall)) (s : τ) :
    (run (xs ++ ys) s).emitted = (run xs s).emitted ++ (run ys (run xs s).state).emitted := by
  rw [run_append]
  rfl

end Sink

end AlertLedger
