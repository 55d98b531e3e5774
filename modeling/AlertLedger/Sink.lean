/-
# Sinks

A sink takes the entries that are worth recording. What it does with them is its own affair, and
so is when: it may hold them back until it is told to flush, and a failure shows only then.
-/
import AlertLedger.Step

namespace AlertLedger

/-- Where entries go. Each call comes with the moment at which it is made. -/
class Sink (τ : Type) where
  /-- Takes an entry. -/
  append : Moment → Entry → τ → Step τ Unit
  /-- Makes sure that all entries taken so far have arrived. -/
  flush : Moment → τ → Step τ (Except Fault Unit)
  /-- Flushes and takes leave. -/
  close : Moment → τ → Step τ (Except Fault Unit)

end AlertLedger
