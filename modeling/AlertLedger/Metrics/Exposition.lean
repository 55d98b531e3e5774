/-
# Exposition

The metrics as lines of text: for each family its help, its type and its samples, and a closing
line. The lines of a family's samples ascend. They ascend as lines, and not by their labels: a
label that goes on with a character below the quote comes before the one without it. How a double
is spelled is left to the caller.
-/
import AlertLedger.Metrics

namespace AlertLedger

namespace MetricsFamily

/-- The word that all names of metrics start with. -/
def branch : String := "alerttrail_"

/-- The two lines that introduce a family. -/
def heading (name kind help : String) : List String :=
  [s!"# HELP {branch}{name} {help}.", s!"# TYPE {branch}{name} {kind}"]

/-- The line of a sample that has a label. -/
def labelled (name label value : String) (n : UInt64) : String :=
  branch ++ name ++ "\x7b" ++ label ++ "=\"" ++ value ++ "\"\x7d " ++ toString n.toNat

/-- The lines of the samples in a family whose samples have labels. -/
def samples (name label : String) (family : SortedMap String UInt64) : List String :=
  (family.toList.map fun (value, n) => labelled name label value n).mergeSort

/-- The line of a sample without label. -/
def plain (name value : String) : String :=
  s!"{branch}{name} {value}"

end MetricsFamily

open MetricsFamily

namespace Histogram

/-- The name of the family of flush times. -/
def flushTimeName : String := "state_flush_duration_seconds"

/-- The lines of the family of flush times. -/
def lines (double : Float → String) (h : Histogram) : List String :=
  heading flushTimeName "histogram" "State log flush latency in seconds"
    ++ [plain (flushTimeName ++ "_sum") (double h.sum),
      plain (flushTimeName ++ "_count") (toString h.count.toNat)]
    ++ h.buckets.map fun (bound, _, hits) => labelled (flushTimeName ++ "_bucket") "le" bound hits

end Histogram

namespace MetricsRegistry

/-- The exposition of all metrics. -/
def lines (double : Float → String) (r : MetricsRegistry) : List String :=
  heading "marked_alerts" "gauge" "Alerts currently tracked by the marker, per state"
    ++ samples "marked_alerts" "state" r.marked
    ++ heading "state_transitions" "counter" "State transitions handed to the state appender"
    ++ samples "state_transitions_total" "state" r.transitions
    ++ heading "state_rows_dropped" "counter"
      "State rows discarded before reaching storage, per reason"
    ++ samples "state_rows_dropped_total" "reason" r.dropped
    ++ heading "state_rows_flushed" "counter" "State rows made durable by a flush"
    ++ [plain "state_rows_flushed_total" (toString r.flushed.toNat)]
    ++ r.flushTime.lines double
    ++ ["# EOF"]

end MetricsRegistry

end AlertLedger
