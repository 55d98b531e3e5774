/-
# Metrics

What is counted: transitions by state, alerts by state, dropped rows by reason, flushed rows and
the time that flushes take. Counters are words of 64 bits and wrap around; the gauge of tracked
alerts is signed, so it stops at the largest signed number. A label has a sample from the first
time on that something is recorded under it, be it zero.
-/
import AlertLedger.SortedMap

namespace AlertLedger

/-- What a part reports for the metrics. -/
inductive MetricsUpdate where
  /-- An entry for this state was handed to the sink. -/
  | transition (state : String)
  /-- So many alerts are in this state now. -/
  | marked (state : String) (alerts : UInt64)
  /-- So many rows were dropped for this reason. -/
  | dropped (reason : String) (rows : UInt64)
  /-- So many rows were written. -/
  | flushed (rows : UInt64)
  /-- Writing them took so many seconds. -/
  | flushTime (seconds : Float)

/-! ## Histograms -/

namespace Seconds

/-- The rank of a double among all doubles: its bits without the sign, counted downwards from
zero for a negative one. -/
def rank (x : Float) : Int :=
  let magnitude := (x.toBits &&& 0x7fffffffffffffff).toNat
  if x.toBits < 0x8000000000000000 then magnitude else -magnitude

/-- The rank of infinity; what lies beyond is no number. -/
def infinityRank : Int := 0x7ff0000000000000

/-- Whether a double is a number that is not above a bound. -/
def notAbove (x bound : Float) : Bool :=
  -infinityRank ≤ rank x && rank x ≤ infinityRank && rank x ≤ rank bound

end Seconds

/-- The upper bounds of the buckets of a histogram, with the labels under which they are shown. -/
def flushTimeBounds : List (String × Float) :=
  [("0.0001", .ofBits 0x3f1a36e2eb1c432d), ("0.0002848035868435802", .ofBits 0x3f32aa36175de875),
    ("0.0008111308307896872", .ofBits 0x3f4a9442320ce940),
    ("0.00231012970008316", .ofBits 0x3f62ecb1705d3012),
    ("0.006579332246575682", .ofBits 0x3f7af2ee0d41c8ee),
    ("0.018738174228603845", .ofBits 0x3f93301995fe91ed),
    ("0.05336699231206311", .ofBits 0x3fab52eb1d551772),
    ("0.15199110829529345", .ofBits 0x3fc37471d3b49e42),
    ("0.43287612810830608", .ofBits 0x3fdbb43e135c6f19),
    ("1.2328467394420669", .ofBits 0x3ff3b9bd80ae247f),
    ("3.5111917342151335", .ofBits 0x400c16ebb1238424),
    ("10.000000000000007", .ofBits 0x4024000000000004),
    ("+Inf", .ofBits 0x7fefffffffffffff)]

/-- How often each bucket was hit, how often all of them were, and the sum of what was observed.
A bucket is hit by every observation that is not above its bound. -/
structure Histogram where
  sum : Float
  count : UInt64
  buckets : List (String × Float × UInt64)

namespace Histogram

/-- The histogram of no observations. -/
def empty (bounds : List (String × Float)) : Histogram where
  sum := .ofBits 0
  count := 0
  buckets := bounds.map fun (label, bound) => (label, bound, 0)

/-- Takes in one observation. -/
def observe (h : Histogram) (x : Float) : Histogram where
  sum := h.sum + x
  count := h.count + 1
  buckets := h.buckets.map fun (label, bound, hits) =>
    (label, bound, if Seconds.notAbove x bound then hits + 1 else hits)

end Histogram

/-! ## The registry -/

/-- All metrics. -/
structure MetricsRegistry where
  marked : SortedMap String UInt64 := .empty
  transitions : SortedMap String UInt64 := .empty
  dropped : SortedMap String UInt64 := .empty
  flushed : UInt64 := 0
  flushTime : Histogram := .empty flushTimeBounds

namespace MetricsRegistry

/-- The metrics before anything is recorded. -/
def empty : MetricsRegistry := {}

/-- The largest value of the gauge. -/
def gaugeMax : UInt64 := 0x7fffffffffffffff

/-- Adds to a counter of a family, which starts at zero. -/
def addTo (family : SortedMap String UInt64) (label : String) (n : UInt64) :
    SortedMap String UInt64 :=
  family.alter label fun old => old.getD 0 + n

/-- Takes in one report. -/
def record (r : MetricsRegistry) : MetricsUpdate → MetricsRegistry
  | .transition state => { r with transitions := addTo r.transitions state 1 }
  | .marked state alerts =>
    { r with marked := r.marked.insert state (if alerts ≤ gaugeMax then alerts else gaugeMax) }
  | .dropped reason rows => { r with dropped := addTo r.dropped reason rows }
  | .flushed rows => { r with flushed := r.flushed + rows }
  | .flushTime seconds => { r with flushTime := r.flushTime.observe seconds }

end MetricsRegistry

end AlertLedger
