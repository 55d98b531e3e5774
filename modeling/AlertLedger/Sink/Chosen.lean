/-
# Chosen sinks

A sink of a kind that is chosen while the program runs.
-/
import AlertLedger.Sink.Recording
import AlertLedger.Sink.Stateless
import AlertLedger.Store.File

namespace AlertLedger

/-- A sink of any kind. -/
inductive ChosenSink where
  | recording (s : RecordingSink)
  | stores (s : Shelf)
  | logging (s : LoggingSink)
  | discarding (s : DiscardingSink)
  | unreliable (s : UnreliableSink)

namespace ChosenSink

instance : Sink ChosenSink where
  append m e
    | .recording s => (Sink.append m e s).within .recording
    | .stores s => (Sink.append m e s).within .stores
    | .logging s => (Sink.append m e s).within .logging
    | .discarding s => (Sink.append m e s).within .discarding
    | .unreliable s => (Sink.append m e s).within .unreliable
  flush m
    | .recording s => (Sink.flush m s).within .recording
    | .stores s => (Sink.flush m s).within .stores
    | .logging s => (Sink.flush m s).within .logging
    | .discarding s => (Sink.flush m s).within .discarding
    | .unreliable s => (Sink.flush m s).within .unreliable
  close m
    | .recording s => (Sink.close m s).within .recording
    | .stores s => (Sink.close m s).within .stores
    | .logging s => (Sink.close m s).within .logging
    | .discarding s => (Sink.close m s).within .discarding
    | .unreliable s => (Sink.close m s).within .unreliable

/-- The entries that a recording sink holds; other kinds hold none. -/
def calls : ChosenSink → List Entry
  | .recording s => s.calls
  | _ => []

end ChosenSink

end AlertLedger
