/-
# Stores

A store is a sink that keeps its rows in tables on disk. Rows wait in a buffer and are written
together, when the store is told to flush or when the buffer is full; until then no question sees
them. A batch is taken out of the buffer whether it can be written or not, so the buffer never
outgrows its capacity and no batch is written twice. A closed store takes nothing more and answers
nothing more.
-/
import AlertLedger.Sink
import AlertLedger.Store.Tables

namespace AlertLedger

/-- A store: its tables on disk, the rows that wait, how many of them make a batch, and how the ids
in its rows may be written. -/
structure Store where
  tables : Tables
  isOpen : Bool := true
  pending : List StateEvent := []
  capacity : Nat
  urnCase : UrnCase := .any

namespace Store

/-- A store on tables. A capacity of zero acts as one. -/
def onTables (t : Tables) (capacity : Nat) : Store where
  tables := t
  capacity := max capacity 1

/-- The reason under which the rows of a batch count that could not be written. -/
def flushReason : String := "flush"

/-- The reason under which rows count that came after the close. -/
def closedReason : String := "closed"

/-- The fault of a batch that could not be written. It names the step that failed, if that is
told. -/
def writeFault (m : Moment) : Fault :=
  .flushFailed <| "redb" ++ m.failure.elim "" fun f => s!" {f.step.name}: {f.reason}"

/-- The number of rows as a count of 64 bits. -/
def rowCount (batch : List StateEvent) : UInt64 := UInt64.ofNat batch.length

/-- Writes the rows that wait. Unless the disk works they are lost. -/
def flush (m : Moment) (s : Store) : Step Store (Except Fault Unit) :=
  if !s.isOpen then { result := .error .closed, state := s }
  else if s.pending.isEmpty then { result := .ok (), state := s }
  else if m.disk = .working then
    { result := .ok ()
      state := { s with tables := s.tables.putAll s.pending, pending := [] }
      emitted := [.log (.flushed s.pending.length), .metric (.flushed (rowCount s.pending)),
        .metric (.flushTime m.writeTime)] }
  else
    { result := .error (writeFault m)
      state := { s with pending := [] }
      emitted := [.log (.flushFailed (writeFault m) s.pending.length),
        .metric (.dropped flushReason (rowCount s.pending))] }

/-- Takes a row. A full buffer is flushed; that this may fail is no concern of the caller's. -/
def push (m : Moment) (e : StateEvent) (s : Store) : Step Store Unit :=
  if !s.isOpen then
    { result := (), state := s
      emitted := [.log (.droppedAfterClose e), .metric (.dropped closedReason 1)] }
  else
    let s := { s with pending := s.pending ++ [e] }
    if s.pending.length ≥ s.capacity then
      { (s.flush m) with result := () }
    else { result := (), state := s }

/-- Flushes and closes. A store whose rows cannot be written stays open, without them. -/
def close (m : Moment) (s : Store) : Step Store (Except Fault Unit) :=
  if !s.isOpen then { result := .error .closed, state := s }
  else
    let step := s.flush m
    match step.result with
    | .error f => { step with result := .error (.closeFailed f.message) }
    | .ok () => step.within fun s => { s with isOpen := false }

instance : Sink Store where
  append m e s := s.push m (e.event m)
  flush m s := s.flush m
  close m s := s.close m

/-! ## Questions -/

/-- What the tables of an open store say. -/
def ask {α : Type} (s : Store) (question : Tables → α) : Except Fault α :=
  if s.isOpen then .ok (question s.tables) else .error .closed

/-- The answer to a question about events. -/
def query (s : Store) (q : EventQuery) : Except Fault (List StateEvent) :=
  s.ask (·.query s.urnCase q)

/-- The events of one alert; a limit of zero is none. -/
def history (s : Store) (alert : Fingerprint) (limit : Nat) : Except Fault (List StateEvent) :=
  s.query (.forAlert alert limit)

/-- How many rows there are, readable or not. -/
def eventCount (s : Store) : Except Fault Nat :=
  s.ask (·.size)

end Store

end AlertLedger
