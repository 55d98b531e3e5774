/-
# The tables of a store

A store keeps its rows in two sorted tables: the rows by id, and an index with the pairs of alert
and id. Ids are handed out in ascending order, so going through a table is going through time.
A value is the JSON form of an event; the tables of a file may hold anything, and what cannot be
read is passed over. How strictly the ids in the values are read is up to the reader.

A question about one alert is answered through the index (`lookup`), any other one by going
through the rows (`scan`).
-/
import AlertLedger.Alert.Query
import AlertLedger.Encoding.Event

namespace AlertLedger

/-- A key of the index: an alert and the id of one of its rows. -/
structure IndexKey where
  alert : Fingerprint
  id : Uuid
deriving DecidableEq, Repr

namespace IndexKey

/-- Keys by alert first. -/
instance : Ord IndexKey := ⟨compareLex (compareOn alert) (compareOn id)⟩

instance : Std.TransOrd IndexKey :=
  inferInstanceAs (Std.TransCmp (compareLex (compareOn alert) (compareOn id)))

instance : Std.LawfulEqOrd IndexKey where
  compare_self {a} :=
    @Std.ReflCmp.compare_self _ (compareLex (compareOn alert) (compareOn id)) _ a
  eq_of_compare {a b} h := by
    obtain ⟨h₁, h₂⟩ := Ordering.then_eq_eq.mp (show (compareOn alert a b).then _ = .eq from h)
    cases a; cases b
    simp_all [compareOn]

end IndexKey

/-- The two tables of a store. -/
structure Tables where
  rows : SortedMap Uuid (List UInt8)
  index : SortedMap IndexKey Unit
deriving DecidableEq

namespace Tables

/-- The tables of a new store. -/
def empty : Tables := ⟨.empty, .empty⟩

instance : Inhabited Tables := ⟨empty⟩

/-- The tables with the row of an event. -/
def put (t : Tables) (e : StateEvent) : Tables where
  rows := t.rows.insert e.id e.encode
  index := t.index.insert ⟨e.fingerprint, e.id⟩ ()

/-- The tables with the rows of a batch. -/
def putAll (t : Tables) (batch : List StateEvent) : Tables :=
  batch.foldl put t

/-- All events, by id. -/
def scan (t : Tables) (urnCase : UrnCase) : List StateEvent :=
  t.rows.values.filterMap (StateEvent.decode? urnCase)

/-- The ids of an alert's rows, as the index has them. -/
def idsOf (t : Tables) (alert : Fingerprint) : List Uuid :=
  (t.index.keys.filter (·.alert == alert)).map (·.id)

/-- The event in a row. -/
def event? (t : Tables) (urnCase : UrnCase) (id : Uuid) : Option StateEvent :=
  (t.rows.find? id).bind (StateEvent.decode? urnCase)

/-- The events of the rows to which the index points for an alert, by id. -/
def lookup (t : Tables) (urnCase : UrnCase) (alert : Fingerprint) : List StateEvent :=
  (t.idsOf alert).filterMap (t.event? urnCase)

/-- The answer to a question. -/
def query (t : Tables) (urnCase : UrnCase) (q : EventQuery) : List StateEvent :=
  q.select <| match q.fingerprint with
    | some alert => t.lookup urnCase alert
    | none => t.scan urnCase

/-- How many rows there are, readable or not. -/
def size (t : Tables) : Nat := t.rows.size

end Tables

end AlertLedger
