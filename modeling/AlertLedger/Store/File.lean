/-
# Files of stores

A store lies in a file. It is opened by one caller at a time: as long as it is open the file is
busy. A file that does not exist yet becomes an empty store. To open a store is to write to its
file.

On a real disk a write that fails is the last one: a handle is a store that gives up writing after
its first lost batch, even when the disk works again.
-/
import AlertLedger.Store

namespace AlertLedger

/-- What is found where the file of a store should be. -/
inductive StoreFile where
  /-- Nothing, in a directory that exists. -/
  | absent
  /-- A store that no one has open. -/
  | holding (t : Tables)
  /-- A store that someone has open. -/
  | busy
  /-- Something that is no store, or a place where there can be none. -/
  | unusable

/-- Opens a store. On a full disk there is no room for a new one. -/
def StoreFile.openStore (f : StoreFile) (disk : Disk) (capacity : Nat) : Except Fault Store :=
  match f, disk with
  | .absent, .working => .ok (.onTables .empty capacity)
  | .holding t, .working | .holding t, .full => .ok (.onTables t capacity)
  | _, _ => .error (.storeUnavailable "redb open failed")

/-! ## Handles -/

/-- An open store, and whether it still tries to write. -/
structure StoreHandle where
  store : Store
  works : Bool := true

namespace StoreHandle

/-- Whether a batch was lost. -/
def lostBatch (emitted : List Effect) : Bool :=
  (emitted.filterMap Effect.metric?).any fun
    | .dropped reason _ => reason == Store.flushReason
    | _ => false

/-- A call on the store. -/
def call {α : Type} (f : Moment → Store → Step Store α) (m : Moment) (h : StoreHandle) :
    Step StoreHandle α :=
  let step := f { m with disk := if h.works then m.disk else .failing } h.store
  step.within fun store => { store, works := h.works && !lostBatch step.emitted }

instance : Sink StoreHandle where
  append m e := call (fun m => Sink.append m e) m
  flush := call Sink.flush
  close := call Sink.close

end StoreHandle

/-! ## Shelves -/

/-- Handles on stores in several files, numbered in the order in which they were opened, and what
lay in the files before. The first handle is the shelf's own: it takes the entries that are
handed to the shelf as a sink. -/
structure Shelf where
  found : List (String × Tables) := []
  handles : List (String × StoreHandle) := []

namespace Shelf

/-- What is found in a file now. -/
def file (s : Shelf) (name : String) : StoreFile :=
  let onFile := s.handles.filter (·.1 == name)
  if onFile.any (·.2.store.isOpen) then .busy
  -- The handle that was opened last has seen all that was written.
  else match onFile.getLast? with
    | some (_, h) => .holding h.store.tables
    | none => ((s.found.lookup name).map .holding).getD .absent

/-- Opens the store in a file; its number is the count of the handles before it. -/
def openFile (s : Shelf) (name : String) (disk : Disk) (capacity : Nat) :
    Except Fault (Nat × Shelf) := do
  let store ← (s.file name).openStore disk capacity
  return (s.handles.length, { s with handles := s.handles ++ [(name, { store })] })

/-- The store with a number. -/
def store? (s : Shelf) (number : Nat) : Option Store :=
  (s.handles[number]?).map (·.2.store)

/-- A call on the store with a number; on a number without store it does nothing. -/
def call {α : Type} (number : Nat) (missing : α) (f : StoreHandle → Step StoreHandle α)
    (s : Shelf) : Step Shelf α :=
  match s.handles[number]? with
  | none => { result := missing, state := s }
  | some (name, h) => (f h).within fun h => { s with handles := s.handles.set number (name, h) }

instance : Sink Shelf where
  append m e := call 0 () (Sink.append m e)
  flush m := call 0 (.ok ()) (Sink.flush m)
  close m := call 0 (.ok ()) (Sink.close m)

end Shelf

end AlertLedger
