/-
# Configuration

How much is logged, and where the ledger keeps its rows. A configuration is checked when it is
read: the buffer must have a capacity within bounds, and a store in use must have a path.
-/
import AlertLedger.Log.Level
import AlertLedger.Text.Blank

namespace AlertLedger

/-- Where the rows of the ledger go. -/
inductive Backend where
  /-- Into a store. -/
  | store
  /-- Into the log. -/
  | log
deriving DecidableEq, Repr, Inhabited

namespace Backend

/-- All backends. -/
def all : List Backend := [.store, .log]

/-- The name of a backend. -/
def name : Backend → String
  | .store => "redb"
  | .log => "log"

instance : ToString Backend := ⟨name⟩

/-- The backends by name. -/
def names : List (String × Backend) := all.map fun b => (b.name, b)

end Backend

/-- How much is logged, and how. -/
structure LoggingConfig where
  level : LogLevel := .info
  format : LogFormat := .json
deriving DecidableEq, Repr, Inhabited

/-- Where the rows of the ledger go, and how many of them make a batch. -/
structure LedgerConfig where
  enabled : Bool := true
  backend : Backend := .store
  storagePath : String := "data/alert_states.redb"
  bufferCapacity : UInt64 := 2048
deriving DecidableEq, Repr, Inhabited

/-- A configuration. -/
structure Config where
  logging : LoggingConfig := {}
  ledger : LedgerConfig := {}
deriving DecidableEq, Repr, Inhabited

/-- What is wrong with a configuration that could be read. -/
inductive ConfigFlaw where
  /-- The capacity of the buffer is out of bounds. -/
  | capacity (given : UInt64)
  /-- A store is in use but has no path. -/
  | storagePath
deriving DecidableEq, Repr

namespace Config

/-- The smallest capacity of the buffer. -/
def minCapacity : UInt64 := 1

/-- The largest capacity of the buffer. -/
def maxCapacity : UInt64 := 1000000

/-- What is wrong with a configuration, if anything is. The capacity is looked at first. -/
def flaw? (c : Config) : Option ConfigFlaw :=
  if c.ledger.bufferCapacity < minCapacity ∨ maxCapacity < c.ledger.bufferCapacity then
    some (.capacity c.ledger.bufferCapacity)
  else if c.ledger.enabled ∧ c.ledger.backend = .store ∧ Text.isBlankText c.ledger.storagePath then
    some .storagePath
  else none

end Config

namespace ConfigFlaw

/-- The field that is wrong. -/
def field : ConfigFlaw → String
  | .capacity _ => "state_log.buffer_capacity"
  | .storagePath => "state_log.storage_path"

/-- What is wrong with it. -/
def reason : ConfigFlaw → String
  | .capacity given =>
    let given := given.toNat
    let least := Config.minCapacity.toNat
    let most := Config.maxCapacity.toNat
    s!"value {given} outside allowed range {least}..={most}"
  | .storagePath => "a storage path is required for the redb backend"

/-- The wording of the flaw. -/
def message (f : ConfigFlaw) : String :=
  s!"validation error: {f.field}: {f.reason}"

end ConfigFlaw

end AlertLedger
