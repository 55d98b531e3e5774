/-
# Commands

What can be asked of the program, and which store a command needs under a configuration.
-/
import AlertLedger.Alert.Query
import AlertLedger.Config

namespace AlertLedger

/-- The forms of output. -/
inductive OutputForm where
  | table
  | json
deriving DecidableEq, Repr, Inhabited

/-- The forms of output by name. -/
def OutputForm.names : List (String × OutputForm) := [("table", .table), ("json", .json)]

/-- What is asked. -/
inductive Command where
  /-- The name and the version of the program. -/
  | version
  /-- The fingerprint of written labels. -/
  | fingerprint (labels : List String)
  /-- A replay of the stream in a file, with the metrics at the end or without. -/
  | replay (file : String) (metrics : Bool)
  /-- The events of the alert with a written fingerprint. -/
  | history (fingerprint : String) (limit : Nat)
  /-- The events that a question selects. -/
  | events (query : EventQuery)
  /-- Counts of all events. -/
  | stats
deriving DecidableEq, Repr

/-- The path of the store that a command opens. A replay opens one only if the ledger is enabled;
the commands that ask a store do not care. -/
def Command.storePath? (c : LedgerConfig) : Command → Option String
  | .version | .fingerprint _ => none
  | .replay .. => if c.enabled && c.backend == .store then some c.storagePath else none
  | .history .. | .events _ | .stats => if c.backend == .store then some c.storagePath else none

/-- A command with the options that all commands have in common. -/
structure Invocation where
  command : Command
  output : OutputForm := .table
  config : Option String := none
  logLevel : Option LogLevel := none
  logFormat : Option LogFormat := none
deriving DecidableEq, Repr

/-- What is logged and how, where the options override the configuration. -/
def Invocation.logging (i : Invocation) (c : LoggingConfig) : LoggingConfig where
  level := i.logLevel.getD c.level
  format := i.logFormat.getD c.format

end AlertLedger
