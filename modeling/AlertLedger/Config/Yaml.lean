/-
# Configurations in YAML

Reading a configuration from YAML, the form in which its file is written. A text without document
is the default configuration.
-/
import AlertLedger.Config
import AlertLedger.Yaml.Record

namespace AlertLedger

open Yaml (Node Document)

/-- Reads the part on logging. -/
def LoggingConfig.ofYaml? (d : Document) (n : Node) : Option LoggingConfig := do
  let given ← d.record? ["log_level", "log_format"] n
  let default : LoggingConfig := {}
  let level ← Node.optional given "log_level" (Node.choice? LogLevel.names) default.level
  let format ← Node.optional given "log_format" (Node.choice? LogFormat.names) default.format
  return { level, format }

/-- Reads the part on the ledger. -/
def LedgerConfig.ofYaml? (d : Document) (n : Node) : Option LedgerConfig := do
  let given ← d.record? ["enabled", "backend", "storage_path", "buffer_capacity"] n
  let default : LedgerConfig := {}
  let enabled ← Node.optional given "enabled" Node.bool? default.enabled
  let backend ← Node.optional given "backend" (Node.choice? Backend.names) default.backend
  let storagePath ← Node.optional given "storage_path" Node.text? default.storagePath
  let bufferCapacity ← Node.optional given "buffer_capacity" Node.word? default.bufferCapacity
  return { enabled, backend, storagePath, bufferCapacity }

/-- Reads a configuration. It is not checked. -/
def Config.ofYaml? (d : Document) : Option Config := do
  let given ← d.record? ["agent", "state_log"] d.root
  let logging ← Node.optional given "agent" (LoggingConfig.ofYaml? d) {}
  let ledger ← Node.optional given "state_log" (LedgerConfig.ofYaml? d) {}
  return { logging, ledger }

end AlertLedger
