/-
# Configurations in JSON

A configuration as a JSON value. Its records are closed: a member that they do not know is refused.
All fields may be left out.
-/
import AlertLedger.Config
import AlertLedger.Json.Record

namespace AlertLedger

open Json (Value)

/-- A level is its name. -/
def LogLevel.toJson (l : LogLevel) : Value := .string l.name

/-- Reads a level by its exact name. -/
def LogLevel.ofJson? : Value → Option LogLevel := Value.named? names

/-- A format is its name. -/
def LogFormat.toJson (f : LogFormat) : Value := .string f.name

/-- Reads a format by its exact name. -/
def LogFormat.ofJson? : Value → Option LogFormat := Value.named? names

/-- A backend is its name. -/
def Backend.toJson (b : Backend) : Value := .string b.name

/-- Reads a backend by its exact name. -/
def Backend.ofJson? : Value → Option Backend := Value.named? names

namespace LoggingConfig

/-- The fields of the record in their order. -/
def fields : List String := ["log_level", "log_format"]

/-- The record with all its fields. -/
def toJson (c : LoggingConfig) : Value :=
  .object [("log_level", c.level.toJson), ("log_format", c.format.toJson)]

/-- Reads the record. -/
def ofJson? (v : Value) : Option LoggingConfig := do
  let given ← v.record? fields true
  let default : LoggingConfig := {}
  let level ← Json.optional given "log_level" LogLevel.ofJson? default.level
  let format ← Json.optional given "log_format" LogFormat.ofJson? default.format
  return { level, format }

end LoggingConfig

namespace LedgerConfig

/-- The fields of the record in their order. -/
def fields : List String := ["enabled", "backend", "storage_path", "buffer_capacity"]

/-- The record with all its fields. -/
def toJson (c : LedgerConfig) : Value :=
  .object [("enabled", .bool c.enabled), ("backend", c.backend.toJson),
    ("storage_path", .string c.storagePath), ("buffer_capacity", .ofWord c.bufferCapacity)]

/-- Reads the record. -/
def ofJson? (v : Value) : Option LedgerConfig := do
  let given ← v.record? fields true
  let default : LedgerConfig := {}
  let enabled ← Json.optional given "enabled" Value.bool? default.enabled
  let backend ← Json.optional given "backend" Backend.ofJson? default.backend
  let storagePath ← Json.optional given "storage_path" Value.string? default.storagePath
  let bufferCapacity ← Json.optional given "buffer_capacity" Value.word? default.bufferCapacity
  return { enabled, backend, storagePath, bufferCapacity }

end LedgerConfig

namespace Config

/-- The fields of the record in their order. -/
def fields : List String := ["agent", "state_log"]

/-- The record with all its fields. -/
def toJson (c : Config) : Value :=
  .object [("agent", c.logging.toJson), ("state_log", c.ledger.toJson)]

/-- Reads the record. It is not checked. -/
def ofJson? (v : Value) : Option Config := do
  let given ← v.record? fields true
  let logging ← Json.optional given "agent" LoggingConfig.ofJson? {}
  let ledger ← Json.optional given "state_log" LedgerConfig.ofJson? {}
  return { logging, ledger }

end Config

end AlertLedger
