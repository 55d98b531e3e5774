/-
# Log levels and formats

How much is logged and in which form. Both are read by name in upper or lower case, with one
further spelling each.
-/
import AlertLedger.Text.Named

namespace AlertLedger

/-- The levels of log events, from the gravest to the least. -/
inductive LogLevel where
  | error
  | warn
  | info
  | debug
  | trace
deriving DecidableEq, Repr, Inhabited

namespace LogLevel

/-- All levels. -/
def all : List LogLevel := [.error, .warn, .info, .debug, .trace]

/-- The name of a level. -/
def name : LogLevel → String
  | .error => "error"
  | .warn => "warn"
  | .info => "info"
  | .debug => "debug"
  | .trace => "trace"

instance : ToString LogLevel := ⟨name⟩

/-- The name of a level as it stands in a log line. -/
def label : LogLevel → String
  | .error => "ERROR"
  | .warn => "WARN"
  | .info => "INFO"
  | .debug => "DEBUG"
  | .trace => "TRACE"

/-- How many levels are at least as grave. -/
def verbosity : LogLevel → Nat
  | .error => 1
  | .warn => 2
  | .info => 3
  | .debug => 4
  | .trace => 5

/-- The levels by name. -/
def names : List (String × LogLevel) := all.map fun l => (l.name, l)

/-- The levels by all their spellings. -/
def spellings : List (String × LogLevel) := names ++ [("warning", .warn)]

/-- Reads a level, or says what is expected. -/
def parse (text : String) : Except String LogLevel :=
  match Text.findSpelling? spellings text with
  | some l => .ok l
  | none => .error s!"invalid log level '{text}': expected error|warn|info|debug|trace"

end LogLevel

/-- The forms of log lines. -/
inductive LogFormat where
  | json
  | text
deriving DecidableEq, Repr, Inhabited

namespace LogFormat

/-- All formats. -/
def all : List LogFormat := [.json, .text]

/-- The name of a format. -/
def name : LogFormat → String
  | .json => "json"
  | .text => "text"

instance : ToString LogFormat := ⟨name⟩

/-- The formats by name. -/
def names : List (String × LogFormat) := all.map fun f => (f.name, f)

/-- The formats by all their spellings. -/
def spellings : List (String × LogFormat) := names ++ [("pretty", .text)]

/-- Reads a format, or says what is expected. -/
def parse (text : String) : Except String LogFormat :=
  match Text.findSpelling? spellings text with
  | some f => .ok f
  | none => .error s!"invalid log format '{text}': expected json|text"

end LogFormat

end AlertLedger
