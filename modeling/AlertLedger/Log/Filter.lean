/-
# Filters

Which log events are let through. A filter is a list of directives, each of which sets a threshold
for the events it covers: those whose target is in a branch, or those that have a field, or all.
Of the directives that cover an event the one that is aimed most closely counts: the one with the
longest branch, then one that asks for a field; of two that are aimed alike it is the later one.
An event that no directive covers is dropped.

A directive may also name a span, a stretch of the run, or ask for the value of a field of one.
Nothing is logged within a span here, so that such a directive covers nothing.

Where the parts of a directive end is looked up in the text without the blanks around it, but they
are taken out of the text as it stands, at the same offsets. Where these fall within a character
the directive is torn, which is worse than one that cannot be read.
-/
import AlertLedger.Log.Event
import AlertLedger.Log.Pattern
import AlertLedger.Text.Alphanumeric
import AlertLedger.Text.Blank
import AlertLedger.Text.Hex
import AlertLedger.Text.Slice
import AlertLedger.Text.Split

namespace AlertLedger

/-- A threshold for some events. The verbosity counts the levels that are let through, from the
gravest on. -/
structure LogDirective where
  branch : Option String := none
  field : Option String := none
  ofSpan : Bool := false
  verbosity : Nat
deriving DecidableEq, Repr

/-- Why a directive cannot be had. -/
inductive LogDirectiveFault where
  /-- It is none. -/
  | malformed
  /-- A part of it would start or end within a character. -/
  | torn
deriving DecidableEq, Repr

namespace LogDirective

/-! ## Reading -/

/-- The verbosity that lets everything through. -/
def fullVerbosity : Nat := LogLevel.trace.verbosity

/-- The verbosities by name. -/
def verbosityNames : List (String × Nat) :=
  ("off", 0) :: LogLevel.all.map fun l => (l.name, l.verbosity)

/-- Reads a verbosity: a name in upper or lower ASCII case, or its number. -/
def readVerbosity? (text : String) : Option Nat :=
  let digits := match text.toList with
    | '+' :: rest => rest
    | cs => cs
  match Text.readDecimal? digits with
  | some n => if n ≤ fullVerbosity then some n else none
  | none => verbosityNames.lookup (text.map Char.toLower)

/-- Whether a directive may start with a character. -/
def mayStart (c : Char) : Bool :=
  c == '[' || c == '-' || c == ':' || c == '_' || Text.isAlphanumeric c

/-- The offset of the first of some characters in a text that starts at an offset, and the text
from there on. -/
def upTo (stops : List Char) (offset : Nat) (cs : List Char) : Nat × List Char :=
  let (passed, rest) := cs.span (!stops.contains ·)
  (offset + Text.byteCount passed, rest)

/-- The part of a text between two offsets. -/
def cut (start stop : Nat) (text : String) : Except LogDirectiveFault String :=
  match Text.slice? start stop text with
  | some part => .ok part
  | none => .error .torn

/-- A verbosity where there must be one. -/
def wantVerbosity (text : String) : Except LogDirectiveFault Nat :=
  match readVerbosity? text with
  | some n => .ok n
  | none => .error .malformed

/-- Completes a directive, of which the text from an offset on is left: nothing, or an equals sign
and a verbosity. Without a verbosity everything is let through. -/
def complete (text : String) (offset : Nat) (rest : List Char) (d : LogDirective) :
    Except LogDirectiveFault LogDirective :=
  match rest with
  | [] => .ok { d with verbosity := fullVerbosity }
  | '=' :: _ => do
    let word ← cut (offset + 1) text.utf8ByteSize text
    return { d with verbosity := ← if word.isEmpty then pure fullVerbosity else wantVerbosity word }
  | _ => .error .malformed

/-- Reads the field that a directive asks for, and perhaps its value after an equals sign. -/
def asking (d : LogDirective) (field : String) : Except LogDirectiveFault LogDirective :=
  match Text.split '=' field with
  | [""] | [] => .error .malformed
  | [name] => .ok { d with field := some name }
  | name :: value :: _ =>
    if Pattern.isValue value then .ok { d with field := some name, ofSpan := true }
    else .error .malformed

/-- Reads what stands in brackets from an offset on: a span, and perhaps a field in braces. -/
def bracketed (text : String) (branch : Option String) (start : Nat) (cs : List Char) :
    Except LogDirectiveFault LogDirective :=
  let (stop, rest) := upTo [']', '\x7b'] start cs
  let d : LogDirective := { branch, verbosity := fullVerbosity }
  match rest with
  | ']' :: rest => do
    let _ ← cut start stop text
    complete text (stop + 1) rest { d with ofSpan := true }
  | '\x7b' :: rest => do
    let span ← cut start stop text
    let (fieldStop, rest) := upTo ['\x7d'] (stop + 1) rest
    match rest with
    | '\x7d' :: rest =>
      let field ← cut (stop + 1) fieldStop text
      let d ← { d with ofSpan := span != "" }.asking field
      match rest with
      | ']' :: rest => complete text (fieldStop + 2) rest d
      | _ => throw .malformed
    | _ => throw .malformed
  | _ => .error .malformed

/-- Reads a directive: a branch, brackets, or both, and a verbosity after an equals sign; or a
verbosity alone. -/
def read (text : String) : Except LogDirectiveFault LogDirective :=
  let shape := (Text.trim text).toList
  if !shape.head?.any mayStart then .error .malformed
  else
    let (stop, rest) := upTo ['=', '['] 0 shape
    match rest with
    | [] =>
      match readVerbosity? text with
      | some verbosity => .ok { verbosity }
      | none => .ok { branch := some text, verbosity := fullVerbosity }
    | '[' :: rest => do
      let branch ← if stop == 0 then pure none else some <$> cut 0 stop text
      bracketed text branch (stop + 1) rest
    | rest => do
      let branch ← cut 0 stop text
      complete text stop rest { branch := some branch, verbosity := fullVerbosity }

/-! ## Covering -/

/-- Whether a directive covers an event. -/
def covers (d : LogDirective) (e : LogEvent) : Bool :=
  !d.ofSpan && d.branch.all (fun b => b.toList.isPrefixOf e.target.toList)
    && d.field.all e.hasField

/-- Whether a directive is aimed at least as closely as another one that covers the same event. -/
def atLeastAsClose (d other : LogDirective) : Bool :=
  let length (d : LogDirective) := (d.branch.map (·.length + 1)).getD 0
  if length d = length other then
    match d.field, other.field with
    | some f, some g => g ≤ f
    | none, some _ => false
    | _, none => true
  else length d > length other

end LogDirective

/-- The directives of a filter. -/
structure LogFilter where
  directives : List LogDirective
deriving DecidableEq, Repr

namespace LogFilter

/-- The filter with one threshold for all targets. -/
def ofLevel (l : LogLevel) : LogFilter := ⟨[{ verbosity := l.verbosity }]⟩

/-- Reads a filter: directives with commas between them. The first fault counts. Without any
directive errors alone are let through. -/
def read (text : String) : Except LogDirectiveFault LogFilter := do
  let words := (Text.split ',' text).filter (· != "")
  let directives ← words.mapM LogDirective.read
  return if directives.isEmpty then ofLevel .error else ⟨directives⟩

/-- The directive that counts for an event. -/
def directive? (f : LogFilter) (e : LogEvent) : Option LogDirective :=
  (f.directives.filter (·.covers e)).foldl (fun best d =>
    match best with
    | some b => if d.atLeastAsClose b then some d else some b
    | none => some d) none

/-- Whether an event is let through. -/
def admits (f : LogFilter) (e : LogEvent) : Bool :=
  match f.directive? e with
  | some d => e.level.verbosity ≤ d.verbosity
  | none => false

end LogFilter

end AlertLedger
