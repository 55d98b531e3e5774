/-
# Runs

What a command does with the files it finds. A run is a function: from the files, the moments at
which it makes its calls and the filter of its log to what it prints, what it complains of, what
it logs, and the files as it leaves them.

A complaint is a chain of messages from the outermost to the cause. A replay reads the whole
stream before it touches anything else, so a stream that is refused leaves the files as they were.
How stores are opened is an argument of the commands (`Run.Opener`), so that it can be said which
ones they open.
-/
import AlertLedger.Authority.Memory
import AlertLedger.Command.Report
import AlertLedger.Config.Load
import AlertLedger.Log.Filter
import AlertLedger.Operation.Stream
import AlertLedger.Sink.Chosen

namespace AlertLedger

/-! ## Log events of a run -/

namespace LogEvent

/-- The target of events about the start of the program. -/
def startupTarget : String := "alerttrail::startup"

/-- The program starts. -/
def starting (logging : LoggingConfig) (backend : Backend) : LogEvent where
  level := .debug
  target := startupTarget
  message := "alerttrail starting"
  fields := [("log_level", .text logging.level.name), ("log_format", .text logging.format.name),
    ("backend", .text backend.name)]

/-- Entries will go nowhere. -/
def ledgerDisabled : LogEvent where
  level := .info
  target := startupTarget
  message := "state log disabled, transitions will not be persisted"

/-- Entries will go into a store. -/
def ledgerInStore (c : LedgerConfig) : LogEvent where
  level := .info
  target := startupTarget
  message := "state log initialized (redb)"
  fields := [("path", .text c.storagePath), ("buffer_capacity", .number c.bufferCapacity.toNat)]

/-- Entries will go into the log. -/
def ledgerInLog : LogEvent where
  level := .info
  target := startupTarget
  message := "state log initialized (log)"

/-- A replay came to its end. -/
def replayComplete (s : ReplaySummary) : LogEvent where
  level := .info
  target := "alerttrail::commands"
  message := "replay complete"
  fields := [("operations", .number s.operations)]

end LogEvent

/-! ## Running -/

/-- Messages from the outermost one to the cause. -/
abbrev Complaint := List String

/-- How far a run has come: the files and what was emitted. -/
structure Progress where
  files : Files
  emitted : List Effect := []

/-- A part of a run. It may end in a complaint and leaves its traces even then. -/
abbrev Run := ExceptT Complaint (StateM Progress)

namespace Run

/-- Notes what was emitted. -/
def emit (effects : List Effect) : Run Unit :=
  modify fun p => { p with emitted := p.emitted ++ effects }

/-- A log event of the run itself. -/
def log (e : LogEvent) : Run Unit := emit [.log e]

/-- A result, or the complaint that it failed, with its cause. -/
def orComplain {ε α : Type} (message : String) (cause : ε → Complaint) : Except ε α → Run α
  | .ok a => pure a
  | .error e => throw (message :: cause e)

/-- Makes the directories that lead to a path. -/
def makeDirectoriesTo (path : String) : Run Unit := do
  match Files.directoriesTo path with
  | [] => pure ()
  | nearest :: above =>
    let (made, files) := (← get).files.makeDirectories (nearest :: above)
    modify fun p => { p with files }
    orComplain s!"failed to create {nearest}" (fun e => [e.message]) made

/-- A way to open the store at a path, on a disk and with a capacity. -/
abbrev Opener := String → Disk → Nat → Run Store

/-- Opens the store at a path. It is there from then on. Its ids are read strictly. -/
def openStore : Opener := fun path disk capacity => do
  makeDirectoriesTo path
  let found := (← get).files.storeFile path
  let store ← orComplain s!"failed to open state store {path}" (fun f => [f.message])
    (found.openStore disk capacity)
  modify fun p => { p with files := p.files.putStore path store.tables }
  return { store with urnCase := .lower }

/-! ## Replays -/

/-- The operations in a file. -/
def readOperations (path : String) : Run (List Operation) := do
  let files := (← get).files
  let node ← orComplain s!"failed to open {path}" (fun e : FileFault => [e.message])
    (files.look path)
  let failed := s!"failed to read operations from {path}"
  let bytes ← orComplain failed (fun e => [e.message]) (Files.bytesOf node)
  orComplain failed (fun e => [e.message]) (OperationStream.read bytes)

/-- The sink that a configuration asks for. -/
def chooseSink (openAt : Opener) (disk : Disk) (c : LedgerConfig) (storePath : Option String) :
    Run ChosenSink := do
  match storePath with
  | some path =>
    let store ← openAt path disk c.bufferCapacity.toNat
    log (.ledgerInStore c)
    return .stores { handles := [(path, { store })] }
  | none =>
    if c.enabled then
      log .ledgerInLog
      return .logging .mk
    else
      log .ledgerDisabled
      return .discarding .mk

/-- The trail of a replay. -/
abbrev ReplayTrail := Trail MemoryAuthority ChosenSink

/-- The files with what a sink left in those of its stores. -/
def leave (sink : ChosenSink) (files : Files) : Files :=
  match sink with
  | .stores shelf =>
    shelf.handles.foldl (fun files (path, handle) => files.putStore path handle.store.tables) files
  | _ => files

/-- Takes over what a step on the trail emitted, and what it left in the files of stores. -/
def settle {α : Type} (step : Step ReplayTrail α) : Run α := do
  emit step.emitted
  modify fun p => { p with files := leave step.state.sink p.files }
  return step.result

/-- How many alerts are in each state that the authority keeps track of. -/
def alertCounts (a : MemoryAuthority) : SortedMap String Nat :=
  .ofList ((AlertState.all.filter (· != .unprocessed)).map fun s => (s.name, a.countIn [s]))

/-- Replays the stream in a file, where stores are opened in the given way. -/
def replayBy (openAt : Opener) (clock : Nat → Moment) (c : LedgerConfig)
    (storePath : Option String) (path : String) : Run ReplayReport := do
  let operations ← readOperations path
  let sink ← chooseSink openAt (clock 0).disk c storePath
  let replayed := Trail.replay clock operations
    { authority := MemoryAuthority.empty, sink, metered := true }
  let summary ← orComplain "failed to flush replayed states" (fun f => [f.message])
    (← settle replayed)
  let refreshed := replayed.state.refresh
  settle refreshed
  let closed := refreshed.state.close (clock (operations.length + 1))
  orComplain "failed to close state log" (fun f => [f.message]) (← settle closed)
  log (.replayComplete summary)
  return { summary, alerts := alertCounts closed.state.authority }

/-- Replays the stream in a file. -/
def replay (clock : Nat → Moment) (c : LedgerConfig) (storePath : Option String)
    (path : String) : Run ReplayReport :=
  replayBy openStore clock c storePath path

/-! ## Questions -/

/-- Opens the store for a question. -/
def openForQuestion (openAt : Opener) (disk : Disk) (c : LedgerConfig)
    (storePath : Option String) : Run Store := do
  match storePath with
  | some path => openAt path disk c.bufferCapacity.toNat
  | none =>
    let asked := c.backend.name
    let possible := Backend.store.name
    throw [s!"state log backend '{asked}' cannot be queried, only '{possible}' can"]

/-- What a call answers, or the complaint about its fault. -/
def answer {α : Type} : Except Fault α → Run α
  | .ok a => pure a
  | .error f => throw [f.message]

/-! ## Commands -/

/-- The metrics of all that was emitted. -/
def metrics : Run MetricsRegistry :=
  return MetricsRegistry.empty.absorb (← get).emitted

/-- Runs a command under a configuration, where stores are opened in the given way: the lines that
it prints, and perhaps metrics after them. -/
def commandBy (openAt : Opener) (clock : Nat → Moment) (c : LedgerConfig) (form : OutputForm)
    (cmd : Command) : Run (List String × Option MetricsRegistry) := do
  let storePath := cmd.storePath? c
  match cmd with
  | .version => return (Report.print form Release.current, none)
  | .fingerprint labels =>
    return (Report.print form (← answer (LabelSet.parse labels)), none)
  | .replay file withMetrics =>
    let report ← replayBy openAt clock c storePath file
    let registry ← if withMetrics then some <$> metrics else pure none
    return (Report.print form report, registry)
  | .history fingerprint limit =>
    let alert ← answer (Fingerprint.parse fingerprint)
    let store ← openForQuestion openAt (clock 0).disk c storePath
    let events ← answer (store.history alert limit)
    return (Report.print form { alert, events : HistoryReport }, none)
  | .events query =>
    let store ← openForQuestion openAt (clock 0).disk c storePath
    let events ← answer (store.query query)
    return (Report.print form { offset := query.offset, events : EventsReport }, none)
  | .stats =>
    let store ← openForQuestion openAt (clock 0).disk c storePath
    let events ← answer (store.query {})
    let report : StatsReport := { storePath := c.storagePath, stats := .ofEvents events }
    return (Report.print form report, none)

/-- Runs a command under a configuration. -/
def command (clock : Nat → Moment) (c : LedgerConfig) (form : OutputForm) (cmd : Command) :
    Run (List String × Option MetricsRegistry) :=
  commandBy openStore clock c form cmd

end Run

/-! ## Invocations -/

/-- What a run finds: the files, the moments of its calls, and the directives for its log, if
there are any. -/
structure Surroundings where
  files : Files
  clock : Nat → Moment
  logDirectives : Option String := none

/-- What a run leaves behind. Without a complaint it succeeded, unless it broke off, which it does
without a word. -/
structure Outcome where
  files : Files
  lines : List String := []
  metrics : Option MetricsRegistry := none
  complaint : Option Complaint := none
  brokeOff : Bool := false
  logging : LoggingConfig := {}
  logged : List LogEvent := []

/-- The exit code that tells how a run went. -/
def Outcome.exitCode (o : Outcome) : Nat :=
  if o.brokeOff then 101 else if o.complaint.isSome then 1 else 0

namespace Invocation

/-- The path of the configuration that is looked for if none is named. -/
def defaultConfigPath : String := "/etc/alerttrail/config.yaml"

/-- The paths that an invocation reads before it knows its configuration. -/
def inputPaths (i : Invocation) : List String :=
  let stream := match i.command with
    | .replay file _ => [file]
    | _ => []
  i.config.getD defaultConfigPath :: stream

/-- Whether the command needs a configuration. -/
def needsConfig (i : Invocation) : Bool :=
  match i.command with
  | .version | .fingerprint _ => false
  | .replay .. | .history .. | .events _ | .stats => true

/-- The configuration of an invocation. One that is named must be there. -/
def loadConfig (i : Invocation) (f : Files) : Except Complaint Config :=
  let path := i.config.getD defaultConfigPath
  let loaded := if i.config.isSome then Config.load f path else Config.loadOrDefault f path
  loaded.mapError fun e => s!"failed to load config {path}" :: e.chain

/-- The path of the store that an invocation opens, if it gets that far. -/
def storePath? (i : Invocation) (f : Files) : Option String :=
  match i.loadConfig f with
  | .ok c => i.command.storePath? c.ledger
  | .error _ => none

/-- The filter of the log: the directives if they can be read, else the level that is asked for.
With directives that are torn there is none. -/
def logFilter? (directives : Option String) (logging : LoggingConfig) : Option LogFilter :=
  match directives.map LogFilter.read with
  | none | some (.error .malformed) => some (.ofLevel logging.level)
  | some (.error .torn) => none
  | some (.ok filter) => some filter

/-- The outcome of a run whose parts are known. -/
def outcome (logging : LoggingConfig) (filter : LogFilter)
    (r : Except Complaint (List String × Option MetricsRegistry)) (p : Progress) : Outcome :=
  let logged := (p.emitted.filterMap Effect.log?).filter filter.admits
  match r with
  | .ok (lines, metrics) => { files := p.files, lines, metrics, logging, logged }
  | .error complaint => { files := p.files, complaint := some complaint, logging, logged }

/-- Runs an invocation. Without a filter for its log it breaks off before it begins. -/
def run (i : Invocation) (s : Surroundings) : Outcome :=
  if i.needsConfig then
    match i.loadConfig s.files with
    | .error complaint => { files := s.files, complaint := some complaint }
    | .ok c =>
      let logging := i.logging c.logging
      match logFilter? s.logDirectives logging with
      | none => { files := s.files, brokeOff := true, logging }
      | some filter =>
        let body := do
          Run.log (.starting logging c.ledger.backend)
          Run.command s.clock c.ledger i.output i.command
        let (r, p) := (body.run).run { files := s.files }
        outcome logging filter r p
  else
    let (r, p) := (Run.command s.clock {} i.output i.command).run.run { files := s.files }
    outcome {} ⟨[]⟩ r p

end Invocation

end AlertLedger
