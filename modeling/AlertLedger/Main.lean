/-
# The program

The outer layer: it looks up the files that an invocation needs, runs it, writes down what has
changed, and prints.
-/
import AlertLedger.Command.Arguments
import AlertLedger.Command.Run
import AlertLedger.Log.Line
import AlertLedger.Metrics.Exposition
import Std.Time

namespace AlertLedger.Console

/-! ## Files -/

/-- What lies at a path on the disk. -/
def nodeAt (path : String) : IO (Option FileNode) := do
  try
    let real ← IO.FS.realPath path
    if ← real.isDir then return some .directory
    let bytes := (← IO.FS.readBinFile real).toList
    return some (match Tables.ofImage? bytes with
      | some t => .store t
      | none => .plain bytes)
  catch _ => return none

/-- The files known before anything is looked up: the current directory and those above it. -/
def startingFiles : IO Files := do
  let here := ((← IO.currentDir).toString.splitOn "/").filter (· != "")
  let above := (List.range (here.length + 1)).map here.take
  return above.foldl (fun f names => f.place names .directory) { here }

/-- Looks up a path and the directories that lead to it. -/
def lookUp (f : Files) (path : String) : IO Files :=
  ((Files.directoriesTo path).reverse ++ [path]).foldlM (fun f p => do
    match f.locate p, ← nodeAt p with
    | .ok names, some n => return f.place names n
    | _, _ => return f) f

/-- Writes down what has changed. -/
def writeChanges (before after : Files) : IO Unit := do
  for (place, n) in after.nodes.toList do
    if before.nodes.find? place != some n then
      let path := "/" ++ place
      match n with
      | .directory => IO.FS.createDir path
      | .plain bytes => IO.FS.writeBinFile path bytes.toByteArray
      | .store t => IO.FS.writeBinFile path t.image.toByteArray

/-! ## Printing -/

/-- The lines in which a complaint is printed. -/
def complaintLines : Complaint → List String
  | [] => []
  | [message] => [s!"Error: {message}"]
  | [message, cause] => [s!"Error: {message}", "", "Caused by:", s!"    {cause}"]
  | message :: causes =>
    [s!"Error: {message}", "", "Caused by:"]
      ++ causes.zipIdx.map fun (cause, i) => s!"    {i}: {cause}"

/-- What is printed when help is asked for. -/
def help : List String :=
  ["Durable audit trail of alert state transitions", "",
    "Usage: alerttrail [OPTIONS] <COMMAND>", "",
    "Commands:",
    "  version      Display version and build information",
    "  fingerprint  Compute the fingerprint of a label set",
    "  replay       Replay recorded marker operations through the state log",
    "  history      Show the persisted state history of one alert",
    "  events       List persisted state events",
    "  stats        Row counts per state in the state store", "",
    "Options:",
    "  -c, --config <CONFIG>          Path to the YAML configuration file",
    "  -l, --log-level <LOG_LEVEL>    Log level override",
    "      --log-format <LOG_FORMAT>  Log format: json or text",
    "  -o, --output <OUTPUT>          Output format: table or json",
    "  -h, --help                     Print help",
    "  -V, --version                  Print version"]

/-! ## Running -/

/-- The moments of a run that starts now, and the time as it is shown in the log. -/
def startClock : IO ((disk : Disk) → Nat → Moment) := do
  let now := (← Std.Time.Timestamp.now).toNanosecondsSinceUnixEpoch.val.toNat
  let random := (← IO.getRandomBytes 8).foldl (fun n b => 256 * n + b.toNat) 0
  return fun disk i =>
    { id := .ofTime (now / 1000000) (random * 256 + i), now := UInt64.ofNat (now + i), disk }

/-- The time as it is shown in the log. -/
def timeText : IO String := do
  return (Std.Time.DateTime.ofTimestamp (← Std.Time.Timestamp.now) .UTC).toISO8601String

/-- Runs an invocation on the disk. If what it wrote cannot be kept, it runs again with a full
disk. -/
def perform (i : Invocation) : IO Outcome := do
  let files ← (i.inputPaths).foldlM lookUp (← startingFiles)
  let files ← (i.storePath? files).toList.foldlM lookUp files
  let clock ← startClock
  let logDirectives ← IO.getEnv "RUST_LOG"
  let outcome := i.run { files, clock := clock .working, logDirectives }
  try
    writeChanges files outcome.files
    return outcome
  catch _ => return i.run { files, clock := clock .full, logDirectives }

end AlertLedger.Console

open AlertLedger Console in
/-- Runs the program with its arguments; its result is the exit code. -/
def main (arguments : List String) : IO UInt32 := do
  match Invocation.parse (← IO.getEnv "ALERTTRAIL_CONFIG") arguments with
  | .error .refused =>
    IO.eprintln "error: invalid arguments\n\nFor more information, try '--help'."
    return 2
  | .error .help =>
    help.forM IO.println
    return 0
  | .error .version =>
    (Report.lines Release.current).forM IO.println
    return 0
  | .ok invocation =>
    let outcome ← perform invocation
    let time ← timeText
    outcome.logged.forM fun e => IO.eprintln (e.line outcome.logging.format time)
    outcome.lines.forM IO.println
    if let some registry := outcome.metrics then
      (registry.lines toString).forM IO.println
    if let some complaint := outcome.complaint then
      (complaintLines complaint).forM IO.eprintln
    return outcome.exitCode.toUInt32
