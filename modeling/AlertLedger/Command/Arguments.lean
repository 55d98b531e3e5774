/-
# Arguments

How an invocation is spelled. Options common to all commands stand before the command or after it,
where the later one counts; before the command or after it, none may be given twice. An option has
a long name and perhaps a short one; its value follows as the next argument or after an equals
sign, and directly after a short name. What follows two dashes alone is no option.
-/
import AlertLedger.Alert.State
import AlertLedger.Command
import AlertLedger.Text.Hex
import AlertLedger.Text.Split

namespace AlertLedger

/-- How arguments end that name no command to run. -/
inductive ArgumentsEnd where
  /-- They are wrong. -/
  | refused
  /-- They ask for help. -/
  | help
  /-- They ask for the version. -/
  | version
deriving DecidableEq, Repr

/-! ## Options -/

/-- The options. -/
inductive OptionName where
  | config
  | logLevel
  | logFormat
  | output
  | metrics
  | state
  | reason
  | limit
  | offset
  | help
  | version
deriving DecidableEq, Repr

namespace OptionName

/-- The long name, after two dashes. -/
def long : OptionName → String
  | .config => "config"
  | .logLevel => "log-level"
  | .logFormat => "log-format"
  | .output => "output"
  | .metrics => "metrics"
  | .state => "state"
  | .reason => "reason"
  | .limit => "limit"
  | .offset => "offset"
  | .help => "help"
  | .version => "version"

/-- The short name, after one dash. -/
def short? : OptionName → Option Char
  | .config => some 'c'
  | .logLevel => some 'l'
  | .output => some 'o'
  | .help => some 'h'
  | .version => some 'V'
  | .logFormat | .metrics | .state | .reason | .limit | .offset => none

/-- Whether the option has a value. -/
def hasValue : OptionName → Bool
  | .metrics | .help | .version => false
  | _ => true

/-- The options that all commands have in common. -/
def common : List OptionName := [.config, .logLevel, .logFormat, .output, .help]

end OptionName

/-- What was given before the command, or after it. -/
structure GivenOptions where
  config : Option String := none
  logLevel : Option LogLevel := none
  logFormat : Option LogFormat := none
  output : Option OutputForm := none
  metrics : Bool := false
  state : Option AlertState := none
  reason : Option SuppressionReason := none
  limit : Option Nat := none
  offset : Option Nat := none
  operands : List String := []
deriving DecidableEq, Repr

namespace GivenOptions

/-- A count of 64 bits; a plus sign may stand before it. -/
def readCount? (text : String) : Option Nat :=
  let digits := match text.toList with
    | '+' :: rest => rest
    | cs => cs
  (Text.readDecimal? digits).filter (· < UInt64.size)

/-- A path, which must not be empty. -/
def readPath? (text : String) : Option String :=
  if text.isEmpty then none else some text

/-- A value read for an option that must not have one yet. -/
def once {α : Type} (old : Option α) (read : Option α) : Except ArgumentsEnd (Option α) :=
  match old, read with
  | none, some a => .ok (some a)
  | _, _ => .error .refused

/-- Sets an option to a written value. -/
def set (g : GivenOptions) (o : OptionName) (value : String) :
    Except ArgumentsEnd GivenOptions :=
  match o with
  | .config => return { g with config := ← once g.config (readPath? value) }
  | .logLevel => return { g with logLevel := ← once g.logLevel (LogLevel.parse value).toOption }
  | .logFormat => return { g with logFormat := ← once g.logFormat (LogFormat.parse value).toOption }
  | .output => return { g with output := ← once g.output (OutputForm.names.lookup value) }
  | .state => return { g with state := ← once g.state (AlertState.parse value).toOption }
  | .reason => return { g with reason := ← once g.reason (SuppressionReason.parse value).toOption }
  | .limit => return { g with limit := ← once g.limit (readCount? value) }
  | .offset => return { g with offset := ← once g.offset (readCount? value) }
  | .metrics | .help | .version => .error .refused

/-- Sets an option that has no value. -/
def mark (g : GivenOptions) (o : OptionName) : Except ArgumentsEnd GivenOptions :=
  match o with
  | .help => .error .help
  | .version => .error .version
  | .metrics => if g.metrics then .error .refused else .ok { g with metrics := true }
  | _ => .error .refused

/-- Takes an argument that is no option, if there is room for it. -/
def take (g : GivenOptions) (room : Option Nat) (argument : String) :
    Except ArgumentsEnd GivenOptions :=
  if room.all (g.operands.length < ·) then .ok { g with operands := g.operands ++ [argument] }
  else .error .refused

/-! ## Reading arguments -/

/-- Reads the letters after a single dash. The last option may have its value still to come. -/
def readShort (options : List OptionName) (g : GivenOptions) :
    List Char → Except ArgumentsEnd (GivenOptions × Option OptionName)
  | [] => .ok (g, none)
  | c :: cs =>
    match options.find? (·.short? == some c) with
    | none => .error .refused
    | some o =>
      if o.hasValue then
        -- No option can follow in the same argument.
        match cs with
        | [] => .ok (g, some o)
        | '=' :: value => return (← g.set o (String.ofList value), none)
        | value => return (← g.set o (String.ofList value), none)
      else do readShort options (← g.mark o) cs

/-- Reads what stands after two dashes. The value may be still to come. -/
def readLong (options : List OptionName) (g : GivenOptions) (cs : List Char) :
    Except ArgumentsEnd (GivenOptions × Option OptionName) :=
  let name := cs.takeWhile (· != '=')
  match options.find? (·.long == String.ofList name), cs.drop name.length with
  | none, _ => .error .refused
  | some o, '=' :: value =>
    if o.hasValue then return (← g.set o (String.ofList value), none) else .error .refused
  | some o, _ => if o.hasValue then .ok (g, some o) else return (← g.mark o, none)

/-- Whether an argument looks like an option. A dash alone does not. -/
def looksLikeOption (argument : String) : Bool :=
  match argument.toList with
  | '-' :: _ :: _ => true
  | _ => false

/-- Reads arguments up to the first one that names a command. -/
def read (options : List OptionName) (room : Option Nat) (isCommand : String → Bool)
    (g : GivenOptions) : List String → Except ArgumentsEnd (GivenOptions × List String)
  | [] => .ok (g, [])
  | argument :: rest =>
    if isCommand argument then .ok (g, argument :: rest)
    else match argument.toList with
      | ['-', '-'] => return (← rest.foldlM (·.take room ·) g, [])
      | '-' :: c :: cs => do
        let (g, pending) ← if c = '-' then g.readLong options cs else g.readShort options (c :: cs)
        match pending, rest with
        | none, rest => read options room isCommand g rest
        | some o, value :: rest =>
          if looksLikeOption value then .error .refused
          else read options room isCommand (← g.set o value) rest
        | some _, [] => .error .refused
      | _ => do read options room isCommand (← g.take room argument) rest

end GivenOptions

/-! ## Commands -/

/-- The names of commands. -/
inductive CommandName where
  | version
  | fingerprint
  | replay
  | history
  | events
  | stats
  | help
deriving DecidableEq, Repr

namespace CommandName

/-- The commands by name. -/
def names : List (String × CommandName) :=
  [("version", .version), ("fingerprint", .fingerprint), ("replay", .replay),
    ("history", .history), ("events", .events), ("stats", .stats), ("help", .help)]

/-- The options of a command beside the common ones. -/
def options : CommandName → List OptionName
  | .replay => [.metrics]
  | .history => [.limit]
  | .events => [.state, .reason, .limit, .offset]
  | .version | .fingerprint | .stats | .help => []

/-- How many operands a command may have. -/
def room : CommandName → Option Nat
  | .fingerprint => none
  | .replay | .history | .help => some 1
  | .version | .events | .stats => some 0

/-- How many events are given if no limit is. -/
def defaultLimit : Nat := 100

/-- The command for what was given after its name. -/
def command (name : CommandName) (g : GivenOptions) : Except ArgumentsEnd Command :=
  match name, g.operands with
  | .version, _ => .ok .version
  | .fingerprint, label :: labels => .ok (.fingerprint (label :: labels))
  | .replay, [file] => if file.isEmpty then .error .refused else .ok (.replay file g.metrics)
  | .history, [alert] => .ok (.history alert (g.limit.getD defaultLimit))
  | .events, _ =>
    .ok (.events { state := g.state, reason := g.reason, limit := g.limit.getD defaultLimit,
                   offset := g.offset.getD 0 })
  | .stats, _ => .ok .stats
  | .help, [] => .error .help
  | .help, topic :: _ => .error (if (names.lookup topic).isSome then .help else .refused)
  | .fingerprint, [] | .replay, _ | .history, _ => .error .refused

end CommandName

/-- Reads an invocation. The variable gives a path of a configuration for when no option does; it
is looked at wherever the option could have been, so an empty one is refused even if the option is
given once. -/
def Invocation.parse (configVariable : Option String) (arguments : List String) :
    Except ArgumentsEnd Invocation := do
  let isCommand (s : String) := (CommandName.names.lookup s).isSome
  let (outer, rest) ←
    GivenOptions.read (.version :: OptionName.common) (some 0) isCommand {} arguments
  match rest with
  | [] => .error .refused
  | word :: rest =>
    match CommandName.names.lookup word with
    | none => .error .refused
    | some name =>
      let (inner, _) ←
        GivenOptions.read (name.options ++ OptionName.common) name.room (fun _ => false) {} rest
      let command ← name.command inner
      -- What stands after the command counts first, and the variable last.
      let configs := [inner.config, outer.config]
      if configVariable == some "" && configs.any Option.isNone then .error .refused
      else return {
        command
        output := (inner.output <|> outer.output).getD .table
        config := inner.config <|> outer.config <|> configVariable
        logLevel := inner.logLevel <|> outer.logLevel
        logFormat := inner.logFormat <|> outer.logFormat }

end AlertLedger
