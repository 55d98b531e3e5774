/-
# Loading configurations

A configuration comes from a text or from a file. It is handed out only if nothing is wrong with
it; a file that is missing may stand for the default.
-/
import AlertLedger.Config.Yaml
import AlertLedger.Files

namespace AlertLedger

/-- Why a configuration cannot be had. -/
inductive ConfigFault where
  /-- Its file cannot be read. -/
  | unreadable (f : FileFault)
  /-- Its text is no configuration. -/
  | malformed (detail : String)
  /-- Something is wrong with it. -/
  | invalid (f : ConfigFlaw)
deriving DecidableEq, Repr

/-- The wording of the fault. -/
def ConfigFault.message : ConfigFault → String
  | .unreadable f => s!"I/O error reading config: {f.message}"
  | .malformed detail => s!"YAML parse error: {detail}"
  | .invalid f => f.message

/-- The fault in words, followed by what is behind it. -/
def ConfigFault.chain : ConfigFault → List String
  | .unreadable f => [(ConfigFault.unreadable f).message, f.message]
  | f => [f.message]

namespace Config

/-- The configuration that a text spells. -/
def ofText? (text : String) : Option Config :=
  match Yaml.Document.parse? text with
  | none => none
  | some none => some {}
  | some (some d) => ofYaml? d

/-- A configuration, if nothing is wrong with it. -/
def checked (c : Config) : Except ConfigFault Config :=
  match c.flaw? with
  | none => .ok c
  | some f => .error (.invalid f)

/-- The configuration that a text spells. -/
def parse (text : String) : Except ConfigFault Config :=
  match ofText? text with
  | none => .error (.malformed "not a configuration")
  | some c => c.checked

/-- The configuration in a file. -/
def load (f : Files) (path : String) : Except ConfigFault Config :=
  match f.readText path with
  | .error e => .error (.unreadable e)
  | .ok text => parse text

/-- The configuration in a file, or the default if there is no such file. -/
def loadOrDefault (f : Files) (path : String) : Except ConfigFault Config :=
  match f.readText path with
  | .error .notFound => .ok {}
  | .error e => .error (.unreadable e)
  | .ok text => parse text

end Config

end AlertLedger
