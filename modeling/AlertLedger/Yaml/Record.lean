/-
# Records in YAML

How the nodes of a document are taken for values of a known kind. A string is any scalar as it is
written. Truth values and numbers must be plain; in a literal block they are recognised only under
the tag of their kind. A record is a mapping, each of whose keys is known and given once, or
a plain scalar without text. An alias counts as the node that it stands for.
-/
import AlertLedger.Yaml.Node
import AlertLedger.Text.Hex

namespace AlertLedger.Yaml

namespace Node

/-! ## Scalars -/

/-- What the tags of the standard kinds start with. -/
def standardTags : String := "tag:yaml.org,2002:"

/-- The text of a scalar. -/
def text? : Node → Option String
  | .scalar text _ _ => some text
  | _ => none

/-- The text of a scalar that may be of a kind other than a string. -/
def bareText? (kind : String) : Node → Option String
  | .scalar text .plain _ => some text
  | .scalar text .literal (some tag) =>
    if tag == Text.encode (standardTags ++ kind) then some text else none
  | _ => none

/-- The spellings of the truth values. -/
def boolSpellings : List (String × Bool) :=
  [("true", true), ("True", true), ("TRUE", true),
    ("false", false), ("False", false), ("FALSE", false)]

/-- A truth value. -/
def bool? (n : Node) : Option Bool :=
  (n.bareText? "bool").bind fun text => boolSpellings.lookup text

/-- The number written with digits of a base; there must be one at least. -/
def readBase? (base : Nat) (cs : List Char) : Option Nat :=
  let digit? c := (Text.hexValueAnyCase? c).filter (· < base)
  if cs.isEmpty then none else Text.readDigits? base digit? cs

/-- A number written with digits, in base ten unless the first two characters say otherwise. In
base ten there are no zeros in front. A plus sign may stand before it. -/
def readNatural? (cs : List Char) : Option Nat :=
  let digits := match cs with
    | '+' :: rest => rest
    | _ => cs
  match digits with
  | '0' :: 'x' :: rest => readBase? 16 rest
  | '0' :: 'o' :: rest => readBase? 8 rest
  | '0' :: 'b' :: rest => readBase? 2 rest
  | '0' :: _ :: _ => none
  | _ => readBase? 10 digits

/-- A number of 64 bits. -/
def word? (n : Node) : Option UInt64 := do
  let text ← n.bareText? "int"
  let value ← readNatural? text.toList
  if value < UInt64.size then some (UInt64.ofNat value) else none

/-- The spellings of a value that is none. -/
def nullSpellings : List String := ["null", "Null", "NULL", "~"]

/-- Whether a scalar is nothing: a plain one without text, or one that spells it. -/
def isNothing (text : String) (style : ScalarStyle) : Bool :=
  style == .plain && (text == "" || nullSpellings.contains text)

/-- The name in a local tag, one that starts with an exclamation mark. A tag that is no text has
none. -/
def localName? (tag : List UInt8) : Option String := do
  match (← Text.decode? tag).toList with
  | '!' :: name => some (String.ofList name)
  | _ => none

/-- A value of a closed set by its exact name: the text of a scalar, or a local tag on nothing. -/
def choice? {α : Type _} (names : List (String × α)) : Node → Option α
  | .scalar text style tag? =>
    match tag?.bind localName? with
    | some name => if isNothing text style then names.lookup name else none
    | none => names.lookup text
  | _ => none

end Node

/-! ## Records -/

namespace Document

/-- The nodes that give the fields of a record. -/
def record? (d : Document) (fields : List String) : Node → Option (List (String × Node))
  | .mapping _ pairs => do
    let given ← pairs.mapM fun (key, value) => do
      return (← (← d.follow? key).text?, ← d.follow? value)
    let keys := given.map (·.1)
    if keys.Nodup ∧ keys.all fields.contains then some given else none
  | .scalar text style _ => if text == "" && style == .plain then some [] else none
  | _ => none

end Document

/-- A field that has a default. -/
def Node.optional {α : Type _} (given : List (String × Node)) (name : String)
    (read? : Node → Option α) (default : α) : Option α :=
  match given.lookup name with
  | none => some default
  | some n => read? n

end AlertLedger.Yaml
