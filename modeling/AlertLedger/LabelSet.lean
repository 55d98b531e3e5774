/-
# Label sets

An alert described by labels rather than by its fingerprint. The fingerprint of a label set is
the 64-bit FNV-1a hash of its byte stream: the labels in ascending order of their names, each as
name, separator, value, separator. The separator byte `0xff` occurs in no UTF-8 text.
-/
import AlertLedger.Fingerprint
import AlertLedger.SortedMap
import AlertLedger.Text.Blank
import AlertLedger.Text.Utf8

namespace AlertLedger

/-! ## The hash -/

namespace Fnv1a

/-- The hash of no bytes. -/
def offsetBasis : UInt64 := 0xcbf29ce484222325

/-- The multiplier, an odd number. -/
def prime : UInt64 := 0x100000001b3

/-- Takes one byte into a hash. -/
def step (hash : UInt64) (b : UInt8) : UInt64 :=
  (hash ^^^ b.toUInt64) * prime

/-- Takes bytes into a hash, from left to right. -/
def extend (hash : UInt64) (bytes : List UInt8) : UInt64 :=
  bytes.foldl step hash

end Fnv1a

/-! ## Label sets -/

/-- Labels: a value for each of finitely many names. -/
structure LabelSet where
  labels : SortedMap String String
deriving DecidableEq

namespace LabelSet

instance : Inhabited LabelSet := ⟨⟨.empty⟩⟩

/-- The label set without labels. -/
def empty : LabelSet := ⟨.empty⟩

/-- The label set with a label added, or its value replaced. -/
def insert (l : LabelSet) (name value : String) : LabelSet :=
  ⟨l.labels.insert name value⟩

/-- The label set of a list of labels; of several values for one name the last one counts. -/
def ofList (pairs : List (String × String)) : LabelSet :=
  pairs.foldl (fun l p => l.insert p.1 p.2) empty

/-- The value of a label. -/
def get? (l : LabelSet) (name : String) : Option String :=
  l.labels.find? name

/-- The labels in ascending order of their names. -/
def toList (l : LabelSet) : List (String × String) :=
  l.labels.toList

/-- The byte that ends a name or a value in the byte stream of a label set. -/
def separator : UInt8 := 0xff

/-- The bytes of one label. -/
def labelBytes (p : String × String) : List UInt8 :=
  Text.encode p.1 ++ separator :: (Text.encode p.2 ++ [separator])

/-- The byte stream that is hashed. -/
def bytes (l : LabelSet) : List UInt8 :=
  l.toList.flatMap labelBytes

/-- The fingerprint of the alert with these labels. -/
def fingerprint (l : LabelSet) : Fingerprint :=
  ⟨Fnv1a.extend Fnv1a.offsetBasis l.bytes⟩

/-- What stands before the first equals sign and what stands after it. -/
def splitAtEquals? : List Char → Option (List Char × List Char)
  | [] => none
  | c :: cs => if c = '=' then some ([], cs) else (splitAtEquals? cs).map fun p => (c :: p.1, p.2)

/-- Reads a label written as name, equals sign, value. Blank characters around the name are
dropped, the value is kept as it stands. A name of blank characters only is refused. -/
def parsePair (text : String) : Except Fault (String × String) :=
  let refused := Fault.invalidLabel s!"'{text}': expected name=value"
  match splitAtEquals? text.toList with
  | none => .error refused
  | some (name, value) =>
    match Text.trimChars name with
    | [] => .error refused
    | name => .ok (String.ofList name, String.ofList value)

/-- The label set of written labels, or the fault of the first one that cannot be read. -/
def parse (texts : List String) : Except Fault LabelSet :=
  (texts.mapM parsePair).map ofList

end LabelSet

end AlertLedger
