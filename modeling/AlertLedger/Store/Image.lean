/-
# Images of stores

The bytes in which the tables of a store lie on a disk: an opening by which such a file is known,
then the rows, each with its id, the size of its value and the value, then the keys of the index.
Both lists start with their count. Numbers have a fixed width, the first byte counting most.
-/
import AlertLedger.Store.Tables

namespace AlertLedger.Tables

/-- The bytes with which the file of a store starts. They are no text. -/
def opening : List UInt8 := [0x72, 0x65, 0x64, 0x62, 0x1a, 0x0a, 0xa9, 0x0d, 0x0a]

/-- A number in a fixed count of bytes. -/
def numberBytes : (width : Nat) → Nat → List UInt8
  | 0, _ => []
  | width + 1, n => numberBytes width (n / 256) ++ [UInt8.ofNat n]

/-- The width of counts and sizes. -/
def countWidth : Nat := 8

/-- The bytes of a row. -/
def rowBytes (id : Uuid) (value : List UInt8) : List UInt8 :=
  numberBytes 16 id.bits.toNat ++ numberBytes countWidth value.length ++ value

/-- The bytes of a key of the index. -/
def keyBytes (k : IndexKey) : List UInt8 :=
  numberBytes 8 k.alert.bits.toNat ++ numberBytes 16 k.id.bits.toNat

/-- The bytes of tables. -/
def image (t : Tables) : List UInt8 :=
  opening
    ++ numberBytes countWidth t.rows.size
    ++ t.rows.toList.flatMap (fun (id, value) => rowBytes id value)
    ++ numberBytes countWidth t.index.size
    ++ t.index.keys.flatMap keyBytes

/-! ## Reading -/

/-- Reads so many bytes. -/
def takeBytes? (count : Nat) (bytes : List UInt8) : Option (List UInt8 × List UInt8) :=
  let taken := bytes.take count
  if taken.length = count then some (taken, bytes.drop count) else none

/-- Reads a number of so many bytes. -/
def takeNumber? (width : Nat) (bytes : List UInt8) : Option (Nat × List UInt8) :=
  (takeBytes? width bytes).map fun (taken, rest) =>
    (taken.foldl (fun n b => 256 * n + b.toNat) 0, rest)

/-- Reads a row. -/
def takeRow? (bytes : List UInt8) : Option ((Uuid × List UInt8) × List UInt8) := do
  let (id, rest) ← takeNumber? 16 bytes
  let (size, rest) ← takeNumber? countWidth rest
  let (value, rest) ← takeBytes? size rest
  return ((.ofNat id, value), rest)

/-- Reads a key of the index. -/
def takeKey? (bytes : List UInt8) : Option ((IndexKey × Unit) × List UInt8) := do
  let (alert, rest) ← takeNumber? 8 bytes
  let (id, rest) ← takeNumber? 16 rest
  return ((⟨⟨UInt64.ofNat alert⟩, .ofNat id⟩, ()), rest)

/-- Reads so many things, one after the other. -/
def takeMany? {α : Type} (takeOne? : List UInt8 → Option (α × List UInt8)) :
    (count : Nat) → List UInt8 → Option (List α × List UInt8)
  | 0, bytes => some ([], bytes)
  | count + 1, bytes => do
    let (a, rest) ← takeOne? bytes
    let (others, rest) ← takeMany? takeOne? count rest
    return (a :: others, rest)

/-- The tables with an image. -/
def ofImage? (bytes : List UInt8) : Option Tables := do
  let (start, rest) ← takeBytes? opening.length bytes
  unless start = opening do failure
  let (count, rest) ← takeNumber? countWidth rest
  let (rows, rest) ← takeMany? takeRow? count rest
  let (count, rest) ← takeNumber? countWidth rest
  let (keys, rest) ← takeMany? takeKey? count rest
  unless rest.isEmpty do failure
  return ⟨.ofList rows, .ofList keys⟩

end AlertLedger.Tables
