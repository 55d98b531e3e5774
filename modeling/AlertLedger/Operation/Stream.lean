/-
# Recorded streams

A recorded stream is a file with one operation on each line. Blank lines and lines that start
with a number sign are skipped. A stream with a line that cannot be read is refused as a whole,
and the first such line is named.
-/
import AlertLedger.Encoding.Operation
import AlertLedger.Text.Blank

namespace AlertLedger

/-- Why a stream is refused. -/
inductive StreamFault where
  /-- A line is not UTF-8. -/
  | notText
  /-- The line of this number, counted from one, is not an operation. -/
  | invalidLine (number : Nat)
deriving DecidableEq, Repr

/-- The wording of the fault. -/
def StreamFault.message : StreamFault → String
  | .notText => "stream did not contain valid UTF-8"
  | .invalidLine number => s!"line {number}: invalid operation"

namespace OperationStream

/-- The lines of a file without the bytes that end them: a line feed, or a carriage return and a
line feed. What follows the last line feed is a line unless it is nothing. -/
def lines (bytes : List UInt8) : List (List UInt8) :=
  let rec go (line : List UInt8) : List UInt8 → List (List UInt8)
    | [] => if line.isEmpty then [] else [line.reverse]
    | 0x0a :: rest => (match line with | 0x0d :: l => l | l => l).reverse :: go [] rest
    | b :: rest => go (b :: line) rest
  go [] bytes

/-- The operation on a line, or none if the line is skipped. -/
def readLine (number : Nat) (line : List UInt8) : Except StreamFault (Option Operation) :=
  match Text.decode? line with
  | none => .error .notText
  | some text =>
    match Text.trimChars text.toList with
    | [] => .ok none
    | '#' :: _ => .ok none
    | cs =>
      match Operation.decode? (Text.encode (String.ofList cs)) with
      | some op => .ok (some op)
      | none => .error (.invalidLine number)

/-- The operations on lines, of which the first one has the given number. -/
def readLines (number : Nat) : List (List UInt8) → Except StreamFault (List Operation)
  | [] => .ok []
  | line :: rest => do
    let op ← readLine number line
    let ops ← readLines (number + 1) rest
    return op.toList ++ ops

/-- The operations of a stream in their order. -/
def read (bytes : List UInt8) : Except StreamFault (List Operation) :=
  readLines 1 (lines bytes)

end OperationStream

end AlertLedger
