/-
# Slices

Parts of a text by their offsets in bytes. An offset is usable only where a character starts or
the text ends.
-/

namespace AlertLedger.Text

/-- How many bytes characters take up in UTF-8. -/
def byteCount : List Char → Nat
  | [] => 0
  | c :: cs => c.utf8Size + byteCount cs

/-- The characters in the first `n` bytes and those after them, unless a character lies across. -/
def splitBytes? : (n : Nat) → List Char → Option (List Char × List Char)
  | 0, cs => some ([], cs)
  | _, [] => none
  | n, c :: cs =>
    if c.utf8Size ≤ n then
      (splitBytes? (n - c.utf8Size) cs).map fun (taken, rest) => (c :: taken, rest)
    else none

/-- The part of a string between two offsets. -/
def slice? (start stop : Nat) (s : String) : Option String := do
  let (_, rest) ← splitBytes? start s.toList
  let (part, _) ← splitBytes? (stop - start) rest
  return String.ofList part

end AlertLedger.Text
