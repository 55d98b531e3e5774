/-
# Blank characters

The characters that count as white space, and trimming them off the two ends of a text.
The set is the Unicode property `White_Space`: twenty-five code points, most of them outside
ASCII, so `Char.isWhitespace`, which knows six, is not enough.
-/

namespace AlertLedger.Text

/-- The first and last code points of the ranges that make up `White_Space`. -/
def blankRanges : List (Nat × Nat) :=
  [(0x09, 0x0d), (0x20, 0x20), (0x85, 0x85), (0xa0, 0xa0), (0x1680, 0x1680), (0x2000, 0x200a),
    (0x2028, 0x2029), (0x202f, 0x202f), (0x205f, 0x205f), (0x3000, 0x3000)]

/-- Whether a character has the property `White_Space`. -/
def isBlank (c : Char) : Bool :=
  blankRanges.any fun (first, last) => first ≤ c.toNat && c.toNat ≤ last

/-- A text without the blank characters at its two ends. -/
def trimChars (cs : List Char) : List Char :=
  ((cs.dropWhile isBlank).reverse.dropWhile isBlank).reverse

/-- A string without the blank characters at its two ends. -/
def trim (s : String) : String :=
  String.ofList (trimChars s.toList)

/-- Whether nothing is left of a string once its blank ends are taken off. -/
def isBlankText (s : String) : Bool :=
  s.toList.all isBlank

end AlertLedger.Text
