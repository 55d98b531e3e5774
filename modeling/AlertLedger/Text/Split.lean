/-
# Split texts

The parts of a text between separators. There is one part more than there are separators, so a
text without separators is its own only part.
-/

namespace AlertLedger.Text

/-- The parts of a text between the characters that separate them. -/
def splitChars (separator : Char) : List Char → List (List Char)
  | [] => [[]]
  | c :: cs =>
    if c = separator then [] :: splitChars separator cs
    else match splitChars separator cs with
      | [] => [[c]]
      | part :: parts => (c :: part) :: parts

/-- The parts of a string between the characters that separate them. -/
def split (separator : Char) (s : String) : List String :=
  (splitChars separator s.toList).map String.ofList

/-- The string with a separator between any two of its parts. -/
def join (separator : Char) (parts : List String) : String :=
  String.intercalate separator.toString parts

end AlertLedger.Text
