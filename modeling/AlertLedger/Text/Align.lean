/-
# Aligned texts

Texts filled up with spaces to a width, for the columns of a table. The width counts characters; a
text that is wider stays as it is.
-/

namespace AlertLedger.Text

/-- The spaces that a text lacks of a width. -/
def filling (width : Nat) (s : String) : String :=
  String.ofList (List.replicate (width - s.length) ' ')

/-- A text at the left of a column. -/
def alignLeft (width : Nat) (s : String) : String := s ++ filling width s

/-- A text at the right of a column. -/
def alignRight (width : Nat) (s : String) : String := filling width s ++ s

end AlertLedger.Text
