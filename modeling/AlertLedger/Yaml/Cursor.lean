/-
# A place in a YAML text

The text from a place on, with the line and the column of the place, and the characters that
matter wherever a text is read. Columns count characters from zero.
-/

namespace AlertLedger.Yaml

/-- A place in a text: what follows it, how many characters come before it, its line and its
column. -/
structure Cursor where
  rest : List Char
  index : Nat := 0
  line : Nat := 0
  column : Nat := 0

/-! ## Classes of characters -/

/-- Line feed, carriage return, next line, line separator and paragraph separator. -/
def isBreak (c : Char) : Bool :=
  c == '\n' || c == '\r' || c.toNat == 0x85 || c.toNat == 0x2028 || c.toNat == 0x2029

/-- Space and tab. -/
def isSpaceOrTab (c : Char) : Bool := c == ' ' || c == '\t'

/-- The characters of names: letters and digits of ASCII, hyphen and low line. -/
def isNameChar (c : Char) : Bool := c.isAlphanum || c == '-' || c == '_'

/-- The mark that may open a line and says nothing. -/
def byteOrderMark : Char := Char.ofNat 0xfeff

/-- Whether a character may stand in a text at all. -/
def isAllowed (c : Char) : Bool :=
  let n := c.toNat
  n == 0x09 || n == 0x0a || n == 0x0d || (0x20 ≤ n && n ≤ 0x7e) || n == 0x85
    || (0xa0 ≤ n && n ≤ 0xfffd) || 0x10000 ≤ n

namespace Cursor

/-! ## Looking -/

/-- The character some places ahead. -/
def look (c : Cursor) (ahead : Nat) : Option Char := c.rest[ahead]?

/-- Whether the next character is the given one. -/
def sees (c : Cursor) (ch : Char) : Bool := c.rest.head? == some ch

/-- Whether a break stands some places ahead. -/
def breakAt (c : Cursor) (ahead : Nat) : Bool := (c.look ahead).any isBreak

/-- Whether a space or a tab stands some places ahead. -/
def blankAt (c : Cursor) (ahead : Nat) : Bool := (c.look ahead).any isSpaceOrTab

/-- Whether a space, a tab, a break or the end of the text stands some places ahead. -/
def gapAt (c : Cursor) (ahead : Nat) : Bool :=
  (c.look ahead).all fun ch => isSpaceOrTab ch || isBreak ch

/-- Whether nothing follows. -/
def atEnd (c : Cursor) : Bool := c.rest.isEmpty

/-- Whether a break or the end of the text follows. -/
def atLineEnd (c : Cursor) : Bool := (c.look 0).all isBreak

/-- Whether a line starts here that consists of three equal characters and then a gap. -/
def marksDocument (c : Cursor) (ch : Char) : Bool :=
  c.column == 0 && c.rest.take 3 == [ch, ch, ch] && c.gapAt 3

/-- Whether a line starts here that opens or closes a document. -/
def atDocumentMark (c : Cursor) : Bool := c.marksDocument '-' || c.marksDocument '.'

/-! ## Moving -/

/-- The place some characters further on in the same line. -/
def skip (c : Cursor) (n : Nat) : Cursor :=
  { c with rest := c.rest.drop n, index := c.index + n, column := c.column + n }

/-- The characters up to the first one that does not belong to the class, and the place of that
one. There is no break in the class. -/
def span (c : Cursor) (p : Char → Bool) : List Char × Cursor :=
  let cs := c.rest.takeWhile p
  (cs, c.skip cs.length)

/-- The place after the characters of the class. -/
def skipWhile (c : Cursor) (p : Char → Bool) : Cursor := (c.span p).2

/-- The place after a break, and what the break is in a scalar: a line feed for most of them. -/
def takeBreak (c : Cursor) : List Char × Cursor :=
  match c.rest with
  | '\r' :: '\n' :: rest =>
    (['\n'], { rest, index := c.index + 2, line := c.line + 1, column := 0 })
  | ch :: rest =>
    let next : Cursor := { rest, index := c.index + 1, line := c.line + 1, column := 0 }
    if ch.toNat == 0x2028 || ch.toNat == 0x2029 then ([ch], next)
    else if isBreak ch then (['\n'], next)
    else ([], c)
  | [] => ([], c)

/-- The place after a break. -/
def skipBreak (c : Cursor) : Cursor := c.takeBreak.2

/-- The place after blanks and a comment at the end of a line; there must be nothing else. -/
def skipToLineEnd? (c : Cursor) : Option Cursor :=
  let c := c.skipWhile isSpaceOrTab
  let c := if c.sees '#' then c.skipWhile (!isBreak ·) else c
  if !c.atLineEnd then none else some c.skipBreak

end Cursor

end AlertLedger.Yaml
