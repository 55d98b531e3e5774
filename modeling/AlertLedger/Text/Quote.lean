/-
# Quoted texts

Texts in double quotes as they stand in a log. Quotes, backslashes and whatever could not be told
apart on a screen are escaped, the latter by number.
-/
import AlertLedger.Text.Shapeless

namespace AlertLedger.Text

/-- A number in hexadecimal digits, without leading zeros. -/
def hexNumber (n : Nat) : List Char := Nat.toDigits 16 n

/-- The escape of a character by its number. -/
def numberEscape (c : Char) : List Char :=
  ['\\', 'u', Char.ofNat 0x7b] ++ hexNumber c.toNat ++ [Char.ofNat 0x7d]

/-- A character as it stands between quotes. -/
def quoteChar (c : Char) : List Char :=
  if c = '"' then ['\\', '"']
  else if c = '\\' then ['\\', '\\']
  else if c = '\n' then ['\\', 'n']
  else if c = '\r' then ['\\', 'r']
  else if c = '\t' then ['\\', 't']
  else if c.toNat = 0 then ['\\', '0']
  else if c.toNat < 0x20 || isShapeless c then numberEscape c
  else [c]

/-- A text in quotes. -/
def quote (s : String) : String :=
  String.ofList ('"' :: (s.toList.flatMap quoteChar ++ ['"']))

/-- A list of texts in quotes, in brackets and with commas between them. -/
def quoteList (l : List String) : String :=
  "[" ++ ", ".intercalate (l.map quote) ++ "]"

end AlertLedger.Text
