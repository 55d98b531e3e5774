/-
# Hexadecimal digits

Numbers written with a fixed count of lower-case hexadecimal digits, most significant first, and
read back.
-/

namespace AlertLedger.Text

/-- The lower-case digit of a number below sixteen. -/
def hexDigit (n : Nat) : Char :=
  if n < 10 then Char.ofNat (0x30 + n) else Char.ofNat (0x57 + n)

/-- The value of a lower-case hexadecimal digit. -/
def hexValue? (c : Char) : Option Nat :=
  if '0' ≤ c ∧ c ≤ '9' then some (c.toNat - 0x30)
  else if 'a' ≤ c ∧ c ≤ 'f' then some (c.toNat - 0x57)
  else none

/-- The value of a hexadecimal digit of either case. -/
def hexValueAnyCase? (c : Char) : Option Nat :=
  if 'A' ≤ c ∧ c ≤ 'F' then some (c.toNat - 0x37) else hexValue? c

/-- The last `width` hexadecimal digits of a number. -/
def hexDigits : (width : Nat) → Nat → List Char
  | 0, _ => []
  | width + 1, n => hexDigits width (n / 16) ++ [hexDigit (n % 16)]

/-- The number that a list of digits stands for; `digit?` gives the value of one. -/
def readDigits? (base : Nat) (digit? : Char → Option Nat) (cs : List Char) : Option Nat :=
  cs.foldlM (fun n c => (digit? c).map (base * n + ·)) 0

/-- The value of a decimal digit. -/
def decimalValue? (c : Char) : Option Nat :=
  if '0' ≤ c ∧ c ≤ '9' then some (c.toNat - 0x30) else none

/-- The number written with decimal digits and nothing else; no digits are no number. -/
def readDecimal? (cs : List Char) : Option Nat :=
  if cs.isEmpty then none else readDigits? 10 decimalValue? cs

end AlertLedger.Text
