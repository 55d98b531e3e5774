/-
# JSON numbers

A number as it is written, and what becomes of it when it is read. Only natural numbers of 64
bits are used for anything; all others are told apart only by whether they are too large for a
double. That test works as the reading of a double does when it is done in two rounded factors:
the leading digits as far as they fit 64 bits, and a power of ten.
-/

namespace AlertLedger.Json

/-- A written number: the digits before and after the point, and the power of ten. A number
without point has an empty fraction, one without exponent has none. -/
structure Number where
  negative : Bool
  whole : List Nat
  fraction : List Nat
  exponent : Option (Bool × List Nat)
deriving DecidableEq, Repr

namespace Number

/-! ## Written form -/

/-- Whether a byte occurs in numbers at all. -/
def isNumberByte (b : UInt8) : Bool :=
  (0x30 ≤ b && b ≤ 0x39) || b == 0x2d || b == 0x2b || b == 0x2e || b == 0x45 || b == 0x65

/-- Whether a byte is a decimal digit. -/
def isDigit (b : UInt8) : Bool := 0x30 ≤ b && b ≤ 0x39

/-- The value of a decimal digit. -/
def digit (b : UInt8) : Nat := b.toNat - 0x30

/-- The digits at the head, and what follows them. -/
def splitDigits (bytes : List UInt8) : List Nat × List UInt8 :=
  ((bytes.takeWhile isDigit).map digit, bytes.dropWhile isDigit)

/-- The exponent, from its letter on. Nothing at all is no exponent. -/
def readExponent? : List UInt8 → Option (Option (Bool × List Nat))
  | [] => some none
  | e :: rest =>
    if e == 0x45 || e == 0x65 then
      let (negative, rest) := match rest with
        | 0x2d :: rest => (true, rest)
        | 0x2b :: rest => (false, rest)
        | rest => (false, rest)
      match splitDigits rest with
      | ([], _) => none
      | (ds, []) => some (some (negative, ds))
      | (_, _ :: _) => none
    else none

/-- The fraction, from the point on, and what follows it. -/
def readFraction? : List UInt8 → Option (List Nat × List UInt8)
  | 0x2e :: rest =>
    match splitDigits rest with
    | ([], _) => none
    | (ds, rest) => some (ds, rest)
  | rest => some ([], rest)

/-- Reads a number that takes up all the bytes. A zero before the point stands alone. -/
def ofBytes? (bytes : List UInt8) : Option Number :=
  let (negative, bytes) := match bytes with
    | 0x2d :: rest => (true, rest)
    | rest => (false, rest)
  match splitDigits bytes with
  | ([], _) => none
  | (0 :: _ :: _, _) => none
  | (whole, rest) => do
    let (fraction, rest) ← readFraction? rest
    let exponent ← readExponent? rest
    return { negative, whole, fraction, exponent }

/-! ## Value -/

/-- The number with the given decimal digits. -/
def ofDigits (ds : List Nat) : Nat := ds.foldl (10 * · + ·) 0

/-- One more than the largest number of 64 bits. -/
def wordBound : Nat := UInt64.size

/-- The number, if it is written as a natural number of 64 bits. -/
def natural? (n : Number) : Option Nat :=
  if n.negative || !n.fraction.isEmpty || n.exponent.isSome then none
  else if ofDigits n.whole < wordBound then some (ofDigits n.whole) else none

/-- Takes in a digit before the point: as long as the digits fit 64 bits they are kept, from
then on they only raise the power of ten. -/
def takeWhole (acc : Nat × Nat × Bool) (d : Nat) : Nat × Nat × Bool :=
  let (kept, power, full) := acc
  if full || wordBound ≤ 10 * kept + d then (kept, power + 1, true)
  else (10 * kept + d, power, false)

/-- Takes in a digit after the point: as long as the digits fit 64 bits they are kept and lower
the power of ten, from then on they are dropped. -/
def takeFraction (acc : Nat × Int × Bool) (d : Nat) : Nat × Int × Bool :=
  let (kept, power, full) := acc
  if full || wordBound ≤ 10 * kept + d then (kept, power, true)
  else (10 * kept + d, power - 1, false)

/-- The kept digits and the power of ten that the whole part and the fraction stand for. -/
def scaled (n : Number) : Nat × Int :=
  let (kept, power, _) := n.whole.foldl takeWhole (0, 0, false)
  let (kept, power, _) := n.fraction.foldl takeFraction (kept, (power : Int), false)
  (kept, power)

/-- The nearest number with at most 53 significant binary digits; a tie goes to the even one. -/
def roundToDouble (n : Nat) : Nat :=
  if n < 0x20000000000000 then n
  else
    let shift := n.log2 - 52
    let unit := Nat.pow 2 shift
    let q := n / unit
    let r := n % unit
    let q := if 2 * r > unit || (2 * r == unit && q % 2 == 1) then q + 1 else q
    q * unit

/-- The least number that is rounded to infinity instead of a double. -/
def doubleBound : Nat := Nat.pow 2 1024 - Nat.pow 2 970

/-- The largest power of ten that is a double. -/
def maxPower : Nat := 308

/-- Exponents from here on are not computed: such a number is too large or it is zero. -/
def exponentBound : Nat := 0x80000000

/-- Whether the number is too large for a double. -/
def tooLarge (n : Number) : Bool :=
  let (kept, power) := n.scaled
  let overflows (power : Int) : Bool :=
    power > maxPower || doubleBound ≤ roundToDouble kept * roundToDouble (Nat.pow 10 power.toNat)
  if kept == 0 then false
  else match n.exponent with
    | none => power ≥ 0 && overflows power
    | some (true, ds) =>
      let power := power - ofDigits ds
      ofDigits ds < exponentBound && power ≥ 0 && overflows power
    | some (false, ds) =>
      let power := power + ofDigits ds
      exponentBound ≤ ofDigits ds || (power ≥ 0 && overflows power)

end Number

end AlertLedger.Json
