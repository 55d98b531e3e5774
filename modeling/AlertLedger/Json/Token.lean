/-
# JSON tokens

The words of a JSON text. Strings and numbers are checked for form here, but not yet read:
whether a string makes sense as text, or a number fits a double, is asked only of those parts of
a document that are used.
-/
import AlertLedger.Json.Number
import AlertLedger.Text.Utf8

namespace AlertLedger.Json

/-- The words of a JSON text; a string is given by the bytes between its quotes. -/
inductive Token where
  | objectOpen
  | objectClose
  | arrayOpen
  | arrayClose
  | colon
  | comma
  | null
  | bool (b : Bool)
  | number (n : Number)
  | string (body : List UInt8)
deriving DecidableEq, Repr

namespace Token

/-- Whether a byte may stand between tokens. -/
def isSpace (b : UInt8) : Bool :=
  b == 0x20 || b == 0x09 || b == 0x0a || b == 0x0d

/-- The tokens of one byte. -/
def punctuation? (b : UInt8) : Option Token :=
  if b = 0x7b then some .objectOpen
  else if b = 0x7d then some .objectClose
  else if b = 0x5b then some .arrayOpen
  else if b = 0x5d then some .arrayClose
  else if b = 0x3a then some .colon
  else if b = 0x2c then some .comma
  else none

/-- Whether a byte is a lower-case letter. -/
def isLetter (b : UInt8) : Bool := 0x61 ≤ b && b ≤ 0x7a

/-- The tokens that are words. -/
def word? (letters : List UInt8) : Option Token :=
  if letters = Text.encode "null" then some .null
  else if letters = Text.encode "true" then some (.bool true)
  else if letters = Text.encode "false" then some (.bool false)
  else none

/-- The value of a hexadecimal digit of either case. -/
def hexDigitValue? (b : UInt8) : Option Nat :=
  if 0x30 ≤ b ∧ b ≤ 0x39 then some (b.toNat - 0x30)
  else if 0x61 ≤ b ∧ b ≤ 0x66 then some (b.toNat - 0x57)
  else if 0x41 ≤ b ∧ b ≤ 0x46 then some (b.toNat - 0x37)
  else none

/-- The byte that a one-letter escape stands for. -/
def simpleEscape? (b : UInt8) : Option UInt8 :=
  if b = 0x22 ∨ b = 0x5c ∨ b = 0x2f then some b
  else if b = 0x62 then some 0x08
  else if b = 0x66 then some 0x0c
  else if b = 0x6e then some 0x0a
  else if b = 0x72 then some 0x0d
  else if b = 0x74 then some 0x09
  else none

/-- The rest of a string up to its closing quote, and what follows the quote. Control bytes are
refused, and so are escapes that are no escapes. -/
def scanString : List UInt8 → Option (List UInt8 × List UInt8)
  | [] => none
  | b :: rest =>
    if b = 0x22 then some ([], rest)
    else if b < 0x20 then none
    else if b = 0x5c then
      match rest with
      | [] => none
      | e :: rest =>
        if e = 0x75 then
          match rest with
          | h₁ :: h₂ :: h₃ :: h₄ :: rest =>
            if [h₁, h₂, h₃, h₄].all fun h => (hexDigitValue? h).isSome then
              (scanString rest).map fun p => (b :: e :: h₁ :: h₂ :: h₃ :: h₄ :: p.1, p.2)
            else none
          | _ => none
        else if (simpleEscape? e).isSome then
          (scanString rest).map fun p => (b :: e :: p.1, p.2)
        else none
    else (scanString rest).map fun p => (b :: p.1, p.2)

theorem length_lt_of_scanString {bytes body rest : List UInt8}
    (h : scanString bytes = some (body, rest)) : rest.length < bytes.length := by
  fun_induction scanString bytes generalizing body rest with
  | case5 | case8 | case10 =>
    rename_i ih
    obtain ⟨⟨_, _⟩, hp, hr⟩ := Option.map_eq_some_iff.mp h
    have hlt := ih hp
    simp only [Prod.mk.injEq] at hr
    simp only [List.length_cons, ← hr.2]
    omega
  | _ => simp_all

/-- The tokens of a JSON text. -/
def scan? : List UInt8 → Option (List Token)
  | [] => some []
  | b :: rest =>
    if isSpace b then scan? rest
    else match punctuation? b with
      | some t => (scan? rest).map (t :: ·)
      | none =>
        if b = 0x22 then
          match h : scanString rest with
          | some (body, rest') =>
            have := length_lt_of_scanString h
            (scan? rest').map (.string body :: ·)
          | none => none
        else if Number.isNumberByte b then
          have := (List.dropWhile_suffix Number.isNumberByte (l := rest)).length_le
          match Number.ofBytes? (b :: rest.takeWhile Number.isNumberByte) with
          | some n => (scan? (rest.dropWhile Number.isNumberByte)).map (.number n :: ·)
          | none => none
        else if isLetter b then
          have := (List.dropWhile_suffix isLetter (l := rest)).length_le
          match word? (b :: rest.takeWhile isLetter) with
          | some t => (scan? (rest.dropWhile isLetter)).map (t :: ·)
          | none => none
        else none
termination_by bytes => bytes.length

end Token

end AlertLedger.Json
