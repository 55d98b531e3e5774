/-
# JSON numbers read back

A natural number is printed with its decimal digits and without a leading zero. They are the form
of a number without fraction and exponent, whose value is the number that was printed
(`Number.ofBytes?_decimal`, `Number.natural?_ofNat`).
-/
import AlertLedger.Json.Number
import AlertLedger.Proofs.Text.Utf8
import Mathlib.Data.List.TakeWhile

namespace AlertLedger.Json.Number

open Text (encodeChars)

/-- The bytes of a printed natural number. -/
def decimal (n : Nat) : List UInt8 := encodeChars (Nat.toDigits 10 n)

/-- The decimal digits of a natural number. -/
def digitsOf (n : Nat) : List Nat := (decimal n).map digit

/-- A natural number as it is printed. -/
def ofNat (n : Nat) : Number where
  negative := false
  whole := digitsOf n
  fraction := []
  exponent := none

/-! ### Digits -/

lemma encodeChar_digitChar {d : Nat} (h : d < 10) :
    ∃ b, String.utf8EncodeChar d.digitChar = [b] ∧ isDigit b ∧ digit b = d := by
  have hall : ∀ d < 10, d.digitChar.toNat < 0x80 ∧ isDigit (UInt8.ofNat d.digitChar.toNat) ∧
      digit (UInt8.ofNat d.digitChar.toNat) = d := by
    decide
  obtain ⟨hlt, hd⟩ := hall d h
  exact ⟨_, Text.encodeChar_of_lt hlt, hd⟩

lemma decimal_of_lt {n : Nat} (h : n < 10) : decimal n = String.utf8EncodeChar n.digitChar := by
  rw [decimal, Nat.toDigits_of_lt_base h, Text.encodeChars_cons, Text.encodeChars_nil,
    List.append_nil]

lemma decimal_of_le {n : Nat} (h : 10 ≤ n) :
    decimal n = decimal (n / 10) ++ String.utf8EncodeChar (n % 10).digitChar := by
  rw [decimal, Nat.toDigits_of_base_le (by omega) h, Text.encodeChars_append,
    Text.encodeChars_cons, Text.encodeChars_nil, List.append_nil, decimal]

/-- Printed natural numbers by their last digit. -/
lemma decimal_induction {P : Nat → Prop} (single : ∀ n < 10, P n)
    (more : ∀ n, 10 ≤ n → P (n / 10) → P n) (n : Nat) : P n := by
  induction n using Nat.strongRecOn with
  | ind n ih =>
    rcases Nat.lt_or_ge n 10 with hlt | hge
    · exact single n hlt
    · exact more n hge (ih _ (by omega))

lemma isDigit_of_mem_decimal (n : Nat) : ∀ b ∈ decimal n, isDigit b := by
  induction n using decimal_induction with
  | single n hn =>
    obtain ⟨b, hb, hd, -⟩ := encodeChar_digitChar hn
    rw [decimal_of_lt hn, hb]
    simpa using hd
  | more n hn ih =>
    obtain ⟨b, hb, hd, -⟩ := encodeChar_digitChar (Nat.mod_lt n (by omega : 0 < 10))
    rw [decimal_of_le hn, hb]
    intro b' hb'
    rcases List.mem_append.mp hb' with hb' | hb'
    · exact ih b' hb'
    · rw [List.mem_singleton.mp hb']
      exact hd

lemma digitsOf_of_lt {n : Nat} (h : n < 10) : digitsOf n = [n] := by
  obtain ⟨b, hb, -, hd⟩ := encodeChar_digitChar h
  rw [digitsOf, decimal_of_lt h, hb, List.map_singleton, hd]

lemma digitsOf_of_le {n : Nat} (h : 10 ≤ n) : digitsOf n = digitsOf (n / 10) ++ [n % 10] := by
  obtain ⟨b, hb, -, hd⟩ := encodeChar_digitChar (Nat.mod_lt n (by omega : 0 < 10))
  rw [digitsOf, decimal_of_le h, hb, List.map_append, List.map_singleton, hd, digitsOf]

/-- The digits of a number stand for it. -/
lemma ofDigits_digitsOf (n : Nat) : ofDigits (digitsOf n) = n := by
  induction n using decimal_induction with
  | single n hn =>
    rw [digitsOf_of_lt hn]
    simp [ofDigits]
  | more n hn ih =>
    rw [ofDigits] at ih
    rw [digitsOf_of_le hn, ofDigits, List.foldl_append, ih]
    exact Nat.div_add_mod n 10

/-- A zero in front stands alone. -/
lemma digitsOf_eq (n : Nat) : digitsOf n = [0] ∨ ∃ d ds, digitsOf n = d :: ds ∧ d ≠ 0 := by
  induction n using decimal_induction with
  | single n hn =>
    rw [digitsOf_of_lt hn]
    rcases Nat.eq_zero_or_pos n with rfl | hpos
    · exact .inl rfl
    · exact .inr ⟨n, [], rfl, Nat.ne_of_gt hpos⟩
  | more n hn ih =>
    refine .inr ?_
    rw [digitsOf_of_le hn]
    rcases ih with h | ⟨d, ds, h, hd⟩
    · -- The digits before the last one do not stand for zero.
      have hz := ofDigits_digitsOf (n / 10)
      rw [h] at hz
      have : n / 10 = 0 := hz.symm
      omega
    · rw [h]
      exact ⟨d, ds ++ [n % 10], rfl, hd⟩

/-! ### Numbers -/

/-- The bytes of a printed number are read as that number. -/
lemma ofBytes?_decimal (n : Nat) : ofBytes? (decimal n) = some (ofNat n) := by
  have hall := isDigit_of_mem_decimal n
  have hsplit : splitDigits (decimal n) = (digitsOf n, []) := by
    rw [splitDigits, List.takeWhile_eq_self_iff.mpr hall, List.dropWhile_eq_nil_iff.mpr hall]
    rfl
  unfold ofBytes?
  split
  case h_1 negative bytes hsign =>
    split at hsign
    case h_1 rest hrest =>
      -- A minus is no digit.
      exact absurd (hall 0x2d (hrest ▸ List.mem_cons_self)) (by decide)
    case h_2 =>
      obtain ⟨rfl, rfl⟩ := Prod.mk.inj hsign
      rw [hsplit, ofNat]
      rcases digitsOf_eq n with h | ⟨d, ds, h, hd⟩
      · rw [h]
        rfl
      · rw [h]
        obtain ⟨d, rfl⟩ := Nat.exists_eq_succ_of_ne_zero hd
        rfl

/-- The value of a number of 64 bits as it is printed. -/
lemma natural?_ofNat {n : Nat} (h : n < UInt64.size) : (ofNat n).natural? = some n := by
  simp [natural?, ofNat, ofDigits_digitsOf, wordBound, h]

end AlertLedger.Json.Number
