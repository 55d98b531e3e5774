/-
# Hexadecimal digits read back

A number that is written with enough hexadecimal digits is the number that is read from them, by
any reader that knows the sixteen digits (`Text.readDigits?_hexDigits`). Of the digits in lower case
the converse is true as well: what is read as a number is what is written for it
(`Text.readDigits?_eq_some_iff`).
-/
import AlertLedger.Proofs.Text.Utf8
import AlertLedger.Text.Hex
import Mathlib.Algebra.GroupWithZero.Nat
import Mathlib.Data.List.Induction

namespace AlertLedger.Text

/-! ### Single digits -/

lemma hexValue?_hexDigit : ∀ n < 16, hexValue? (hexDigit n) = some n := by
  decide

lemma hexValueAnyCase?_hexDigit : ∀ n < 16, hexValueAnyCase? (hexDigit n) = some n := by
  decide

/-- Digits are single bytes. -/
lemma encodeChar_hexDigit {n : Nat} (h : n < 16) :
    String.utf8EncodeChar (hexDigit n) = [UInt8.ofNat (hexDigit n).toNat] := by
  have hlt : ∀ n < 16, (hexDigit n).toNat < 0x80 := by decide
  exact encodeChar_of_lt (hlt n h)

/-- The sixteen lower-case digits. -/
def hexAlphabet : List Char := "0123456789abcdef".toList

lemma mem_hexAlphabet_iff {c : Char} : c ∈ hexAlphabet ↔ ∃ d < 16, hexDigit d = c := by
  have hall : hexAlphabet = (List.range 16).map hexDigit := by decide
  simp [hall]

/-- Only the digits of numbers below sixteen have a value. -/
lemma hexValue?_eq_some_iff {c : Char} {d : Nat} :
    hexValue? c = some d ↔ d < 16 ∧ hexDigit d = c := by
  constructor
  · intro h
    unfold hexValue? at h
    split_ifs at h with hnumeral hletter
    · have hfirst : 0x30 ≤ c.toNat := Char.le_def.mp hnumeral.1
      have hlast : c.toNat ≤ 0x39 := Char.le_def.mp hnumeral.2
      obtain rfl := Option.some.inj h
      refine ⟨by omega, ?_⟩
      rw [hexDigit, if_pos (by omega), Nat.add_sub_cancel' hfirst, Char.ofNat_toNat]
    · have hfirst : 0x61 ≤ c.toNat := Char.le_def.mp hletter.1
      have hlast : c.toNat ≤ 0x66 := Char.le_def.mp hletter.2
      obtain rfl := Option.some.inj h
      refine ⟨by omega, ?_⟩
      rw [hexDigit, if_neg (by omega), Nat.add_sub_cancel' (by omega), Char.ofNat_toNat]
  · rintro ⟨hd, rfl⟩
    exact hexValue?_hexDigit d hd

/-! ### Numbers -/

@[simp] lemma length_hexDigits (width n : Nat) : (hexDigits width n).length = width := by
  induction width generalizing n with
  | zero => rfl
  | succ width ih => rw [hexDigits, List.length_append, ih, List.length_singleton]

/-- A number that the digits have room for is read back. -/
lemma readDigits?_hexDigits {digit? : Char → Option Nat}
    (hd : ∀ n < 16, digit? (hexDigit n) = some n) {width n : Nat} (h : n < 16 ^ width) :
    readDigits? 16 digit? (hexDigits width n) = some n := by
  induction width generalizing n with
  | zero =>
    obtain rfl : n = 0 := by simpa using h
    rfl
  | succ width ih =>
    have hdiv : n / 16 < 16 ^ width := by
      rw [Nat.div_lt_iff_lt_mul (by omega), ← Nat.pow_succ]
      exact h
    have hlast : digit? (hexDigit (n % 16)) = some (n % 16) := hd _ (Nat.mod_lt _ (by omega))
    have hrest := ih hdiv
    rw [readDigits?] at hrest
    rw [readDigits?, hexDigits, List.foldlM_append, hrest]
    simp [hlast, Nat.div_add_mod]

lemma mem_hexAlphabet_of_mem_hexDigits {width n : Nat} {c : Char} (h : c ∈ hexDigits width n) :
    c ∈ hexAlphabet := by
  induction width generalizing n with
  | zero => cases h
  | succ width ih =>
    rcases List.mem_append.mp h with h | h
    · exact ih h
    · rw [List.mem_singleton.mp h]
      exact mem_hexAlphabet_iff.mpr ⟨n % 16, Nat.mod_lt _ (by omega), rfl⟩

/-- Digits are those of the number that is read from them. -/
lemma hexDigits_of_readDigits? {cs : List Char} {n : Nat}
    (h : readDigits? 16 hexValue? cs = some n) :
    n < 16 ^ cs.length ∧ hexDigits cs.length n = cs := by
  induction cs using List.reverseRecOn generalizing n with
  | nil =>
    obtain rfl : 0 = n := Option.some.inj h
    exact ⟨Nat.one_pos, rfl⟩
  | append_singleton cs c ih =>
    rw [readDigits?, List.foldlM_append] at h
    obtain ⟨m, hm, hc⟩ := Option.bind_eq_some_iff.mp h
    obtain ⟨hlt, hcs⟩ := ih hm
    obtain ⟨d, hd, rfl⟩ : ∃ d, hexValue? c = some d ∧ 16 * m + d = n := by
      simpa using hc
    obtain ⟨hd, rfl⟩ := hexValue?_eq_some_iff.mp hd
    have hdiv : (16 * m + d) / 16 = m := by omega
    have hmod : (16 * m + d) % 16 = d := by omega
    rw [List.length_append, List.length_singleton, hexDigits, hdiv, hmod, hcs]
    refine ⟨?_, rfl⟩
    rw [Nat.pow_succ]
    omega

/-- **A number is read from its own digits and from no others.** -/
theorem readDigits?_eq_some_iff {cs : List Char} {n : Nat} :
    readDigits? 16 hexValue? cs = some n ↔ n < 16 ^ cs.length ∧ hexDigits cs.length n = cs := by
  constructor
  · exact hexDigits_of_readDigits?
  · rintro ⟨hlt, hcs⟩
    rw [← hcs]
    exact readDigits?_hexDigits hexValue?_hexDigit hlt

/-- From lower-case digits some number is read. -/
lemma exists_readDigits? {cs : List Char} (h : ∀ c ∈ cs, c ∈ hexAlphabet) :
    ∃ n, readDigits? 16 hexValue? cs = some n := by
  induction cs using List.reverseRecOn with
  | nil => exact ⟨0, rfl⟩
  | append_singleton cs c ih =>
    obtain ⟨n, hn⟩ := ih fun c hc => h c (List.mem_append_left _ hc)
    obtain ⟨d, hd, rfl⟩ := mem_hexAlphabet_iff.mp (h c (by simp))
    rw [readDigits?] at hn
    refine ⟨16 * n + d, ?_⟩
    rw [readDigits?, List.foldlM_append, hn]
    simp [hexValue?_hexDigit d hd]

end AlertLedger.Text
