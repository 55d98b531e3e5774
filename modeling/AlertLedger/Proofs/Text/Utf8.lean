/-
# UTF-8 forms, character by character

The UTF-8 form of a text is that of its characters one after the other (`Text.encodeChars`). A
character below 128 is one byte, its own number (`encodeChar_of_lt`); of any other character all
bytes are 128 or more (`le_of_mem_encodeChar`). So a reader that looks for characters below 128
may go through the bytes instead.

Texts are in the order of their characters, which is the order of their bytes, too
(`encode_lt_encode`): the first byte tells how many there are, and more bytes mean a larger
character.
-/
import AlertLedger.Text.Utf8
import Mathlib.Tactic.SplitIfs

namespace AlertLedger.Text

/-- The UTF-8 form of a list of characters. -/
def encodeChars (cs : List Char) : List UInt8 := cs.flatMap String.utf8EncodeChar

@[simp] lemma encode_ofList (cs : List Char) : encode (String.ofList cs) = encodeChars cs := by
  rw [encode, String.toList_ofList, encodeChars]

@[simp] lemma encodeChars_toList (s : String) : encodeChars s.toList = encode s := rfl

@[simp] lemma encodeChars_nil : encodeChars [] = [] := rfl

@[simp] lemma encodeChars_cons (c : Char) (cs : List Char) :
    encodeChars (c :: cs) = String.utf8EncodeChar c ++ encodeChars cs := List.flatMap_cons

@[simp] lemma encodeChars_append (cs ds : List Char) :
    encodeChars (cs ++ ds) = encodeChars cs ++ encodeChars ds := List.flatMap_append

/-- A character below 128 is one byte. -/
lemma encodeChar_of_lt {c : Char} (h : c.toNat < 0x80) :
    String.utf8EncodeChar c = [UInt8.ofNat c.toNat] := by
  have hc : c.val.toNat ≤ 0x7f := Nat.le_of_lt_succ h
  simp only [String.utf8EncodeChar, if_pos hc]
  rfl

/-- The bytes of any other character are 128 or more. -/
lemma le_of_mem_encodeChar {c : Char} (h : 0x80 ≤ c.toNat) {b : UInt8}
    (hb : b ∈ String.utf8EncodeChar c) : 0x80 ≤ b := by
  have hc : ¬ c.val.toNat ≤ 0x7f := Nat.not_le.mpr h
  have hbyte (n k m : Nat) (hm : 0 < m) (hk : 0x80 ≤ k) (hkm : m + k ≤ UInt8.size) :
      0x80 ≤ UInt8.ofNat (n % m + k) := by
    have hn : n % m < m := Nat.mod_lt _ hm
    rw [UInt8.le_iff_toNat_le, UInt8.toNat_ofNat_of_lt' (by omega)]
    exact Nat.le_add_left_of_le hk
  rw [String.utf8EncodeChar] at hb
  simp only [if_neg hc] at hb
  split_ifs at hb
  all_goals
    simp only [List.mem_cons, List.not_mem_nil, or_false] at hb
    rcases hb with rfl | rfl | rfl | rfl <;> exact hbyte _ _ _ (by decide) (by decide) (by decide)

/-- A byte below 128 is all there is of its character. -/
lemma toNat_eq_of_mem_encodeChar {c : Char} {b : UInt8} (h : b ∈ String.utf8EncodeChar c)
    (hb : b < 0x80) : c.toNat = b.toNat := by
  have hlt : c.toNat < 0x80 := Nat.lt_of_not_le fun hge =>
    UInt8.not_le.mpr hb (le_of_mem_encodeChar hge h)
  rw [encodeChar_of_lt hlt, List.mem_singleton] at h
  rw [h, UInt8.toNat_ofNat_of_lt' (Nat.lt_of_lt_of_le hlt (by decide))]

/-- A character below 128 is in a text if its byte is in the UTF-8 form. -/
lemma mem_of_mem_encodeChars {cs : List Char} {c : Char} (hc : c.toNat < 0x80)
    (h : UInt8.ofNat c.toNat ∈ encodeChars cs) : c ∈ cs := by
  have hbyte : (UInt8.ofNat c.toNat).toNat = c.toNat :=
    UInt8.toNat_ofNat_of_lt' (Nat.lt_of_lt_of_le hc (by decide))
  obtain ⟨d, hd, hmem⟩ := List.mem_flatMap.mp h
  have heq := toNat_eq_of_mem_encodeChar hmem (by rwa [UInt8.lt_iff_toNat_lt, hbyte])
  rw [hbyte] at heq
  rwa [← Char.toNat_inj.mp heq]

lemma toNat_byte {n : Nat} (h : n < 0x100) : (UInt8.ofNat n).toNat = n :=
  UInt8.toNat_ofNat_of_lt' h

/-- No byte of a character has its five upper bits set. -/
lemma lt_of_mem_encodeChar {c : Char} {b : UInt8} (hb : b ∈ String.utf8EncodeChar c) :
    b < 0xf8 := by
  rw [UInt8.lt_iff_toNat_lt]
  change b.toNat < 0xf8
  rw [String.utf8EncodeChar] at hb
  split_ifs at hb
  all_goals
    simp only [List.mem_cons, List.not_mem_nil, or_false] at hb
    rcases hb with rfl | rfl | rfl | rfl <;> rw [toNat_byte (by omega)] <;> omega

/-! ### Bytes and texts -/

/-- The bytes of a text are read as that text, and no others are. -/
lemma decode?_eq_some_iff {bytes : List UInt8} {s : String} :
    decode? bytes = some s ↔ encode s = bytes := by
  constructor
  · intro h
    rw [decode?, String.fromUTF8?] at h
    split_ifs at h with hvalid
    have hbytes : (encode s).toByteArray = bytes.toByteArray := by
      rw [encode_toByteArray, ← Option.some.inj h]
      rfl
    simpa using congrArg (fun b => b.data.toList) hbytes
  · rintro rfl
    exact decode?_encode s

lemma encode_injective : Function.Injective encode := by
  intro s t h
  have hs := decode?_encode s
  rw [h, decode?_encode] at hs
  exact (Option.some.inj hs).symm

/-! ### Order -/

/-- The bytes of a smaller character are smaller, whatever follows them. -/
lemma encodeChar_lt_encodeChar {c d : Char} (h : c < d) (x y : List UInt8) :
    String.utf8EncodeChar c ++ x < String.utf8EncodeChar d ++ y := by
  have hcd : c.val.toNat < d.val.toNat := h
  have hd : d.val.toNat < 0x110000 := by
    rcases d.valid with hd | hd
    · exact Nat.lt_trans hd (by decide)
    · exact hd.2
  have hlead : ∀ n < 0x110000, n / 262144 % 8 = n / 262144 := by omega
  -- Of two numbers the first digits to the base 64 that differ decide.
  have hdigit (k n m : Nat) : n / k < m / k →
      n / k / 64 < m / k / 64 ∨ n / k / 64 = m / k / 64 ∧ n / k % 64 < m / k % 64 := by
    omega
  have h₁ := hdigit 1 c.val.toNat d.val.toNat (by simpa using hcd)
  have h₂ := hdigit 64 c.val.toNat d.val.toNat
  have h₃ := hdigit 4096 c.val.toNat d.val.toNat
  simp only [Nat.div_div_eq_div_mul, Nat.div_one, Nat.reduceMul] at h₁ h₂ h₃
  simp only [String.utf8EncodeChar]
  split_ifs <;>
    simp (disch := omega) only [List.cons_append, List.nil_append, List.cons_lt_cons_iff,
      UInt8.lt_iff_toNat_lt, ← UInt8.toNat_inj, toNat_byte, hlead _ hd,
      hlead _ (Nat.lt_trans hcd hd)] <;>
    omega

/-- **Texts are in the order of their bytes.** -/
theorem encode_lt_encode {s t : String} (h : s < t) : encode s < encode t := by
  have hchars : ∀ {cs ds : List Char}, List.Lex (· < ·) cs ds → encodeChars cs < encodeChars ds := by
    intro cs ds hlex
    induction hlex with
    | @nil d ds =>
      have hne : encodeChars (d :: ds) ≠ [] := by
        rw [encodeChars_cons, ← List.length_pos_iff, List.length_append,
          String.length_utf8EncodeChar]
        exact Nat.add_pos_left d.utf8Size_pos _
      obtain ⟨b, bs, hb⟩ := List.exists_cons_of_ne_nil hne
      rw [encodeChars_nil, hb]
      exact List.nil_lt_cons b bs
    | cons _ ih => exact List.append_left_lt ih
    | rel h => exact encodeChar_lt_encodeChar h _ _
  exact hchars h

end AlertLedger.Text
