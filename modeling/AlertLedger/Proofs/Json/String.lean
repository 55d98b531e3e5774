/-
# JSON strings read back

A string is printed character by character. The bytes of one character are of one of three kinds
(`encode_escapeChar`): a backslash with a letter, a backslash with four digits, or the bytes of
the character itself, none of which has a meaning of its own in a string. The scanner takes the
bytes of any of them in whole (`scanString_escapeChar`), and what they stand for is that character
(`unescape?_escapeChar`). So the body of a printed string ends where it should, and the string is
read back from it.
-/
import AlertLedger.Json.Value
import AlertLedger.Proofs.Text.Hex

namespace AlertLedger.Json

open Text (encodeChars hexDigit hexDigits)
open Token (scanString hexDigitValue? simpleEscape?)

/-- The bytes of a printed string between its quotes. -/
def stringBody (s : String) : List UInt8 := encodeChars (s.toList.flatMap escapeChar)

lemma encodeChars_quoted (s : String) : encodeChars (quoted s) = 0x22 :: (stringBody s ++ [0x22]) := by
  simp only [quoted, Text.encodeChars_cons, Text.encodeChars_append, stringBody]
  rfl

/-! ### The bytes of one character -/

/-- A byte that stands for itself in a string. -/
def IsPlain (b : UInt8) : Prop := b ≠ 0x22 ∧ b ≠ 0x5c ∧ 0x20 ≤ b

/-- Only quotes, backslashes and control characters have bytes that are not plain. -/
lemma isPlain_of_mem_encodeChar {c : Char} (hq : c ≠ '"') (hb : c ≠ '\\') (hc : 0x20 ≤ c.toNat)
    {b : UInt8} (h : b ∈ String.utf8EncodeChar c) : IsPlain b := by
  rcases Nat.lt_or_ge c.toNat 0x80 with hlt | hge
  · -- The character is its own byte.
    rw [Text.encodeChar_of_lt hlt, List.mem_singleton] at h
    have hn : b.toNat = c.toNat := by
      rw [h, UInt8.toNat_ofNat_of_lt' (Nat.lt_of_lt_of_le hlt (by decide))]
    refine ⟨?_, ?_, ?_⟩
    · rintro rfl
      exact hq (Char.toNat_inj.mp hn.symm)
    · rintro rfl
      exact hb (Char.toNat_inj.mp hn.symm)
    · rw [UInt8.le_iff_toNat_le, hn]
      exact hc
  · -- All bytes are at least 0x80, and so is none of those that have a meaning.
    have h80 := UInt8.le_iff_toNat_le.mp (Text.le_of_mem_encodeChar hge h)
    refine ⟨?_, ?_, ?_⟩
    · rintro rfl
      exact absurd h80 (by decide)
    · rintro rfl
      exact absurd h80 (by decide)
    · exact UInt8.le_iff_toNat_le.mpr (Nat.le_trans (by decide) h80)

lemma hexDigitValue?_hexDigit :
    ∀ n < 16, hexDigitValue? (UInt8.ofNat (hexDigit n).toNat) = some n := by
  decide

/-- The four digits of a control character. -/
lemma encodeChars_hexDigits {n : Nat} (h : n < 0x20) :
    ∃ h₁ h₂ h₃ h₄, encodeChars (hexDigits 4 n) = [h₁, h₂, h₃, h₄] ∧
      fourDigits h₁ h₂ h₃ h₄ = some n := by
  let digit (k : Nat) : UInt8 := UInt8.ofNat (hexDigit (k % 16)).toNat
  have hv (k : Nat) : hexDigitValue? (digit k) = some (k % 16) :=
    hexDigitValue?_hexDigit _ (Nat.mod_lt _ (by omega))
  have he (k : Nat) : String.utf8EncodeChar (hexDigit (k % 16)) = [digit k] :=
    Text.encodeChar_hexDigit (Nat.mod_lt _ (by omega))
  refine ⟨digit (n / 16 / 16 / 16), digit (n / 16 / 16), digit (n / 16), digit n, ?_, ?_⟩
  · simp only [hexDigits, List.nil_append, List.cons_append, Text.encodeChars_cons, he,
      Text.encodeChars_nil]
  · simp only [fourDigits, hv, Option.bind_eq_bind, Option.bind_some, Option.pure_def]
    congr 1
    omega

/-- The bytes of a character in a string are a backslash with a letter, a backslash with four
digits, or the bytes of the character, all of them plain. -/
lemma encode_escapeChar (c : Char) :
    (∃ e b, encodeChars (escapeChar c) = [0x5c, e] ∧ simpleEscape? e = some b ∧
      String.utf8EncodeChar c = [b]) ∨
    (∃ h₁ h₂ h₃ h₄, encodeChars (escapeChar c) = [0x5c, 0x75, h₁, h₂, h₃, h₄] ∧
      fourDigits h₁ h₂ h₃ h₄ = some c.toNat ∧ c.toNat < 0x20) ∨
    (encodeChars (escapeChar c) = String.utf8EncodeChar c ∧
      ∀ b ∈ String.utf8EncodeChar c, IsPlain b) := by
  generalize hbytes : encodeChars (escapeChar c) = bytes
  unfold escapeChar at hbytes
  split_ifs at hbytes with hq hb h08 h0c hn hr ht hc <;> subst hbytes
  · subst hq
    exact .inl ⟨0x22, 0x22, rfl, rfl, rfl⟩
  · subst hb
    exact .inl ⟨0x5c, 0x5c, rfl, rfl, rfl⟩
  · subst h08
    exact .inl ⟨0x62, 0x08, rfl, rfl, rfl⟩
  · subst h0c
    exact .inl ⟨0x66, 0x0c, rfl, rfl, rfl⟩
  · subst hn
    exact .inl ⟨0x6e, 0x0a, rfl, rfl, rfl⟩
  · subst hr
    exact .inl ⟨0x72, 0x0d, rfl, rfl, rfl⟩
  · subst ht
    exact .inl ⟨0x74, 0x09, rfl, rfl, rfl⟩
  · obtain ⟨h₁, h₂, h₃, h₄, he, hf⟩ := encodeChars_hexDigits hc
    refine .inr (.inl ⟨h₁, h₂, h₃, h₄, ?_, hf, hc⟩)
    rw [Text.encodeChars_cons, Text.encodeChars_cons, he]
    rfl
  · refine .inr (.inr ⟨?_, fun b hmem => isPlain_of_mem_encodeChar hq hb (Nat.le_of_not_lt hc) hmem⟩)
    rw [Text.encodeChars_cons, Text.encodeChars_nil, List.append_nil]

/-- Letters of escapes are not the one before four digits. -/
lemma ne_of_simpleEscape? {e b : UInt8} (h : simpleEscape? e = some b) : e ≠ 0x75 := by
  rintro rfl
  cases h

/-- Four digits that make a number are digits. -/
lemma all_isSome_of_fourDigits {h₁ h₂ h₃ h₄ : UInt8} {n : Nat}
    (h : fourDigits h₁ h₂ h₃ h₄ = some n) :
    [h₁, h₂, h₃, h₄].all fun d => (hexDigitValue? d).isSome := by
  simp only [fourDigits, Option.bind_eq_bind, Option.bind_eq_some_iff] at h
  obtain ⟨a, ha, b, hb, c, hc, d, hd, -⟩ := h
  simp [ha, hb, hc, hd]

/-! ### Scanning -/

lemma scanString_plain (bs rest : List UInt8) (h : ∀ b ∈ bs, IsPlain b) :
    scanString (bs ++ rest) = (scanString rest).map fun p => (bs ++ p.1, p.2) := by
  induction bs with
  | nil => simp
  | cons b bs ih =>
    obtain ⟨hq, hb, h20⟩ := h b List.mem_cons_self
    have hrest := ih fun b' hb' => h b' (List.mem_cons_of_mem _ hb')
    rw [List.cons_append, Token.scanString.eq_def]
    simp only [if_neg hq, if_neg (UInt8.not_lt.mpr h20), if_neg hb, hrest, Option.map_map]
    rfl

/-- The scanner takes in whatever a character is printed as. -/
lemma scanString_escapeChar (c : Char) (rest : List UInt8) :
    scanString (encodeChars (escapeChar c) ++ rest)
      = (scanString rest).map fun p => (encodeChars (escapeChar c) ++ p.1, p.2) := by
  rcases encode_escapeChar c with ⟨e, b, he, hs, -⟩ | ⟨h₁, h₂, h₃, h₄, he, hf, -⟩ | ⟨he, hp⟩
  · rw [he]
    change scanString (0x5c :: e :: rest) = _
    rw [Token.scanString.eq_def]
    simp [ne_of_simpleEscape? hs, hs]
  · rw [he]
    change scanString (0x5c :: 0x75 :: h₁ :: h₂ :: h₃ :: h₄ :: rest) = _
    rw [Token.scanString.eq_def]
    simp only [if_pos (all_isSome_of_fourDigits hf)]
    simp
  · rw [he]
    exact scanString_plain _ _ hp

/-- A printed string ends at its closing quote. -/
lemma scanString_stringBody (s : String) (rest : List UInt8) :
    scanString (stringBody s ++ 0x22 :: rest) = some (stringBody s, rest) := by
  unfold stringBody
  induction s.toList with
  | nil =>
    change scanString (0x22 :: rest) = some ([], rest)
    rw [Token.scanString.eq_def]
    rfl
  | cons c cs ih =>
    rw [List.flatMap_cons, Text.encodeChars_append, List.append_assoc, scanString_escapeChar, ih]
    rfl

/-! ### Reading -/

lemma unescape?_plain (bs rest : List UInt8) (h : ∀ b ∈ bs, IsPlain b) :
    unescape? (bs ++ rest) = (unescape? rest).map (bs ++ ·) := by
  induction bs with
  | nil => simp
  | cons b bs ih =>
    obtain ⟨-, hb, -⟩ := h b List.mem_cons_self
    have hrest := ih fun b' hb' => h b' (List.mem_cons_of_mem _ hb')
    rw [List.cons_append, unescape?, hrest, Option.map_map]
    · rfl
    all_goals simp_all

/-- What a character is printed as stands for that character. -/
lemma unescape?_escapeChar (c : Char) (rest : List UInt8) :
    unescape? (encodeChars (escapeChar c) ++ rest)
      = (unescape? rest).map (String.utf8EncodeChar c ++ ·) := by
  rcases encode_escapeChar c with ⟨e, b, he, hs, hc⟩ | ⟨h₁, h₂, h₃, h₄, he, hf, hc⟩ | ⟨he, hp⟩
  · rw [he, hc]
    change unescape? (0x5c :: e :: rest) = _
    rw [unescape?]
    · simp [hs]
    · have := ne_of_simpleEscape? hs
      simp_all
  · rw [he]
    change unescape? (0x5c :: 0x75 :: h₁ :: h₂ :: h₃ :: h₄ :: rest) = _
    -- A control character is no half of a pair.
    have htrailing : isTrailing c.toNat = false := by
      simp only [isTrailing, Bool.and_eq_false_iff, decide_eq_false_iff_not]
      omega
    have hleading : isLeading c.toNat = false := by
      simp only [isLeading, Bool.and_eq_false_iff, decide_eq_false_iff_not]
      omega
    rw [unescape?, hf]
    simp [htrailing, hleading, Char.ofNat_toNat]
  · rw [he]
    exact unescape?_plain _ _ hp

/-- A printed string is read back. -/
lemma stringOfBody?_stringBody (s : String) : stringOfBody? (stringBody s) = some s := by
  have hu (cs : List Char) : unescape? (encodeChars (cs.flatMap escapeChar))
      = some (encodeChars cs) := by
    induction cs with
    | nil => rfl
    | cons c cs ih =>
      rw [List.flatMap_cons, Text.encodeChars_append, unescape?_escapeChar, ih,
        Text.encodeChars_cons]
      rfl
  rw [stringOfBody?, stringBody, hu, Option.bind_some, Text.encodeChars_toList,
    Text.decode?_encode]

end AlertLedger.Json
