/-
# JSON texts scanned

What the scanner makes of a piece of text, for each kind of token: a mark, a string, a number and
a word. Numbers and words have no end of their own, so what follows them must not go on
(`Token.Delimits`).
-/
import AlertLedger.Proofs.Json.Number
import AlertLedger.Proofs.Json.String

namespace AlertLedger.Json.Token

open Text (encodeChars)

/-- What follows a number or a word does not go on with it. -/
def Delimits (rest : List UInt8) : Prop :=
  ∀ b ∈ rest.head?, Number.isNumberByte b = false ∧ isLetter b = false

lemma delimits_nil : Delimits [] := by
  intro b hb
  cases hb

/-! ### Marks -/

/-- A character that is a token by itself. -/
def IsMark (c : Char) (t : Token) : Prop :=
  ∃ b, String.utf8EncodeChar c = [b] ∧ isSpace b = false ∧ punctuation? b = some t

lemma isMark_comma : IsMark ',' .comma := ⟨0x2c, rfl, rfl, rfl⟩

lemma isMark_colon : IsMark ':' .colon := ⟨0x3a, rfl, rfl, rfl⟩

lemma isMark_arrayOpen : IsMark '[' .arrayOpen := ⟨0x5b, rfl, rfl, rfl⟩

lemma isMark_arrayClose : IsMark ']' .arrayClose := ⟨0x5d, rfl, rfl, rfl⟩

lemma isMark_objectOpen : IsMark '{' .objectOpen := ⟨0x7b, rfl, rfl, rfl⟩

lemma isMark_objectClose : IsMark '}' .objectClose := ⟨0x7d, rfl, rfl, rfl⟩

namespace IsMark

variable {c : Char} {t : Token}

lemma scan?_cons (h : IsMark c t) (cs : List Char) (rest : List UInt8) :
    scan? (encodeChars (c :: cs) ++ rest) = (scan? (encodeChars cs ++ rest)).map (t :: ·) := by
  obtain ⟨b, hc, hs, hp⟩ := h
  rw [Text.encodeChars_cons, hc, List.append_assoc, List.singleton_append, scan?.eq_def]
  simp [hs, hp]

/-- No number and no word goes on with a mark. -/
lemma delimits (h : IsMark c t) (cs : List Char) (rest : List UInt8) :
    Delimits (encodeChars (c :: cs) ++ rest) := by
  obtain ⟨b, hc, -, hp⟩ := h
  rw [Text.encodeChars_cons, hc]
  intro b' hb'
  obtain rfl := Option.some.inj hb'
  unfold punctuation? at hp
  split_ifs at hp with h₁ h₂ h₃ h₄ h₅ h₆
  all_goals
    subst b
    exact ⟨rfl, rfl⟩

end IsMark

/-! ### Strings -/

lemma scan?_string {bytes body rest : List UInt8} (h : scanString bytes = some (body, rest)) :
    scan? (0x22 :: bytes) = (scan? rest).map (.string body :: ·) := by
  have hspace : isSpace 0x22 = false := rfl
  have hmark : punctuation? 0x22 = none := rfl
  rw [scan?.eq_def]
  simp only [hspace, hmark, Bool.false_eq_true, if_false, if_true]
  split
  case h_1 body' rest' h' =>
    obtain ⟨rfl, rfl⟩ := Prod.mk.inj (Option.some.inj (h.symm.trans h'))
    rfl
  case h_2 h' =>
    rw [h] at h'
    cases h'

/-! ### Numbers and words -/

lemma takeWhile_append_of_delimits (p : UInt8 → Bool) (bs : List UInt8) {rest : List UInt8}
    (h : ∀ b ∈ bs, p b) (hr : ∀ b ∈ rest.head?, p b = false) :
    (bs ++ rest).takeWhile p = bs ∧ (bs ++ rest).dropWhile p = rest := by
  have hrest : rest.takeWhile p = [] ∧ rest.dropWhile p = rest := by
    cases rest with
    | nil => exact ⟨rfl, rfl⟩
    | cons b rest => simp [hr b rfl]
  rw [List.takeWhile_append_of_pos h, List.dropWhile_append_of_pos h, hrest.1, hrest.2,
    List.append_nil]
  exact ⟨rfl, rfl⟩

lemma isNumberByte_of_isDigit {b : UInt8} (h : Number.isDigit b) : Number.isNumberByte b := by
  rw [Number.isDigit] at h
  rw [Number.isNumberByte, h]
  rfl

/-- A digit is no blank, no mark and no quote. -/
lemma of_isDigit {b : UInt8} (h : Number.isDigit b) :
    isSpace b = false ∧ punctuation? b = none ∧ b ≠ 0x22 := by
  have hall : ∀ n < 10, isSpace (UInt8.ofNat (0x30 + n)) = false ∧
      punctuation? (UInt8.ofNat (0x30 + n)) = none ∧ UInt8.ofNat (0x30 + n) ≠ 0x22 := by
    decide
  have hd : 0x30 ≤ b ∧ b ≤ 0x39 := by simpa [Number.isDigit] using h
  have hlow : 0x30 ≤ b.toNat := UInt8.le_iff_toNat_le.mp hd.1
  have hhigh : b.toNat ≤ 0x39 := UInt8.le_iff_toNat_le.mp hd.2
  have hb := hall (b.toNat - 0x30) (by omega)
  rwa [Nat.add_sub_cancel' hlow, UInt8.ofNat_toNat] at hb

lemma scan?_decimal (n : Nat) {rest : List UInt8} (hr : Delimits rest) :
    scan? (Number.decimal n ++ rest) = (scan? rest).map (.number (.ofNat n) :: ·) := by
  have hall := Number.isDigit_of_mem_decimal n
  have hread := Number.ofBytes?_decimal n
  cases hd : Number.decimal n with
  | nil =>
    rw [hd] at hread
    cases hread
  | cons b bs =>
    rw [hd] at hall hread
    obtain ⟨hs, hp, hq⟩ := of_isDigit (hall b List.mem_cons_self)
    obtain ⟨ht, hdrop⟩ := takeWhile_append_of_delimits Number.isNumberByte bs
      (fun b' hb' => isNumberByte_of_isDigit (hall b' (List.mem_cons_of_mem _ hb')))
      (fun b' hb' => (hr b' hb').1)
    rw [List.cons_append, scan?.eq_def]
    simp only [hs, hp, if_neg hq, isNumberByte_of_isDigit (hall b List.mem_cons_self), ht, hdrop,
      hread, Bool.false_eq_true, if_false, if_true]

lemma scan?_word {b : UInt8} {bs : List UInt8} {t : Token} (hw : word? (b :: bs) = some t)
    (hs : isSpace b = false) (hp : punctuation? b = none) (hq : b ≠ 0x22)
    (hn : Number.isNumberByte b = false) (hl : (b :: bs).all isLetter)
    {rest : List UInt8} (hr : Delimits rest) :
    scan? (b :: bs ++ rest) = (scan? rest).map (t :: ·) := by
  rw [List.all_cons, Bool.and_eq_true, List.all_eq_true] at hl
  obtain ⟨ht, hdrop⟩ := takeWhile_append_of_delimits isLetter bs hl.2 fun b' hb' => (hr b' hb').2
  rw [List.cons_append, scan?.eq_def]
  simp only [hs, hp, if_neg hq, hn, hl.1, ht, hdrop, hw, Bool.false_eq_true,
    if_false, if_true]

end AlertLedger.Json.Token
