/-
# Identifiers read back

The hyphens of a written identifier stand where they are looked for, so its digits are found and
the identifier is read back, whatever is thought of URNs (`Uuid.readAs?_render`).
-/
import AlertLedger.Proofs.Text.Hex
import AlertLedger.Uuid

namespace AlertLedger.Uuid

/-! ### Hyphens -/

lemma length_hyphenate {sizes : List Nat} (hne : sizes ≠ []) {cs : List Char}
    (h : cs.length = sizes.sum) :
    (hyphenate sizes cs).length + 1 = sizes.sum + sizes.length := by
  induction sizes generalizing cs with
  | nil => exact absurd rfl hne
  | cons n sizes ih =>
    rw [List.sum_cons] at h
    cases sizes with
    | nil => simp [hyphenate, h]
    | cons m ns =>
      have hdrop : (cs.drop n).length = (m :: ns).sum := by
        rw [List.length_drop]
        omega
      have hrest := ih (by simp) hdrop
      rw [hyphenate, List.length_append, List.length_take, List.length_cons]
      simp only [List.sum_cons, List.length_cons] at h hrest ⊢
      omega

/-- Hyphens that were put between groups are taken out again. -/
lemma unhyphenate?_hyphenate {sizes : List Nat} (hne : sizes ≠ []) {cs : List Char}
    (h : cs.length = sizes.sum) : unhyphenate? sizes (hyphenate sizes cs) = some cs := by
  induction sizes generalizing cs with
  | nil => exact absurd rfl hne
  | cons n sizes ih =>
    rw [List.sum_cons] at h
    cases sizes with
    | nil =>
      have hn : cs.length = n := by simpa using h
      rw [hyphenate, List.take_of_length_le (Nat.le_of_eq hn), unhyphenate?, if_pos hn]
    | cons m ns =>
      have hdrop : (cs.drop n).length = (m :: ns).sum := by
        rw [List.length_drop]
        omega
      have htake : (cs.take n).length = n := by
        rw [List.length_take]
        omega
      rw [hyphenate, unhyphenate?, List.drop_left' htake, List.take_left' htake]
      simp only [ih (by simp) hdrop, Option.map_some, List.take_append_drop]

/-! ### Identifiers -/

/-- A written identifier is read back. -/
theorem readAs?_render (urnCase : UrnCase) (u : Uuid) : readAs? urnCase u.render = some u := by
  have hlength : (Text.hexDigits 32 u.bits.toNat).length = groupSizes.sum :=
    Text.length_hexDigits _ _
  have h36 : u.render.toList.length = 36 := by
    have := length_hyphenate (by decide) hlength
    rw [render, String.toList_ofList]
    exact Nat.succ.inj this
  have hread : Text.readDigits? 16 Text.hexValueAnyCase? (Text.hexDigits 32 u.bits.toNat)
      = some u.bits.toNat := by
    refine Text.readDigits?_hexDigits Text.hexValueAnyCase?_hexDigit ?_
    exact Nat.lt_of_lt_of_le u.bits.isLt (by decide)
  have hu : ofNat u.bits.toNat = u := by
    rw [ofNat, BitVec.ofNat_toNat, BitVec.setWidth_eq]
  simp only [readAs?, h36, if_true]
  rw [if_neg (by decide), render, String.toList_ofList, unhyphenate?_hyphenate (by decide) hlength,
    Option.bind_some, ofDigits?, hread, Option.map_some, hu]

end AlertLedger.Uuid
