/-
# Lower-case forms and ASCII

Lower-casing follows the tables of Unicode, and some of what is not ASCII has ASCII letters in its
image: the Kelvin sign becomes a `k`, the dotted capital I an `i` and a combining dot. There is
nothing else of the kind (`exists_mem_lowerChar`). So if a text in lower case consists of small
ASCII letters without a `k`, then the text itself was ASCII, and was lower-cased letter by letter
(`LowerForm.eq_iff`).

A capital sigma has two small forms, one for the end of a word. Where a word ends is of no interest
here: a lower-case form may have either of them at any place.
-/
import AlertLedger.Text.Lowercase
import Mathlib.Data.List.Basic

namespace AlertLedger.Text

/-- Lower-case forms of a list of characters: each character has its image in the table, or, if it
is a capital sigma, possibly the form for the end of a word. -/
inductive LowerForm : List Char → List Char → Prop
  | nil : LowerForm [] []
  | image {cs form : List Char} (c : Char) (h : LowerForm cs form) :
      LowerForm (c :: cs) (lowerChar c ++ form)
  | finalSigma {cs form : List Char} (h : LowerForm cs form) :
      LowerForm ('Σ' :: cs) ('ς' :: form)

lemma lowerForm_flatMap (cs : List Char) : LowerForm cs (cs.flatMap lowerChar) := by
  induction cs with
  | nil => exact .nil
  | cons c cs ih => exact .image c ih

/-- A small ASCII letter of which no character has the image but its own two cases. -/
def IsPlain (c : Char) : Prop := c.isLower ∧ c ≠ 'k'

instance (c : Char) : Decidable (IsPlain c) := inferInstanceAs (Decidable (_ ∧ _))

lemma lt_of_isUpper {c : Char} (h : c.isUpper) : c.toNat < 0x80 := by
  have hle : c.val ≤ 'Z'.val := (of_decide_eq_true h).2
  exact Nat.lt_of_le_of_lt (UInt32.le_iff_toNat_le.mp hle) (by decide)

lemma lt_of_isLower {c : Char} (h : c.isLower) : c.toNat < 0x80 := by
  have hle : c.val ≤ 'z'.val := of_decide_eq_true (Bool.and_eq_true_iff.mp h).2
  exact Nat.lt_of_le_of_lt (UInt32.le_iff_toNat_le.mp hle) (by decide)

lemma lt_of_isAlpha {c : Char} (h : c.isAlpha) : c.toNat < 0x80 :=
  (Bool.or_eq_true_iff.mp h).elim lt_of_isUpper lt_of_isLower

/-! ### The images of a character -/

/-- An ASCII character has the image that it has in ASCII, which is a small letter for a letter
only. -/
lemma lowerChar_of_lt {c : Char} (h : c.toNat < 0x80) :
    lowerChar c = [c.toLower] ∧ (c.toLower.isLower → c.isAlpha) := by
  have hall : ∀ n < 0x80, lowerChar (Char.ofNat n) = [(Char.ofNat n).toLower]
      ∧ ((Char.ofNat n).toLower.isLower → (Char.ofNat n).isAlpha) := by
    decide +kernel
  simpa only [Char.ofNat_toNat] using hall c.toNat h

/-- What the table says of characters that are not ASCII: their images are not ASCII either, the
one of the Kelvin sign apart. -/
lemma le_image_of_mem_caseRuns : ∀ run ∈ caseRuns,
    (run.last < 0x80 ∨ run.first = 0x212a ∧ run.last = 0x212a ∨ 0x80 ≤ run.image)
      ∧ (run.image + (run.last - run.first) < 0xd800
        ∨ 0xdfff < run.image ∧ run.image + (run.last - run.first) < 0x110000) := by
  decide +kernel

/-- A character that is not ASCII has something in its image that is not ASCII, unless it is the
Kelvin sign. -/
lemma exists_mem_lowerChar {c : Char} (h : 0x80 ≤ c.toNat) (hkelvin : c.toNat ≠ 0x212a) :
    ∃ d ∈ lowerChar c, 0x80 ≤ d.toNat := by
  unfold lowerChar
  split
  case isTrue =>
    -- The combining dot comes second.
    exact ⟨Char.ofNat 0x307, by simp, by decide⟩
  case isFalse =>
    split
    case h_1 run hrun =>
      have hholds := List.find?_some hrun
      simp only [CaseRun.holds, Bool.and_eq_true, decide_eq_true_eq] at hholds
      obtain ⟨⟨hfirst, hlast⟩, -⟩ := hholds
      obtain ⟨hrange, hvalid⟩ := le_image_of_mem_caseRuns run (List.mem_of_find?_eq_some hrun)
      have hnumber : (Char.ofNat (run.image + (c.toNat - run.first))).toNat
          = run.image + (c.toNat - run.first) := by
        rw [Char.ofNat, dif_pos (show Nat.isValidChar _ by unfold Nat.isValidChar; omega)]
        rfl
      exact ⟨_, List.mem_singleton_self _, by omega⟩
    case h_2 => exact ⟨c, List.mem_singleton_self c, h⟩

lemma lowerChar_kelvin : lowerChar (Char.ofNat 0x212a) = ['k'] := by decide +kernel

/-- Only the two cases of a plain letter have it as their image. -/
lemma isAlpha_of_lowerChar {c : Char} (h : ∀ d ∈ lowerChar c, IsPlain d) :
    c.isAlpha ∧ lowerChar c = [c.toLower] := by
  have hlt : c.toNat < 0x80 := by
    by_contra hge
    have hkelvin : c.toNat ≠ 0x212a := by
      intro hc
      have hk := lowerChar_kelvin
      rw [← hc, Char.ofNat_toNat] at hk
      exact (h 'k' (by simp [hk])).2 rfl
    obtain ⟨d, hd, hbeyond⟩ := exists_mem_lowerChar (Nat.le_of_not_lt hge) hkelvin
    exact absurd (lt_of_isLower (h d hd).1) (Nat.not_lt.mpr hbeyond)
  obtain ⟨himage, hletter⟩ := lowerChar_of_lt hlt
  have hplain : IsPlain c.toLower := h _ (by simp [himage])
  exact ⟨hletter hplain.1, himage⟩

/-! ### The images of a text -/

namespace LowerForm

variable {cs form name : List Char}

/-- A text has a form of plain letters only if it is ASCII, and then it is the usual one. -/
lemma eq_map_of_plain (h : LowerForm cs form) (hplain : ∀ d ∈ form, IsPlain d) :
    (∀ c ∈ cs, c.isAlpha) ∧ cs.map Char.toLower = form := by
  induction h with
  | nil => simp
  | image c h ih =>
    obtain ⟨himage, hrest⟩ := List.forall_mem_append.mp hplain
    obtain ⟨hletter, hc⟩ := isAlpha_of_lowerChar himage
    obtain ⟨hletters, hcs⟩ := ih hrest
    exact ⟨List.forall_mem_cons.mpr ⟨hletter, hletters⟩, by rw [List.map_cons, hcs, hc]; rfl⟩
  | finalSigma h ih => exact absurd (hplain 'ς' List.mem_cons_self) (by decide)

/-- ASCII letters have one form only. -/
lemma eq_map_of_isAlpha (h : LowerForm cs form) (hletters : ∀ c ∈ cs, c.isAlpha) :
    form = cs.map Char.toLower := by
  induction h with
  | nil => rfl
  | image c h ih =>
    obtain ⟨hletter, hrest⟩ := List.forall_mem_cons.mp hletters
    rw [ih hrest, (lowerChar_of_lt (lt_of_isAlpha hletter)).1, List.map_cons]
    rfl
  | finalSigma h ih => exact absurd (hletters 'Σ' List.mem_cons_self) (by decide)

/-- **A lower-case form is a plain name exactly if the text is that name in ASCII letters of either
case.** -/
theorem eq_iff (h : LowerForm cs form) (hplain : ∀ d ∈ name, IsPlain d) :
    form = name ↔ (∀ c ∈ cs, c.isAlpha) ∧ cs.map Char.toLower = name := by
  constructor
  · rintro rfl
    exact h.eq_map_of_plain hplain
  · rintro ⟨hletters, rfl⟩
    exact h.eq_map_of_isAlpha hletters

end LowerForm

end AlertLedger.Text
