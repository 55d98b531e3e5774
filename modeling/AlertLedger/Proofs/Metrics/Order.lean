/-
# The order of doubles

A histogram compares doubles by their bits: without its sign a double is a number that grows with
its value, and the sign turns the order around (`Seconds.rank`). Here that is shown to be the order
of doubles itself, in which a NaN is comparable with nothing (`Seconds.notAbove_eq`). What the bits
of a double mean is said once (`Seconds.Reads`); it leads to the sign, mantissa and exponent by
which doubles are compared, and to the rank.
-/
import AlertLedger.Metrics
import Mathlib.Data.UInt

namespace AlertLedger.Seconds

open Float.Model (UnpackedFloat Format)
open Float.Model.UnpackedFloat (Sign unpack unpackExponent unpackMantissa unpackSign)

/-! ### What the bits mean -/

/-- What a double with the given sign and the given bits of exponent and mantissa is. -/
inductive Reads (s : Sign) (e m : Nat) : UnpackedFloat → Prop
  | infinity (he : e = 2047) (hm : m = 0) : Reads s e m (.infinity s)
  | notANumber (he : e = 2047) (hm : m ≠ 0) : Reads s e m .notANumber
  | zero (he : e = 0) (hm : m = 0) : Reads s e m (.zero s)
  | subnormal (he : e = 0) (hm : 0 < m) : Reads s e m (.finite s m (-1074) hm)
  | normal {full : Nat} {hfull : 0 < full} (he : 0 < e) (he' : e < 2047)
      (h : full = 2 ^ 52 + m) : Reads s e m (.finite s full (e - 1075) hfull)

lemma toNat_unpackMantissa (bits : BitVec 64) :
    (@unpackMantissa Format.binary64 bits).toNat = bits.toNat % 2 ^ 52 := by
  simp [unpackMantissa]

lemma toNat_unpackExponent (bits : BitVec 64) :
    (@unpackExponent Format.binary64 bits).toNat = bits.toNat / 2 ^ 52 % 2 ^ 11 := by
  simp [unpackExponent, Nat.shiftRight_eq_div_pow]

lemma ofBitVec_unpackSign (bits : BitVec 64) :
    Sign.ofBitVec (@unpackSign Format.binary64 bits)
      = if bits.toNat < 2 ^ 63 then .positive else .negative := by
  have hbits : bits.toNat < 2 ^ 64 := bits.isLt
  have hsign : (@unpackSign Format.binary64 bits).toNat = bits.toNat / 2 ^ 63 := by
    change (bits.extractLsb 63 63).toNat = _
    rw [BitVec.extractLsb_toNat, Nat.shiftRight_eq_div_pow]
    omega
  have hzero : @unpackSign Format.binary64 bits = 0#1 ↔ bits.toNat < 2 ^ 63 := by
    rw [← BitVec.toNat_inj, hsign]
    simp only [BitVec.toNat_ofNat]
    omega
  simp only [Sign.ofBitVec, hzero]

lemma reads_unpack (bits : BitVec 64) :
    Reads (if bits.toNat < 2 ^ 63 then .positive else .negative) (bits.toNat / 2 ^ 52 % 2 ^ 11)
      (bits.toNat % 2 ^ 52) (unpack Format.binary64 bits) := by
  have hlt : (@unpackExponent Format.binary64 bits).toNat < 2 ^ 11 :=
    (@unpackExponent Format.binary64 bits).isLt
  rw [← ofBitVec_unpackSign, ← toNat_unpackExponent, ← toNat_unpackMantissa]
  delta unpack
  dsimp only
  by_cases hones : @unpackExponent Format.binary64 bits = -1#_
  · have he := congrArg BitVec.toNat hones
    rw [if_pos hones]
    by_cases hm : @unpackMantissa Format.binary64 bits = 0#_
    · rw [if_pos hm]
      exact .infinity he (congrArg BitVec.toNat hm)
    · rw [if_neg hm]
      exact .notANumber he fun h => hm (BitVec.eq_of_toNat_eq h)
  · have hne : (@unpackExponent Format.binary64 bits).toNat ≠ 2047 :=
      fun h => hones (BitVec.eq_of_toNat_eq h)
    rw [if_neg hones]
    by_cases hzero : @unpackExponent Format.binary64 bits = 0#_
    · have he : (@unpackExponent Format.binary64 bits).toNat = 0 := congrArg BitVec.toNat hzero
      rw [if_pos hzero]
      by_cases hm : @unpackMantissa Format.binary64 bits = 0#_
      · rw [dif_pos hm]
        exact .zero he (congrArg BitVec.toNat hm)
      · rw [dif_neg hm, he]
        exact .subnormal rfl _
    · have hpos : (@unpackExponent Format.binary64 bits).toNat ≠ 0 :=
        fun h => hzero (BitVec.eq_of_toNat_eq h)
      have hleading : (1#1 ++ @unpackMantissa Format.binary64 bits).toNat
          = 2 ^ 52 + (@unpackMantissa Format.binary64 bits).toNat := by
        rw [BitVec.toNat_append, ← Nat.shiftLeft_add_eq_or_of_lt (BitVec.isLt _)]
        rfl
      rw [if_neg hzero]
      exact .normal (by omega) (by omega) hleading

/-! ### Places -/

/-- The rank of a double that is taken apart, if it is a number. -/
def place? : UnpackedFloat → Option Int
  | .notANumber => none
  | .infinity s => some (s.apply infinityRank)
  | .zero _ => some 0
  | .finite s m e _ => some (s.apply (m + (e + 1074) * 2 ^ 52))

/-- What mantissa and exponent a finite double has when it is taken apart. -/
def IsCanonical : UnpackedFloat → Prop
  | .finite _ m e _ => m < 2 ^ 53 ∧ -1074 ≤ e ∧ e ≤ 971 ∧ (2 ^ 52 ≤ m ∨ e = -1074)
  | _ => True

/-- Exponents come first and mantissas second, and that is the order of the places. -/
lemma isLE_then_iff {m m' : Nat} {e e' : Int} (hm : m < 2 ^ 53) (hm' : m' < 2 ^ 53)
    (h : 2 ^ 52 ≤ m ∨ e = -1074) (h' : 2 ^ 52 ≤ m' ∨ e' = -1074) (he : -1074 ≤ e)
    (he' : -1074 ≤ e') :
    ((compare e e').then (compare m m')).isLE
      ↔ m + (e + 1074) * 2 ^ 52 ≤ m' + (e' + 1074) * 2 ^ 52 := by
  have hlex : ((compare e e').then (compare m m')).isLE ↔ e < e' ∨ e = e' ∧ m ≤ m' := by
    simp [Ordering.isLE_then_iff_or, compare_lt_iff_lt, Nat.isLE_compare]
  rw [hlex]
  omega

/-- Finite doubles are in the order of their places. -/
lemma le_finite_iff {s s' : Sign} {m m' : Nat} {e e' : Int} {hm : 0 < m} {hm' : 0 < m'}
    (h : IsCanonical (.finite s m e hm)) (h' : IsCanonical (.finite s' m' e' hm')) :
    UnpackedFloat.le (.finite s m e hm) (.finite s' m' e' hm')
      ↔ s.apply (m + (e + 1074) * 2 ^ 52) ≤ s'.apply (m' + (e' + 1074) * 2 ^ 52) := by
  obtain ⟨hlt, he, -, hnormal⟩ := h
  obtain ⟨hlt', he', -, hnormal'⟩ := h'
  cases s with
  | positive =>
    cases s' with
    | positive =>
      exact isLE_then_iff hlt hlt' hnormal hnormal' he he'
    | negative =>
      refine iff_of_false Bool.false_ne_true ?_
      simp only [Sign.apply]
      omega
  | negative =>
    cases s' with
    | positive =>
      refine iff_of_true rfl ?_
      simp only [Sign.apply]
      omega
    | negative =>
      -- The order of what is negative is turned around.
      have hturned : ((compare e e').then (compare m m')).swap
          = (compare e' e).then (compare m' m) := by
        rw [Ordering.swap_then, Std.OrientedOrd.eq_swap (a := e'), Std.OrientedOrd.eq_swap (a := m')]
      change ((compare e e').then (compare m m')).swap.isLE ↔ _
      simp only [Sign.apply, Int.neg_le_neg_iff, hturned]
      exact isLE_then_iff hlt' hlt hnormal' hnormal he' he

/-- Finite doubles are between the infinities, and none of those in canonical form is zero. -/
lemma IsCanonical.bounds {s : Sign} {m : Nat} {e : Int} {hm : 0 < m}
    (h : IsCanonical (.finite s m e hm)) :
    0 < m + (e + 1074) * 2 ^ 52 ∧ m + (e + 1074) * 2 ^ 52 < infinityRank := by
  obtain ⟨hlt, he, he', -⟩ := h
  unfold infinityRank
  omega

lemma IsCanonical.between {s : Sign} {m : Nat} {e : Int} {hm : 0 < m}
    (h : IsCanonical (.finite s m e hm)) :
    -infinityRank < s.apply (m + (e + 1074) * 2 ^ 52)
      ∧ s.apply (m + (e + 1074) * 2 ^ 52) < infinityRank := by
  have hbounds := h.bounds
  cases s <;> simp only [Sign.apply] <;> omega

lemma exists_place_iff {a b : UnpackedFloat} {i j : Int} (ha : place? a = some i)
    (hb : place? b = some j) : (∃ i ∈ place? a, ∃ j ∈ place? b, i ≤ j) ↔ i ≤ j := by
  simp [ha, hb]

/-- One double is at most another one if both are numbers and their places are in this order. -/
lemma le_iff {a b : UnpackedFloat} (ha : IsCanonical a) (hb : IsCanonical b) :
    a.le b ↔ ∃ i ∈ place? a, ∃ j ∈ place? b, i ≤ j := by
  rcases a with s | _ | s | ⟨s, m, e, hm⟩ <;> rcases b with s' | _ | s' | ⟨s', m', e', hm'⟩
  case finite.finite => exact (le_finite_iff ha hb).trans (exists_place_iff rfl rfl).symm
  case infinity.infinity =>
    rw [exists_place_iff rfl rfl]
    cases s <;> cases s' <;> decide
  case infinity.zero =>
    rw [exists_place_iff rfl rfl]
    cases s with
    | positive => exact iff_of_false Bool.false_ne_true (by decide)
    | negative => exact iff_of_true rfl (by decide)
  case zero.infinity =>
    rw [exists_place_iff rfl rfl]
    cases s' with
    | positive => exact iff_of_true rfl (by decide)
    | negative => exact iff_of_false Bool.false_ne_true (by decide)
  case zero.zero =>
    rw [exists_place_iff rfl rfl]
    exact iff_of_true rfl le_rfl
  case infinity.finite =>
    rw [exists_place_iff rfl rfl]
    cases s with
    | positive => exact iff_of_false Bool.false_ne_true (Int.not_le.mpr hb.between.2)
    | negative => exact iff_of_true rfl hb.between.1.le
  case finite.infinity =>
    rw [exists_place_iff rfl rfl]
    cases s' with
    | positive => exact iff_of_true rfl ha.between.2.le
    | negative => exact iff_of_false Bool.false_ne_true (Int.not_le.mpr ha.between.1)
  case zero.finite =>
    rw [exists_place_iff rfl rfl]
    cases s' with
    | positive => exact iff_of_true rfl hb.bounds.1.le
    | negative =>
      have hneg := Int.neg_neg_of_pos hb.bounds.1
      exact iff_of_false Bool.false_ne_true (Int.not_le.mpr hneg)
  case finite.zero =>
    rw [exists_place_iff rfl rfl]
    cases s with
    | positive => exact iff_of_false Bool.false_ne_true (Int.not_le.mpr ha.bounds.1)
    | negative => exact iff_of_true rfl (Int.neg_neg_of_pos ha.bounds.1).le
  -- What remains is a NaN on either side.
  all_goals
    refine iff_of_false Bool.false_ne_true ?_
    rintro ⟨_, hi, _, hj, -⟩
    first
      | cases hi; done
      | cases hj

namespace Reads

variable {s : Sign} {e m : Nat} {f : UnpackedFloat}

lemma isCanonical (h : Reads s e m f) (hm : m < 2 ^ 52) : IsCanonical f := by
  cases h with
  | infinity | notANumber | zero => trivial
  | subnormal he hpos => exact ⟨by omega, by omega, by omega, .inr rfl⟩
  | normal he he' hfull => exact ⟨by omega, by omega, by omega, .inl (by omega)⟩

/-- The bits without the sign are the place, and what is beyond infinity is no number. -/
lemma place?_eq (h : Reads s e m f) (hm : m < 2 ^ 52) :
    place? f = if ((e * 2 ^ 52 + m : Nat) : Int) ≤ infinityRank
      then some (s.apply (e * 2 ^ 52 + m : Nat)) else none := by
  unfold infinityRank
  cases h with
  | infinity he hzero =>
    subst he hzero
    rfl
  | notANumber he hne =>
    rw [if_neg (by omega)]
    rfl
  | zero he hzero =>
    subst he hzero
    cases s <;> rfl
  | subnormal he hpos =>
    rw [if_pos (by omega)]
    refine congrArg (some <| s.apply ·) ?_
    omega
  | normal he he' hfull =>
    subst hfull
    rw [if_pos (by omega)]
    refine congrArg (some <| s.apply ·) ?_
    omega

end Reads

/-! ### The order -/

/-- A double is a number, which may be infinite. -/
def IsNumber (x : Float) : Prop := -infinityRank ≤ rank x ∧ rank x ≤ infinityRank

instance (x : Float) : Decidable (IsNumber x) := inferInstanceAs (Decidable (_ ∧ _))

lemma rank_eq (x : Float) :
    rank x = (if x.toBits.toNat < 2 ^ 63 then Sign.positive else .negative).apply
      (x.toBits.toNat / 2 ^ 52 % 2 ^ 11 * 2 ^ 52 + x.toBits.toNat % 2 ^ 52 : Nat) := by
  have hmagnitude : (x.toBits &&& 0x7fffffffffffffff).toNat
      = x.toBits.toNat / 2 ^ 52 % 2 ^ 11 * 2 ^ 52 + x.toBits.toNat % 2 ^ 52 := by
    rw [UInt64.toNat_and]
    change x.toBits.toNat &&& (2 ^ 63 - 1) = _
    rw [Nat.and_two_pow_sub_one_eq_mod]
    omega
  have hsign : x.toBits < 0x8000000000000000 ↔ x.toBits.toNat < 2 ^ 63 := UInt64.lt_iff_toNat_lt
  simp only [rank, hmagnitude, hsign]
  split <;> rfl

lemma reads_toModel (x : Float) :
    Reads (if x.toBits.toNat < 2 ^ 63 then .positive else .negative)
      (x.toBits.toNat / 2 ^ 52 % 2 ^ 11) (x.toBits.toNat % 2 ^ 52) x.toModel.unpack :=
  reads_unpack x.toBits.toBitVec

lemma isCanonical_toModel (x : Float) : IsCanonical x.toModel.unpack :=
  (reads_toModel x).isCanonical (Nat.mod_lt _ (by decide))

lemma place?_toModel (x : Float) :
    place? x.toModel.unpack = if IsNumber x then some (rank x) else none := by
  have hnumber : ((x.toBits.toNat / 2 ^ 52 % 2 ^ 11 * 2 ^ 52 + x.toBits.toNat % 2 ^ 52 : Nat) : Int)
      ≤ infinityRank ↔ IsNumber x := by
    unfold IsNumber infinityRank
    rw [rank_eq]
    split <;> simp only [Sign.apply] <;> omega
  rw [(reads_toModel x).place?_eq (Nat.mod_lt _ (by decide)), ← rank_eq]
  simp only [hnumber]

/-- **Doubles are in the order of their ranks.** A NaN is neither below nor above anything. -/
theorem le_iff_rank_le (x y : Float) : x ≤ y ↔ IsNumber x ∧ IsNumber y ∧ rank x ≤ rank y := by
  have hle : x ≤ y ↔ x.toModel.unpack.le y.toModel.unpack := by
    change Float.le x y = true ↔ _
    exact decide_eq_true_iff
  rw [hle, le_iff (isCanonical_toModel x) (isCanonical_toModel y), place?_toModel, place?_toModel]
  by_cases hx : IsNumber x <;> by_cases hy : IsNumber y <;> simp [hx, hy]

/-- What is not above a bound is below it or equal to it in the order of doubles. -/
lemma notAbove_eq (x : Float) {bound : Float} (h : IsNumber bound) :
    notAbove x bound = decide (x ≤ bound) := by
  rw [Bool.eq_iff_iff, decide_eq_true_iff, le_iff_rank_le]
  simp only [notAbove, Bool.and_eq_true, decide_eq_true_eq]
  exact ⟨fun ⟨hx, hle⟩ => ⟨hx, h, hle⟩, fun ⟨hx, _, hle⟩ => ⟨hx, hle⟩⟩

lemma le_trans {x y z : Float} (hxy : x ≤ y) (hyz : y ≤ z) : x ≤ z := by
  obtain ⟨hx, -, hle⟩ := (le_iff_rank_le x y).mp hxy
  obtain ⟨-, hz, hle'⟩ := (le_iff_rank_le y z).mp hyz
  exact (le_iff_rank_le x z).mpr ⟨hx, hz, Int.le_trans hle hle'⟩

/-- A finite double is between the infinities. -/
lemma isFinite_iff (x : Float) : x.isFinite ↔ -infinityRank < rank x ∧ rank x < infinityRank := by
  have hplace := place?_toModel x
  have hcanonical := isCanonical_toModel x
  change x.toModel.unpack.isFinite ↔ _
  generalize x.toModel.unpack = f at hplace hcanonical
  have hall : f.isFinite ↔ ∃ i ∈ place? f, -infinityRank < i ∧ i < infinityRank := by
    cases f with
    | notANumber =>
      refine iff_of_false Bool.false_ne_true ?_
      rintro ⟨_, hi, -⟩
      cases hi
    | infinity s =>
      refine iff_of_false Bool.false_ne_true ?_
      rintro ⟨_, hi, hlow, hhigh⟩
      cases hi
      cases s with
      | positive => exact Int.lt_irrefl _ hhigh
      | negative => exact Int.lt_irrefl _ hlow
    | zero s => exact iff_of_true rfl ⟨0, rfl, by decide⟩
    | finite s m e hm => exact iff_of_true rfl ⟨_, rfl, hcanonical.between⟩
  rw [hall, hplace]
  by_cases hx : IsNumber x
  · simp [hx]
  · have hbeyond : ¬ (-infinityRank < rank x ∧ rank x < infinityRank) :=
      fun ⟨hlow, hhigh⟩ => hx ⟨hlow.le, hhigh.le⟩
    simp [hx, hbeyond]

end AlertLedger.Seconds
