import Mathlib
import DataOutline.Decimal.Exact

/-!
# Whole numbers as floats

A float whose value is a whole number of at most 53 bits stores exactly that number, with its bits
moved to the front of the mantissa. So there is only one such float, but for the two zeros, and the
float that is nearest to a whole number of so many bits is this number: neither reading a number
from an integer nor scaling it loses anything.
-/

namespace DataOutline.Decimal

open Float.Model (UnpackedFloat Format totalExponent)
open Float.Model.UnpackedFloat

theorem log2_mul_two_pow {n : Nat} (h : 0 < n) (k : Nat) : (n * 2 ^ k).log2 = n.log2 + k := by
  have hbits := (Nat.log2_eq_iff h.ne').mp rfl
  refine (Nat.log2_eq_iff (Nat.mul_pos h (Nat.two_pow_pos k)).ne').mpr ⟨?_, ?_⟩
  · rw [Nat.pow_add]
    exact Nat.mul_le_mul_right _ hbits.1
  · rw [Nat.add_right_comm, Nat.pow_add]
    exact Nat.mul_lt_mul_of_pos_right hbits.2 (Nat.two_pow_pos k)

/-! ## Mantissas of 53 bits -/

/-- Mantissas of 53 bits, with exponents that a float has room for. -/
structure IsNormal (m : Nat) (e : Int) : Prop where
  le_mantissa : 2 ^ 52 ≤ m
  mantissa_lt : m < 2 ^ 53
  le_exponent : -1074 ≤ e
  exponent_le : e ≤ 971

namespace IsNormal

variable {m : Nat} {e : Int}

theorem pos (h : IsNormal m e) : 0 < m := Nat.lt_of_lt_of_le (by decide) h.le_mantissa

theorem log2_eq (h : IsNormal m e) : m.log2 = 52 :=
  (Nat.log2_eq_iff h.pos.ne').mpr ⟨h.le_mantissa, h.mantissa_lt⟩

theorem of_whole {n : Nat} (pos : 0 < n) (h : n < 2 ^ 53) :
    IsNormal (n * 2 ^ (52 - n.log2)) (n.log2 - 52) := by
  have hlog : n.log2 < 53 := (Nat.log2_lt pos.ne').mpr h
  have hpos : 0 < n * 2 ^ (52 - n.log2) := Nat.mul_pos pos (Nat.two_pow_pos _)
  have hbits := (Nat.log2_eq_iff hpos.ne').mp (log2_mul_two_pow pos _)
  rw [Nat.add_sub_cancel' (Nat.le_of_lt_succ hlog)] at hbits
  exact ⟨hbits.1, hbits.2, by omega, by omega⟩

end IsNormal

/-! ## Rounding -/

theorem targetExponent_eq (m : Nat) (e : Int) :
    Format.binary64.targetExponent (totalExponent m e) = max (m.log2 + 1 + e - 53) (-1074) :=
  rfl

theorem shiftRightOne_two_mul (m : Nat) :
    ExtendedMantissa.shiftRightOne ⟨2 * m, false, false⟩ = ⟨m, false, false⟩ := by
  simp [ExtendedMantissa.shiftRightOne]

/-- Bits that are zero are shifted out without a trace. -/
theorem shiftRight_mul_two_pow (m k : Nat) :
    (⟨m * 2 ^ k, false, false⟩ : ExtendedMantissa) >>> k = ⟨m, false, false⟩ := by
  change k.repeat ExtendedMantissa.shiftRightOne _ = _
  induction k generalizing m with
  | zero => simp [Nat.repeat]
  | succ k ih =>
    rw [Nat.repeat, show m * 2 ^ (k + 1) = 2 * m * 2 ^ k by ring, ih, shiftRightOne_two_mul]

section Round

variable {m : Nat} {e : Int}

/-- Zeros behind a mantissa of 53 bits are what rounding shifts out. -/
theorem shiftToTargetExponent_normal (h : IsNormal m e) (k : Nat) :
    shiftToTargetExponent .binary64 (m * 2 ^ k) (e - k) .exact = (⟨m, false, false⟩, e) := by
  have hleast := h.le_exponent
  have htarget : Format.binary64.targetExponent (totalExponent (m * 2 ^ k) (e - k)) = e := by
    rw [targetExponent_eq, log2_mul_two_pow h.pos, h.log2_eq]
    omega
  rw [shiftToTargetExponent]
  simp only [htarget, shiftToExponent, ExtendedMantissa.ofMantissaAndAccuracy]
  rw [show (e - (e - k)).toNat = k by omega, shiftRight_mul_two_pow, Int.sub_add_cancel]

theorem roundWithAccuracy_normal (s : Sign) (h : IsNormal m e) (k : Nat) :
    roundWithAccuracy .binary64 s (m * 2 ^ k) (e - k) .exact = .finite s m e h.pos := by
  have hagain : shiftToTargetExponent .binary64 m e .exact = (⟨m, false, false⟩, e) := by
    have hzero := shiftToTargetExponent_normal h 0
    rwa [Nat.pow_zero, Nat.mul_one, Int.natCast_zero, Int.sub_zero] at hzero
  have hrounded : ExtendedMantissa.roundedMantissa ⟨m, false, false⟩ = m := rfl
  rw [roundWithAccuracy]
  simp only [shiftToTargetExponent_normal h k, hrounded, hagain, h.pos.ne', dite_false]

theorem round_whole (s : Sign) {n : Nat} (pos : 0 < n) (h : n < 2 ^ 53) :
    UnpackedFloat.round .binary64 s n 0 =
      .finite s (n * 2 ^ (52 - n.log2)) (n.log2 - 52) (IsNormal.of_whole pos h).pos := by
  have hlog : n.log2 < 53 := (Nat.log2_lt pos.ne').mpr h
  have htarget : Format.binary64.targetExponent (totalExponent n 0) = n.log2 - 52 := by
    rw [targetExponent_eq]
    omega
  have hfront := roundWithAccuracy_normal s (IsNormal.of_whole pos h) 0
  rw [Nat.pow_zero, Nat.mul_one, Int.natCast_zero, Int.sub_zero] at hfront
  rw [UnpackedFloat.round]
  simp only [htarget, decreaseExponent, Nat.shiftLeft_eq]
  rw [show ((0 : Int) - (n.log2 - 52)).toNat = 52 - n.log2 by omega,
    show (0 : Int) - (52 - n.log2 : Nat) = n.log2 - 52 by omega, hfront]

end Round

/-! ## What a float stores -/

theorem toNat_one_append (v : BitVec 52) : (1#1 ++ v).toNat = 2 ^ 52 + v.toNat := by
  rw [BitVec.toNat_append, ← Nat.shiftLeft_add_eq_or_of_lt v.isLt, Nat.shiftLeft_eq]
  rfl

/-- What is packed into a float with a mantissa of 53 bits is found there again. -/
theorem unpack_pack {m : Nat} {e : Int} (s : Sign) (h : IsNormal m e) :
    (Float.Model.pack (.finite s m e h.pos)).unpack = .finite s m e h.pos := by
  have hlow := h.le_mantissa
  have hhigh := h.mantissa_lt
  have hleast := h.le_exponent
  have hmost := h.exponent_le
  have hbias : (Format.binary64.exponentBias : Int) = 1023 := rfl
  have hbits : (Format.binary64.mantissaBitsWithoutImplicit : Int) = 52 := rfl
  -- The exponent is stored with its bias, and is neither of the two that stand for other numbers.
  have hbiased : (BitVec.ofNat 11 (e + 1023 + 52).toNat).toNat = (e + 1075).toNat := by
    rw [BitVec.toNat_ofNat, Nat.mod_eq_of_lt (by omega)]
    omega
  have hlast : BitVec.ofNat 11 (e + 1023 + 52).toNat ≠ -1#11 := by
    intro heq
    rw [heq] at hbiased
    change 2047 = _ at hbiased
    omega
  have hfirst : BitVec.ofNat 11 (e + 1023 + 52).toNat ≠ 0#11 := by
    intro heq
    rw [heq] at hbiased
    change 0 = _ at hbiased
    omega
  -- The first bit of the mantissa is not stored, as it is known.
  have hmantissa : (1#1 ++ BitVec.ofNat 52 m).toNat = m := by
    rw [toNat_one_append, BitVec.toNat_ofNat]
    omega
  change UnpackedFloat.unpack .binary64 (UnpackedFloat.pack .binary64 _) = _
  rw [UnpackedFloat.pack]
  simp only [h.log2_eq, hbias, hbits]
  rw [if_neg (by omega), if_pos (show 52 + 1 = Format.binary64.mantissaBits from rfl),
    UnpackedFloat.unpack]
  simp only [unpackMantissa_packComponents, unpackExponent_packComponents,
    unpackSign_packComponents, Sign.ofBitVec_toBitVec]
  rw [if_neg hlast, if_neg hfirst]
  simp only [hmantissa, hbiased, hbias, hbits]
  congr 1
  omega

/-- The mantissas that a float stores: of 53 bits, or of fewer and with the least exponent. -/
theorem mantissa_of_unpack {bits : BitVec Format.binary64.numBits} {s : Sign} {m : Nat} {e : Int}
    {hm : 0 < m} (h : UnpackedFloat.unpack .binary64 bits = .finite s m e hm) :
    IsNormal m e ∨ m < 2 ^ 52 ∧ e = -1074 := by
  have hbias : (Format.binary64.exponentBias : Int) = 1023 := rfl
  have hbits : (Format.binary64.mantissaBitsWithoutImplicit : Int) = 52 := rfl
  have hstored : (unpackMantissa bits).toNat < 2 ^ 52 := BitVec.isLt _
  have hexponent : (unpackExponent bits).toNat < 2 ^ 11 := BitVec.isLt _
  rw [UnpackedFloat.unpack] at h
  simp only [hbias, hbits] at h
  split at h
  · split at h <;> cases h
  · next hlast =>
    split at h
    · next hfirst =>
      split at h
      · cases h
      · cases h
        right
        rw [hfirst]
        exact ⟨hstored, rfl⟩
    · next hfirst =>
      cases h
      left
      rw [BitVec.toNat_eq] at hlast hfirst
      change (unpackExponent bits).toNat ≠ 2047 at hlast
      change (unpackExponent bits).toNat ≠ 0 at hfirst
      have hmantissa := toNat_one_append (unpackMantissa bits)
      constructor <;> omega

theorem mantissa_lt_of_unpack {bits : BitVec Format.binary64.numBits} {s : Sign} {m : Nat} {e : Int}
    {hm : 0 < m} (h : UnpackedFloat.unpack .binary64 bits = .finite s m e hm) : m < 2 ^ 53 := by
  rcases mantissa_of_unpack h with hnormal | ⟨hsmall, -⟩
  · exact hnormal.mantissa_lt
  · exact Nat.lt_trans hsmall (by decide)

/-! ## Reading a float from a whole number -/

theorem unpack_ofNat {n : Nat} (pos : 0 < n) (h : n < 2 ^ 53) :
    (Float.ofNat n).toModel.unpack =
      .finite .positive (n * 2 ^ (52 - n.log2)) (n.log2 - 52) (IsNormal.of_whole pos h).pos := by
  have hnormal := IsNormal.of_whole pos h
  have hone : (Float.ofBits 0x3FF0000000000000).toModel.unpack =
      .finite .positive (2 ^ 52) (-(52 : Nat)) (by decide) := by
    rfl
  -- The number is read from a machine word, and then scaled by the power of ten `1`.
  have hword : (n.toUInt64.toFloat).toModel.unpack =
      .finite .positive (n * 2 ^ (52 - n.log2)) (n.log2 - 52) hnormal.pos := by
    have hn : n.toUInt64.toNat = n := by
      rw [Nat.toUInt64, UInt64.toNat_ofNat']
      omega
    have hcompare : compare (n : Int) 0 = .gt := compare_gt_iff_gt.mpr (by omega)
    change (Float.Model.pack (normalize .binary64 (n.toUInt64.toNat : Int) 0 .positive)).unpack = _
    rw [hn, UnpackedFloat.normalize]
    simp only [hcompare, Int.toNat_natCast, round_whole _ pos h]
    exact unpack_pack _ hnormal
  have hscaled : Float.ofNat n = n.toUInt64.toFloat * Float.ofBits 0x3FF0000000000000 := by
    change Float.ofScientific n false 0 = _
    rw [Float.ofScientific, dif_pos ⟨h, by decide⟩]
    rfl
  rw [hscaled]
  change (Float.Model.pack (UnpackedFloat.mul .binary64 n.toUInt64.toFloat.toModel.unpack
    (Float.ofBits 0x3FF0000000000000).toModel.unpack)).unpack = _
  rw [hword, hone]
  change (Float.Model.pack (roundWithAccuracy .binary64 .positive _ _ .exact)).unpack = _
  rw [← Int.sub_eq_add_neg, roundWithAccuracy_normal _ hnormal]
  exact unpack_pack _ hnormal

/-- A float that stores an integer of at most 53 bits. -/
def Stores (x : Float) (i : Int) : Prop :=
  ∃ pos, x.toModel.unpack = .finite (signOf (decide (i < 0))) (i.natAbs * 2 ^ (52 - i.natAbs.log2))
    (i.natAbs.log2 - 52) pos

namespace Stores

variable {x y : Float} {i : Int}

theorem ne_zero (h : Stores x i) : i ≠ 0 := by
  obtain ⟨pos, -⟩ := h
  rintro rfl
  exact pos.false

theorem unpack_eq (h : Stores x i) (h' : Stores y i) : x.toModel.unpack = y.toModel.unpack := by
  obtain ⟨pos, hx⟩ := h
  obtain ⟨pos', hy⟩ := h'
  exact hx.trans hy.symm

end Stores

theorem stores_ofInt {i : Int} (nonzero : i ≠ 0) (h : i.natAbs < 2 ^ 53) :
    Stores (Float.ofInt i) i := by
  have hpos : 0 < i.natAbs := Int.natAbs_pos.mpr nonzero
  refine ⟨(IsNormal.of_whole hpos h).pos, ?_⟩
  cases i with
  | ofNat n =>
    have hsign : decide (Int.ofNat n < 0) = false := decide_eq_false (Int.natCast_nonneg n).not_gt
    rw [hsign]
    exact unpack_ofNat hpos h
  | negSucc n =>
    have hsign : decide (Int.negSucc n < 0) = true := decide_eq_true (Int.negSucc_lt_zero n)
    rw [hsign]
    change (Float.Model.pack (UnpackedFloat.neg (Float.ofNat (n + 1)).toModel.unpack)).unpack = _
    rw [unpack_ofNat n.succ_pos h]
    exact unpack_pack .negative (IsNormal.of_whole n.succ_pos h)

/-! ## Integers that floats are -/

theorem integer?_finite_eq_some {negative : Bool} {m : Nat} {e i : Int} :
    (Exact.finite negative m e).integer? = some i ↔
      ∃ n, m * 2 ^ e.toNat = n * 2 ^ (-e).toNat ∧ signed negative n = i := by
  have hden : 0 < 2 ^ (-e).toNat := Nat.two_pow_pos _
  change (if m * 2 ^ e.toNat % 2 ^ (-e).toNat = 0 then
    some (signed negative (m * 2 ^ e.toNat / 2 ^ (-e).toNat)) else none) = some i ↔ _
  constructor
  · intro h
    split at h
    · next hmod =>
      exact ⟨_, (Nat.div_mul_cancel (Nat.dvd_of_mod_eq_zero hmod)).symm, Option.some.inj h⟩
    · cases h
  · rintro ⟨n, hn, rfl⟩
    rw [hn, if_pos (Nat.mul_mod_left _ _), Nat.mul_div_cancel _ hden]

theorem natAbs_signed (negative : Bool) (n : Nat) : (signed negative n).natAbs = n := by
  cases negative with
  | false => exact Int.natAbs_natCast n
  | true => exact (Int.natAbs_neg n).trans (Int.natAbs_natCast n)

theorem signed_natAbs (i : Int) : signed (decide (i < 0)) i.natAbs = i := by
  by_cases hi : i < 0
  · rw [decide_eq_true hi, signed, if_pos rfl]
    omega
  · rw [decide_eq_false hi, signed, if_neg Bool.false_ne_true]
    omega

theorem decide_signed_lt_zero (negative : Bool) {n : Nat} (pos : 0 < n) :
    decide (signed negative n < 0) = negative := by
  cases negative <;> simp [signed, pos]

theorem isNegative_signOf (negative : Bool) : isNegative (signOf negative) = negative := by
  cases negative <;> rfl

theorem signOf_isNegative (s : Sign) : signOf (isNegative s) = s := by
  cases s <;> rfl

theorem Stores.integer?_eq {x : Float} {i : Int} (h : Stores x i) (bits : i.natAbs < 2 ^ 53) :
    (Exact.ofFloat x).integer? = some i := by
  have hpos : i.natAbs ≠ 0 := Int.natAbs_ne_zero.mpr h.ne_zero
  obtain ⟨pos, hunpack⟩ := h
  have hlog : i.natAbs.log2 < 53 := (Nat.log2_lt hpos).mpr bits
  have hexact : Exact.ofFloat x = .finite (decide (i < 0))
      (i.natAbs * 2 ^ (52 - i.natAbs.log2)) (i.natAbs.log2 - 52) := by
    rw [Exact.ofFloat, hunpack]
    simp only [isNegative_signOf]
  rw [hexact]
  refine integer?_finite_eq_some.mpr ⟨i.natAbs, ?_, signed_natAbs i⟩
  rw [show ((i.natAbs.log2 : Int) - 52).toNat = 0 by omega,
    show (-((i.natAbs.log2 : Int) - 52)).toNat = 52 - i.natAbs.log2 by omega, Nat.pow_zero,
    Nat.mul_one]

theorem stores_of_finite {x : Float} {s : Sign} {m : Nat} {e i : Int} {hm : 0 < m}
    (hx : x.toModel.unpack = .finite s m e hm) (bits : i.natAbs < 2 ^ 52)
    (whole : (Exact.finite (isNegative s) m e).integer? = some i) : Stores x i := by
  obtain ⟨n, hn, rfl⟩ := integer?_finite_eq_some.mp whole
  rw [natAbs_signed] at bits
  have hpos : 0 < n := by
    refine Nat.pos_of_ne_zero ?_
    rintro rfl
    rw [Nat.zero_mul] at hn
    exact (Nat.mul_pos hm (Nat.two_pow_pos _)).ne' hn
  -- With the least exponent the mantissa would be a multiple of more than it can be.
  have hnormal : IsNormal m e := by
    refine (mantissa_of_unpack hx).resolve_right ?_
    rintro ⟨hsmall, rfl⟩
    have hlarge : 2 ^ 52 ≤ n * 2 ^ (-(-1074 : Int)).toNat :=
      Nat.le_trans (Nat.pow_le_pow_right (by decide) (by decide)) (Nat.le_mul_of_pos_left _ hpos)
    rw [← hn, Int.toNat_of_nonpos (by decide), Nat.pow_zero, Nat.mul_one] at hlarge
    exact absurd hlarge (Nat.not_le.mpr hsmall)
  -- Without a fraction the number would be a multiple of the mantissa.
  have hexponent : e < 0 := by
    by_contra hnonneg
    have hlow := hnormal.le_mantissa
    have hmultiple : m ≤ m * 2 ^ e.toNat := Nat.le_mul_of_pos_right m (Nat.two_pow_pos _)
    rw [hn, show (-e).toNat = 0 by omega] at hmultiple
    omega
  have hm' : m = n * 2 ^ (-e).toNat := by
    rwa [show e.toNat = 0 by omega, Nat.pow_zero, Nat.mul_one] at hn
  have hlog : n.log2 + (-e).toNat = 52 := by
    rw [← log2_mul_two_pow hpos, ← hm', hnormal.log2_eq]
  have hshift : (-e).toNat = 52 - n.log2 := by omega
  have he : e = n.log2 - 52 := by omega
  unfold Stores
  rw [natAbs_signed, decide_signed_lt_zero _ hpos, signOf_isNegative, ← hshift, ← hm', ← he]
  exact ⟨hm, hx⟩

/-- **A whole number survives conversion to an integer and back.** -/
theorem ofInt_beq {x : Float} {i : Int} (bits : i.natAbs < 2 ^ 52)
    (whole : (Exact.ofFloat x).integer? = some i) : (Float.ofInt i == x) = true := by
  change UnpackedFloat.beq (Float.ofInt i).toModel.unpack x.toModel.unpack = true
  rw [Exact.ofFloat] at whole
  cases hx : x.toModel.unpack with
  | notANumber | infinity s =>
    rw [hx] at whole
    cases whole
  | zero s =>
    rw [hx] at whole
    cases s <;> cases whole <;> rfl
  | finite s m e hm =>
    rw [hx] at whole
    have hstores := stores_of_finite hx bits whole
    have hsame := (stores_ofInt hstores.ne_zero (by omega)).unpack_eq hstores
    rw [hsame, hx, UnpackedFloat.beq_iff_ne_notANumber_and_eq]
    refine ⟨?_, ?_, Or.inl rfl⟩ <;> rintro ⟨⟩

theorem integer?_ofFloat_ofInt {i : Int} (h : i.natAbs < 2 ^ 53) :
    (Exact.ofFloat (Float.ofInt i)).integer? = some i := by
  by_cases hi : i = 0
  · subst hi
    rfl
  · exact (stores_ofInt hi h).integer?_eq h

end DataOutline.Decimal
