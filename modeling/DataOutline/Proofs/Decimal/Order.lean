import DataOutline.Proofs.Decimal.Whole

/-!
# Comparing floats with whole numbers

Positive floats are compared by their exponents first, and by their mantissas if these are the same.
So a float that is not above a whole number of at most 53 bits does not exceed it when its fraction
is cut off either.
-/

namespace DataOutline.Decimal

open Float.Model (UnpackedFloat)
open Float.Model.UnpackedFloat

section Unpacked

variable {x y : Float}

theorem le_iff_unpack :
    x ≤ y ↔ UnpackedFloat.le x.toModel.unpack y.toModel.unpack = true := decide_eq_true_iff

theorem lt_iff_unpack :
    x < y ↔ UnpackedFloat.lt x.toModel.unpack y.toModel.unpack = true := decide_eq_true_iff

end Unpacked

/-- Two positive numbers are compared by their exponents before their mantissas. -/
theorem lt_finite_iff {m n : Nat} {e f : Int} (hm : 0 < m) (hn : 0 < n) :
    UnpackedFloat.lt (.finite .positive m e hm) (.finite .positive n f hn) = true ↔
      e < f ∨ e = f ∧ m < n := by
  have horder : (compare e f).then (compare m n) = .lt ↔ e < f ∨ e = f ∧ m < n := by
    rw [Ordering.then_eq_lt, compare_lt_iff_lt, compare_eq_iff_eq, compare_lt_iff_lt]
  rw [← horder]
  change (some ((compare e f).then (compare m n)) == some .lt) = true ↔ _
  cases (compare e f).then (compare m n) <;> decide

theorem unpack_of_one_le {x : Float} (one : 1.0 ≤ x) :
    x.toModel.unpack = .infinity .positive ∨
      ∃ m e pos, x.toModel.unpack = .finite .positive m e pos := by
  have hone : (1.0 : Float).toModel.unpack = .finite .positive (2 ^ 52) (-52) (by decide) := by rfl
  rw [le_iff_unpack, hone] at one
  cases hx : x.toModel.unpack with
  | notANumber =>
    rw [hx] at one
    exact nomatch one
  | zero s =>
    rw [hx] at one
    exact nomatch one
  | infinity s =>
    rw [hx] at one
    cases s with
    | positive => exact Or.inl rfl
    | negative => exact nomatch one
  | finite s m e pos =>
    rw [hx] at one
    cases s with
    | positive => exact Or.inr ⟨m, e, pos, rfl⟩
    | negative => exact nomatch one

theorem clamp_of_truncate? {x : Exact} {low high i : Int} (part : x.truncate? = some i)
    (least : low ≤ i) (most : i ≤ high) : x.clamp low high = i := by
  cases x with
  | notANumber | infinite => exact nomatch part
  | finite negative mantissa exponent =>
    rw [Exact.clamp, part, Option.getD_some, min_eq_right most, max_eq_right least]

theorem clamp_le {x : Exact} {low high : Int} (least : low ≤ 0) (most : 0 ≤ high) :
    low ≤ x.clamp low high ∧ x.clamp low high ≤ high := by
  cases x with
  | notANumber => exact ⟨least, most⟩
  | infinite negative => cases negative <;> simp [Exact.clamp, least.trans most]
  | finite => exact ⟨le_max_left _ _, max_le (least.trans most) (min_le_left _ _)⟩

/-- **The whole part of a number from one to a bound** is a natural number up to the bound. -/
theorem exists_truncate?_of_le {x : Float} {bound : Nat} (pos : 0 < bound) (bits : bound < 2 ^ 53)
    (one : 1.0 ≤ x) (fits : ¬Float.ofNat bound < x) :
    ∃ n ≤ bound, (Exact.ofFloat x).truncate? = some (n : Int) := by
  rw [lt_iff_unpack, unpack_ofNat pos bits] at fits
  rcases unpack_of_one_le one with hx | ⟨m, e, hm, hx⟩
  · rw [hx] at fits
    exact absurd rfl fits
  rw [hx, lt_finite_iff] at fits
  have hmantissa : m < 2 ^ 53 := mantissa_lt_of_unpack hx
  have hlog : bound.log2 < 53 := (Nat.log2_lt pos.ne').mpr bits
  have hbits := (IsNormal.of_whole pos bits).le_mantissa
  refine ⟨m * 2 ^ e.toNat / 2 ^ (-e).toNat, ?_, ?_⟩
  · rw [show e.toNat = 0 by omega, Nat.pow_zero, Nat.mul_one]
    refine Nat.div_le_of_le_mul ?_
    -- The bound has the exponent of the number, or else a greater one and so a bit more.
    by_cases hexponent : e = bound.log2 - 52
    · rw [show (-e).toNat = 52 - bound.log2 by omega, Nat.mul_comm]
      omega
    · obtain ⟨k, hk⟩ : ∃ k, (-e).toNat = 52 - bound.log2 + (k + 1) :=
        ⟨(-e).toNat - (52 - bound.log2) - 1, by omega⟩
      have hmore : 2 ^ 52 * 2 ^ (k + 1) ≤ bound * 2 ^ (52 - bound.log2) * 2 ^ (k + 1) :=
        Nat.mul_le_mul_right _ hbits
      have hbit : 2 ^ 52 * 2 ^ 1 ≤ 2 ^ 52 * 2 ^ (k + 1) :=
        Nat.mul_le_mul_left _ (Nat.pow_le_pow_right (by decide) (by omega))
      rw [hk, Nat.pow_add, Nat.mul_comm, ← Nat.mul_assoc]
      omega
  · rw [Exact.ofFloat, hx]
    rfl

end DataOutline.Decimal
