import DataOutline.Proofs.Decimal.Digits
import DataOutline.Proofs.Decimal.Order
import DataOutline.Value.Display

/-!
# Whole numbers as indices

The text of a whole number that is not negative is a row of digits. Below `2 ^ 53` the digits are
those of the number, since no other natural number rounds to the same float; above, they are those
of some natural number that rounds to it, which has no fewer than 53 bits either. So the place that
the text names in a sequence of at most `2 ^ 53` items is the number itself.
-/

namespace DataOutline.Decimal

open Text (digitsValue isDigit)

/-! ## Decimals without a fraction -/

theorem positionalText_of_nonneg {d : Scaled} (whole : 0 ≤ d.exponent) :
    positionalText false d =
      Nat.toDigits 10 d.digits ++ List.replicate d.exponent.toNat '0' := by
  rw [positionalText, if_pos whole, if_neg Bool.false_ne_true, List.append_nil]

theorem digitsValue_positionalText {d : Scaled} (whole : 0 ≤ d.exponent) :
    digitsValue (positionalText false d) = d.digits * 10 ^ d.exponent.toNat := by
  rw [positionalText_of_nonneg whole, digitsValue_eq_ofDigitChars, Nat.ofDigitChars_append,
    Nat.ofDigitChars_replicate_zero, Nat.ofDigitChars_toDigits (by decide) (by decide),
    Nat.mul_comm]

/-- Zeros at the end of the digits count in the exponent. -/
theorem Scaled.strip_whole (fuel : Nat) {d : Scaled} (whole : 0 ≤ d.exponent) :
    0 ≤ (d.strip fuel).exponent ∧
      (d.strip fuel).digits * 10 ^ (d.strip fuel).exponent.toNat =
        d.digits * 10 ^ d.exponent.toNat := by
  induction fuel generalizing d with
  | zero => exact ⟨whole, rfl⟩
  | succ fuel ih =>
    rw [strip]
    split
    · next h =>
      have hten : d.digits / 10 * 10 = d.digits := Nat.div_mul_cancel (Nat.dvd_of_mod_eq_zero h.2)
      obtain ⟨hnonneg, hvalue⟩ := ih (d := ⟨d.digits / 10, d.exponent + 1⟩) (by positivity)
      refine ⟨hnonneg, hvalue.trans ?_⟩
      rw [show (d.exponent + 1).toNat = d.exponent.toNat + 1 by omega, Nat.pow_succ',
        ← Nat.mul_assoc, hten]
    · exact ⟨whole, rfl⟩

/-! ## Decimals that round to a whole number -/

section Rounding

variable {m i : Nat} {e : Int}

/-- A decimal without a fraction that reads back lies no farther from the number than halfway to its
neighbours. All is counted in quarters of the unit of the mantissa. -/
theorem bounds_of_readsBack {d : Scaled} (whole : 0 ≤ d.exponent) (h : readsBack m e d = true) :
    (if m = 2 ^ 52 ∧ e ≠ -1074 then 4 * m - 1 else 4 * m - 2) * 2 ^ (e - 2).toNat ≤
        d.digits * 10 ^ d.exponent.toNat * 2 ^ (2 - e).toNat ∧
      d.digits * 10 ^ d.exponent.toNat * 2 ^ (2 - e).toNat ≤ (4 * m + 2) * 2 ^ (e - 2).toNat := by
  have hcompare : ∀ n, compareScaled d.digits d.exponent n (e - 2) =
      compare (d.digits * 10 ^ d.exponent.toNat * 2 ^ (2 - e).toNat) (n * 2 ^ (e - 2).toNat) := by
    intro n
    rw [compareScaled, show -(e - 2) = 2 - e by ring, show (-d.exponent).toNat = 0 by omega]
    simp only [Nat.pow_eq, Nat.pow_zero, Nat.mul_one]
  rw [readsBack] at h
  simp only [hcompare, Bool.and_eq_true, Bool.or_eq_true, beq_iff_eq, bne_iff_ne, Nat.pow_eq,
    compare_gt_iff_gt, compare_lt_iff_lt, compare_eq_iff_eq] at h
  obtain ⟨hlow, hhigh⟩ := h
  constructor
  · rcases hlow with hlow | ⟨-, hlow⟩
    · exact hlow.le
    · exact hlow.ge
  · rcases hhigh with hhigh | ⟨-, hhigh⟩
    · exact hhigh.le
    · exact hhigh.le

theorem pos_iff_of_whole {a b : Nat} (whole : m * 2 ^ a = i * 2 ^ b) : 0 < m ↔ 0 < i := by
  rw [← Nat.mul_pos_iff_of_pos_right (Nat.two_pow_pos a), whole,
    Nat.mul_pos_iff_of_pos_right (Nat.two_pow_pos b)]

/-- A whole number in quarters of the unit of its mantissa. -/
theorem whole_quarters (whole : m * 2 ^ e.toNat = i * 2 ^ (-e).toNat) :
    4 * m * 2 ^ (e - 2).toNat = i * 2 ^ (2 - e).toNat := by
  rcases lt_or_ge e 2 with h | h
  · have hfour : 2 ^ e.toNat * 2 ^ (2 - e.toNat) = 4 := by
      rw [← Nat.pow_add, show e.toNat + (2 - e.toNat) = 2 by omega]
    rw [show (e - 2).toNat = 0 by omega, Nat.pow_zero, Nat.mul_one, Nat.mul_comm, ← hfour,
      ← Nat.mul_assoc, whole, Nat.mul_assoc, ← Nat.pow_add]
    congr 2
    omega
  · have hquarters : 4 * m * 2 ^ (e - 2).toNat = m * 2 ^ e.toNat := by
      rw [show e.toNat = (e - 2).toNat + 2 by omega, Nat.pow_add]
      ring
    rw [hquarters, whole]
    congr 2
    omega

theorem readsBack_whole (pos : 0 < m) (whole : m * 2 ^ e.toNat = i * 2 ^ (-e).toNat) :
    readsBack m e ⟨i, 0⟩ = true := by
  have hcompare : ∀ n, compareScaled i 0 n (e - 2) =
      compare (4 * m * 2 ^ (e - 2).toNat) (n * 2 ^ (e - 2).toNat) := by
    intro n
    rw [compareScaled, show -(e - 2) = 2 - e by ring, whole_quarters whole]
    simp
  have hbelow : ∀ n, n < 4 * m → compareScaled i 0 n (e - 2) = .gt := fun n hn ↦ by
    rw [hcompare]
    exact compare_gt_iff_gt.mpr (Nat.mul_lt_mul_of_pos_right hn (Nat.two_pow_pos _))
  have habove : compareScaled i 0 (4 * m + 2) (e - 2) = .lt := by
    rw [hcompare]
    exact compare_lt_iff_lt.mpr (Nat.mul_lt_mul_of_pos_right (by omega) (Nat.two_pow_pos _))
  have hlow : ∀ narrow : Bool, (if narrow then 4 * m - 1 else 4 * m - 2) < 4 * m := by
    intro narrow
    split <;> omega
  rw [readsBack]
  simp only [hbelow _ (hlow _), habove]
  rfl

theorem readsBack_of_onGrid {tie : Tie} {grid : Int} {d : Scaled}
    (h : onGrid tie m e grid = some d) : d.exponent = grid ∧ readsBack m e d = true := by
  rw [onGrid] at h
  generalize neighbours m e grid = candidates at h
  obtain ⟨below, above, middle⟩ := candidates
  simp only at h
  split at h
  · next hbelow habove =>
    have heither : ∀ upper : Bool,
        readsBack m e ⟨if upper then above else below, grid⟩ = true := fun upper ↦ by
      cases upper
      · exact (Bool.and_eq_true_iff.mp hbelow).2
      · exact (Bool.and_eq_true_iff.mp habove).2
    cases h
    exact ⟨rfl, heither _⟩
  · next hbelow _ =>
    cases h
    exact ⟨rfl, (Bool.and_eq_true_iff.mp hbelow).2⟩
  · next _ habove =>
    cases h
    exact ⟨rfl, (Bool.and_eq_true_iff.mp habove).2⟩
  · cases h

section Whole

variable (pos : 0 < i) (whole : m * 2 ^ e.toNat = i * 2 ^ (-e).toNat)
include pos whole

omit pos in
theorem fraction_whole : (fraction m e).1 = i * (fraction m e).2 := whole

/-- On the grid of the whole numbers one decimal at least reads back: the number itself. -/
theorem onGrid_zero_ne_none (tie : Tie) : onGrid tie m e 0 ≠ none := by
  have hbelow : (neighbours m e 0).1 = i := by
    change (fraction m e).1 * 1 / ((fraction m e).2 * 1) = i
    rw [Nat.mul_one, Nat.mul_one, fraction_whole whole]
    exact Nat.mul_div_cancel i (fraction_snd_pos m e)
  have hfits : (i != 0 && readsBack m e ⟨i, 0⟩) = true := by
    rw [readsBack_whole ((pos_iff_of_whole whole).mpr pos) whole, Bool.and_true, bne_iff_ne]
    exact pos.ne'
  rw [onGrid]
  generalize neighbours m e 0 = candidates at hbelow
  obtain ⟨below, above, middle⟩ := candidates
  cases hbelow
  simp only [hfits]
  cases above != 0 && readsBack m e ⟨above, 0⟩ <;> exact Option.some_ne_none _

theorem scale_whole : scale m e = digitCount i := by
  have hle : (fraction m e).2 ≤ (fraction m e).1 := by
    rw [fraction_whole whole]
    exact Nat.le_mul_of_pos_left _ pos
  have hdiv : (fraction m e).1 / (fraction m e).2 = i := by
    rw [fraction_whole whole, Nat.mul_div_cancel _ (fraction_snd_pos m e)]
  change (if (fraction m e).2 ≤ (fraction m e).1 then
    (digitCount ((fraction m e).1 / (fraction m e).2) : Int) else _) = _
  rw [if_pos hle, hdiv]

/-- The shortest decimal of a whole number has no fraction: the grids are tried from the coarsest
on, and that of the whole numbers is among them, unless all of them are coarser. -/
theorem shortest_whole (tie : Tie) (bits : e < 0 → i < 10 ^ 17) :
    ∃ d fuel, 0 ≤ d.exponent ∧ readsBack m e d = true ∧ shortest tie m e = d.strip fuel := by
  have hcount : 0 < digitCount i := Nat.length_toDigits_pos
  -- The place of the grid of the whole numbers in the search.
  have hzero : digitCount i ≤ 17 → digitCount i - 1 ∈ List.range 17 ∧
      onGrid tie m e (digitCount i - (((digitCount i - 1 : Nat) : Int) + 1)) ≠ none := by
    intro h
    refine ⟨List.mem_range.mpr (by omega), ?_⟩
    rw [show (digitCount i : Int) - (((digitCount i - 1 : Nat) : Int) + 1) = 0 by omega]
    exact onGrid_zero_ne_none pos whole tie
  cases hfound : (List.range 17).findSome? fun n : Nat ↦
      onGrid tie m e (scale m e - ((n : Int) + 1)) with
  | some d =>
    have hshortest : shortest tie m e = d.strip 20 := by
      rw [shortest]
      simp only [hfound]
    rw [scale_whole pos whole] at hfound
    obtain ⟨before, n, after, hrange, hgrid, hnone⟩ := List.findSome?_eq_some_iff.mp hfound
    obtain ⟨hexponent, hreads⟩ := readsBack_of_onGrid hgrid
    refine ⟨d, 20, ?_, hreads, hshortest⟩
    have hn : n < 17 := List.mem_range.mp (hrange ▸ List.mem_append_right _ List.mem_cons_self)
    by_contra hfraction
    obtain ⟨hmem, hsome⟩ := hzero (by omega)
    have hsorted : (before ++ n :: after).Pairwise (· < ·) := hrange ▸ List.pairwise_lt_range
    rw [hrange, List.mem_append, List.mem_cons] at hmem
    rcases hmem with hbefore | hn' | hafter
    · exact hsome (hnone _ hbefore)
    · omega
    · have hlater := (List.pairwise_cons.mp (List.pairwise_append.mp hsorted).2.1).1 _ hafter
      omega
  | none =>
    have hnone := List.findSome?_eq_none_iff.mp hfound
    have hnonneg : 0 ≤ e := by
      by_contra hneg
      have hlt : digitCount i ≤ 17 :=
        (Nat.length_toDigits_le_iff (by decide) (by decide)).mpr (bits (by omega))
      rw [scale_whole pos whole] at hnone
      exact (hzero hlt).2 (hnone _ (hzero hlt).1)
    have hpower : (-e).toNat = 0 := by omega
    have hmantissa : m * Nat.pow 2 e.toNat * Nat.pow 5 (-e).toNat = i := by
      rw [hpower] at whole ⊢
      rw [Nat.pow_eq, whole, Nat.pow_zero, Nat.pow_eq, Nat.pow_zero, Nat.mul_one, Nat.mul_one]
    refine ⟨⟨i, 0⟩, 0, le_rfl, readsBack_whole ((pos_iff_of_whole whole).mpr pos) whole, ?_⟩
    rw [shortest]
    simp only [hfound, fraction, hmantissa, min_eq_right hnonneg]
    rfl

end Whole

/-- With all its bits in the mantissa a whole number is the only one that reads back. -/
theorem eq_of_readsBack {d : Scaled} (nonneg : 0 ≤ d.exponent) (pos : 0 < m)
    (h : readsBack m e d = true) (whole : m * 2 ^ e.toNat = i * 2 ^ (-e).toNat) (small : e ≤ 0) :
    d.digits * 10 ^ d.exponent.toNat = i := by
  obtain ⟨hlow, hhigh⟩ := bounds_of_readsBack nonneg h
  have hquarters := whole_quarters whole
  rw [show (e - 2).toNat = 0 by omega, Nat.pow_zero, Nat.mul_one] at hlow hhigh hquarters
  have hleast : 4 * m - 2 ≤ d.digits * 10 ^ d.exponent.toNat * 2 ^ (2 - e).toNat := by
    split at hlow <;> omega
  have hunit : 2 ^ 2 ≤ 2 ^ (2 - e).toNat := Nat.pow_le_pow_right (by decide) (by omega)
  generalize d.digits * 10 ^ d.exponent.toNat = n at hleast hhigh ⊢
  generalize 2 ^ (2 - e).toNat = unit at hleast hhigh hquarters hunit
  rcases lt_trichotomy n i with hlt | heq | hgt
  · have hmore : (n + 1) * unit ≤ i * unit := Nat.mul_le_mul_right unit hlt
    rw [Nat.add_mul] at hmore
    omega
  · exact heq
  · have hmore : (i + 1) * unit ≤ n * unit := Nat.mul_le_mul_right unit hgt
    rw [Nat.add_mul] at hmore
    omega

/-- Beyond the mantissa no smaller number reads back than `2 ^ 53`. -/
theorem le_of_readsBack {d : Scaled} (nonneg : 0 ≤ d.exponent) (h : readsBack m e d = true)
    (normal : 2 ^ 52 ≤ m) (large : 0 < e) : 2 ^ 53 ≤ d.digits * 10 ^ d.exponent.toNat := by
  obtain ⟨hlow, -⟩ := bounds_of_readsBack nonneg h
  generalize d.digits * 10 ^ d.exponent.toNat = n at hlow ⊢
  by_cases hone : e = 1
  · subst hone
    have hunits : ((1 : Int) - 2).toNat = 0 ∧ ((2 : Int) - 1).toNat = 1 := ⟨rfl, rfl⟩
    rw [hunits.1, hunits.2] at hlow
    split at hlow <;> omega
  · have hmore : (4 * m - 2) * 2 ^ 0 ≤ (4 * m - 2) * 2 ^ (e - 2).toNat :=
      Nat.mul_le_mul_left _ (Nat.pow_le_pow_right (by decide) (Nat.zero_le _))
    have hleast : (4 * m - 2) * 2 ^ (e - 2).toNat ≤ n * 2 ^ (2 - e).toNat := by
      refine Nat.le_trans (Nat.mul_le_mul_right _ ?_) hlow
      split <;> omega
    rw [show (2 - e).toNat = 0 by omega] at hleast
    omega

end Rounding

/-! ## The text of a whole number -/

/-- Digits of a natural number, or of some other one if both have more than 53 bits. -/
structure Writes (cs : List Char) (n : Nat) : Prop where
  digits : IsDigits cs
  value : digitsValue cs = n ∨ 2 ^ 53 ≤ digitsValue cs ∧ 2 ^ 53 ≤ n

theorem writes_repr (n : Nat) : Writes n.repr.toList n := by
  rw [Nat.toList_repr]
  exact ⟨isDigits_toDigits n, Or.inl (digitsValue_toDigits n)⟩

/-- What a float stores of a positive whole number is written in digits. -/
theorem writes_magnitude {x : Float} {s : Float.Model.UnpackedFloat.Sign} {m n : Nat} {e : Int}
    {pos : 0 < m} (hx : x.toModel.unpack = .finite s m e pos)
    (whole : m * 2 ^ e.toNat = n * 2 ^ (-e).toNat) : Writes (plain.magnitude m e) n := by
  have hn : 0 < n := (pos_iff_of_whole whole).mp pos
  have hm : m < 2 ^ 53 := mantissa_lt_of_unpack hx
  have hle : e ≤ 0 → n ≤ m := by
    intro h
    rw [show e.toNat = 0 by omega, Nat.pow_zero, Nat.mul_one] at whole
    rw [whole]
    exact Nat.le_mul_of_pos_right n (Nat.two_pow_pos _)
  obtain ⟨d, fuel, hnonneg, hreads, hshortest⟩ :=
    shortest_whole hn whole .up fun h ↦ (hle h.le).trans_lt (hm.trans (by decide))
  obtain ⟨hstripped, hvalue⟩ := d.strip_whole fuel hnonneg
  have htext : plain.magnitude m e = positionalText false (d.strip fuel) := by
    rw [Style.magnitude, if_neg pos.ne', ← hshortest]
    rfl
  refine ⟨?_, ?_⟩
  · rw [htext, positionalText_of_nonneg hstripped]
    exact (isDigits_toDigits _).append isDigit_of_mem_replicate
  · rw [htext, digitsValue_positionalText hstripped, hvalue]
    rcases le_or_gt e 0 with hsmall | hlarge
    · exact Or.inl (eq_of_readsBack hnonneg pos hreads whole hsmall)
    · have hnormal : IsNormal m e := by
        refine (mantissa_of_unpack hx).resolve_right ?_
        rintro ⟨-, rfl⟩
        exact absurd hlarge (by decide)
      refine Or.inr ⟨le_of_readsBack hnonneg hreads hnormal.le_mantissa hlarge, ?_⟩
      rw [show (-e).toNat = 0 by omega, Nat.pow_zero, Nat.mul_one] at whole
      rw [← whole]
      exact Nat.mul_le_mul hnormal.le_mantissa (Nat.pow_le_pow_right (by decide) (by omega) :
        2 ^ 1 ≤ 2 ^ e.toNat)

theorem writes_numberText {x : Float} {n : Nat}
    (h : (Exact.ofFloat x).integer? = some (n : Int)) : Writes (Value.numberText x).toList n := by
  rw [Value.numberText]
  cases hwhole : Value.wholeNumber? x with
  | some i =>
    rw [Value.wholeNumber?, h, Option.filter_eq_some_iff] at hwhole
    cases hwhole.1
    exact writes_repr n
  | none =>
    -- The number is beyond those that are written as integers, so it is not zero.
    have hlarge : 0 < n := by
      refine Nat.pos_of_ne_zero ?_
      rintro rfl
      rw [Value.wholeNumber?, h] at hwhole
      cases hwhole
    rw [Exact.ofFloat] at h
    cases hx : x.toModel.unpack with
    | notANumber | infinity =>
      rw [hx] at h
      cases h
    | zero s =>
      rw [hx] at h
      cases s <;> cases h <;> exact absurd hlarge (Nat.lt_irrefl 0)
    | finite s m e pos =>
      rw [hx] at h
      obtain ⟨k, hk, hsigned⟩ := integer?_finite_eq_some.mp h
      have hkn : k = n := by rw [← natAbs_signed (isNegative s) k, hsigned, Int.natAbs_natCast]
      subst hkn
      have hsign : isNegative s = false := by
        rw [← decide_signed_lt_zero (isNegative s) hlarge, hsigned]
        exact decide_eq_false (Int.natCast_nonneg k).not_gt
      have htext : (plain.text x).toList = plain.magnitude m e := by
        rw [Style.text, Exact.ofFloat, hx]
        simp only [hsign]
        exact String.toList_ofList
      have hfinite : Exact.ofFloat x = .finite (isNegative s) m e := by rw [Exact.ofFloat, hx]
      simp only [hfinite, htext]
      exact writes_magnitude hx hk

/-! ## Places in a sequence -/

/-- **A whole number names its own place** in every sequence of at most `2 ^ 53` items. -/
theorem getElem?_numberText {α : Type} {x : Float} {n : Nat}
    (h : (Exact.ofFloat x).integer? = some (n : Int)) {items : List α}
    (fits : items.length ≤ 2 ^ 53) :
    (index? (Value.numberText x).toList).bind (items[·]?) = items[n]? := by
  obtain ⟨hdigits, hvalue⟩ := writes_numberText h
  rw [hdigits.index?_eq]
  generalize digitsValue (Value.numberText x).toList = k at hvalue
  -- A place that is not named for lack of bits is not there either.
  have hsame : items[k]? = items[n]? := by
    rcases hvalue with rfl | ⟨hk, hn⟩
    · rfl
    · rw [List.getElem?_eq_none (fits.trans hk), List.getElem?_eq_none (fits.trans hn)]
  split
  · exact hsame
  · next hbound =>
    rw [← hsame, Option.bind_none, eq_comm]
    refine List.getElem?_eq_none (fits.trans (Nat.le_trans ?_ (Nat.not_lt.mp hbound)))
    exact (by decide : 2 ^ 53 ≤ indexBound)

end DataOutline.Decimal
