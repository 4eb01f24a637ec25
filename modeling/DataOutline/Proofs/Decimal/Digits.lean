import DataOutline.Decimal.Reading
import DataOutline.Proofs.Decimal.Numeral

/-!
# Digits as numbers and indices

Digits stand for a number, which is an index if it is below `2 ^ 64`. The digits of a number are
read as the number; the other way round, the number that was read from digits has the same digits,
except that zeros in front of them are lost.
-/

namespace DataOutline.Decimal

open Text (digitsValue isDigit)

/-! ## The number that digits stand for -/

theorem digitsValue_eq_ofDigitChars (cs : List Char) : digitsValue cs = Nat.ofDigitChars 10 cs 0 :=
  Nat.ofDigitChars_eq_foldl.symm

theorem digitsValue_toDigits (n : Nat) : digitsValue (Nat.toDigits 10 n) = n := by
  rw [digitsValue_eq_ofDigitChars, Nat.ofDigitChars_toDigits (by decide) (by decide)]

/-! ## Leading zeros -/

/-- Digits without the zeros in front of them. If they are all zeros, one is left. -/
def unpadded (cs : List Char) : List Char :=
  match cs.dropWhile (· == '0') with
  | [] => ['0']
  | ds => ds

theorem exists_digitChar_of_isDigit {c : Char} (h : isDigit c = true) :
    ∃ d < 10, Nat.digitChar d = c := by
  obtain ⟨hlow, hhigh⟩ : 48 ≤ c.toNat ∧ c.toNat ≤ 57 := Char.isDigit_iff_toNat.mp h
  refine ⟨c.toNat - 48, by omega, Char.toNat_inj.mp ?_⟩
  rw [Nat.toNat_digitChar_of_lt_ten (by omega)]
  omega

/-- Digits that follow those of a number that is not zero are set out behind them. -/
theorem toDigits_ofDigitChars {n : Nat} (pos : 0 < n) {cs : List Char}
    (h : ∀ c ∈ cs, isDigit c = true) :
    Nat.toDigits 10 (Nat.ofDigitChars 10 cs n) = Nat.toDigits 10 n ++ cs := by
  induction cs generalizing n with
  | nil => rw [Nat.ofDigitChars_nil, List.append_nil]
  | cons c cs ih =>
    obtain ⟨hc, hcs⟩ := List.forall_mem_cons.mp h
    obtain ⟨d, hd, rfl⟩ := exists_digitChar_of_isDigit hc
    rw [Nat.ofDigitChars_cons_digitChar_of_lt_ten hd, ih (by omega) hcs,
      ← Nat.toDigits_append_toDigits (by decide) pos hd, Nat.toDigits_of_lt_base hd,
      List.append_assoc, List.singleton_append]

theorem toDigits_digitsValue {cs : List Char} (h : ∀ c ∈ cs, isDigit c = true) :
    Nat.toDigits 10 (digitsValue cs) = unpadded cs := by
  induction cs with
  | nil => rfl
  | cons c cs ih =>
    obtain ⟨hc, hcs⟩ := List.forall_mem_cons.mp h
    by_cases hzero : c = '0'
    · subst hzero
      exact ih hcs
    · obtain ⟨d, hd, rfl⟩ := exists_digitChar_of_isDigit hc
      have hpos : 0 < d := Nat.pos_of_ne_zero fun h ↦ hzero (Nat.digitChar_eq_zero.mpr h)
      have hstop : (d.digitChar :: cs).dropWhile (· == '0') = d.digitChar :: cs :=
        List.dropWhile_cons_of_neg (by simpa using hzero)
      rw [digitsValue_eq_ofDigitChars, Nat.ofDigitChars_cons_digitChar_of_lt_ten hd, Nat.mul_zero,
        Nat.zero_add, toDigits_ofDigitChars hpos hcs, Nat.toDigits_of_lt_base hd, unpadded, hstop,
        List.singleton_append]

/-- The digits of a number do not begin with a zero, but for those of zero. -/
theorem toDigits_eq_zero_or (n : Nat) : Nat.toDigits 10 n = ['0'] ∨
    ∃ c cs, Nat.toDigits 10 n = c :: cs ∧ c ≠ '0' := by
  have hsame := toDigits_digitsValue (isDigits_toDigits n).digits
  rw [digitsValue_toDigits, unpadded] at hsame
  split at hsame
  · exact Or.inl hsame
  · next hfilled =>
    obtain ⟨c, cs, hcs⟩ := List.exists_cons_of_ne_nil hfilled
    have hc := List.head?_dropWhile_not (· == '0') (Nat.toDigits 10 n)
    rw [hcs] at hc
    rw [hcs] at hsame
    exact Or.inr ⟨c, cs, hsame, by simpa using hc⟩

/-! ## Indices -/

theorem IsDigits.digitsIndex?_eq {cs : List Char} (h : IsDigits cs) :
    digitsIndex? cs = if digitsValue cs < indexBound then some (digitsValue cs) else none := by
  rw [digitsIndex?, isDigits_iff.mpr h, Bool.true_and]
  by_cases hbound : digitsValue cs < indexBound <;> simp [hbound]

theorem IsDigits.index?_eq {cs : List Char} (h : IsDigits cs) :
    index? cs = if digitsValue cs < indexBound then some (digitsValue cs) else none := by
  obtain ⟨c, more, rfl⟩ := List.exists_cons_of_ne_nil h.nonempty
  have hdigit := h.digits c List.mem_cons_self
  rw [index?, h.digitsIndex?_eq]
  rintro digits heq
  cases heq
  exact nomatch hdigit

theorem digitsIndex?_eq_some_iff {cs : List Char} {i : Nat} :
    digitsIndex? cs = some i ↔ IsDigits cs ∧ digitsValue cs = i ∧ i < indexBound := by
  constructor
  · intro h
    have hdigits : IsDigits cs := by
      rw [digitsIndex?] at h
      split at h
      · next hcs => exact isDigits_iff.mp (Bool.and_eq_true_iff.mp hcs).1
      · cases h
    rw [hdigits.digitsIndex?_eq] at h
    split at h
    · next hbound =>
      cases h
      exact ⟨hdigits, rfl, hbound⟩
    · cases h
  · rintro ⟨hdigits, rfl, hbound⟩
    rw [hdigits.digitsIndex?_eq, if_pos hbound]

theorem digitsIndex?_toDigits {i : Nat} (h : i < indexBound) :
    digitsIndex? (Nat.toDigits 10 i) = some i :=
  digitsIndex?_eq_some_iff.mpr ⟨isDigits_toDigits i, digitsValue_toDigits i, h⟩

end DataOutline.Decimal
