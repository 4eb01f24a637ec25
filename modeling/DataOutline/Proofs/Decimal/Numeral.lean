import DataOutline.Decimal.Notation
import DataOutline.Text.Letter

/-!
# The shape of numbers as text

However the digits of a number are set out, the text of a positive or zero value is a numeral:
digits, perhaps with a point and digits behind it, perhaps with an exponent behind that. Nothing is
said here about which digits these are.
-/

namespace DataOutline.Decimal

open Text

structure IsDigits (cs : List Char) : Prop where
  nonempty : cs ≠ []
  digits : ∀ c ∈ cs, isDigit c = true

theorem isDigits_iff {cs : List Char} : (!cs.isEmpty && cs.all isDigit) = true ↔ IsDigits cs := by
  rw [Bool.and_eq_true, Bool.not_eq_true', List.isEmpty_eq_false_iff, List.all_eq_true]
  exact ⟨fun h ↦ ⟨h.1, h.2⟩, fun h ↦ ⟨h.1, h.2⟩⟩

instance IsDigits.decidable (cs : List Char) : Decidable (IsDigits cs) :=
  decidable_of_iff _ isDigits_iff

/-- Digits behind a point, or nothing. -/
inductive IsFraction : List Char → Prop
  | none : IsFraction []
  | point {ds : List Char} (digits : IsDigits ds) : IsFraction ('.' :: ds)

/-- Digits behind the letter of an exponent and a sign, or nothing. -/
inductive IsPower : List Char → Prop
  | none : IsPower []
  | signed {sign : Char} {ds : List Char} (isSign : sign = '+' ∨ sign = '-')
      (digits : IsDigits ds) : IsPower ('e' :: sign :: ds)

/-- Digits with or without a fraction and an exponent. -/
inductive IsNumeral : List Char → Prop
  | mk {whole fractional power : List Char} (first : IsDigits whole)
      (second : IsFraction fractional) (third : IsPower power) :
      IsNumeral (whole ++ (fractional ++ power))

theorem IsDigits.isNumeral {cs : List Char} (h : IsDigits cs) : IsNumeral cs := by
  have hnumeral := IsNumeral.mk h .none .none
  rwa [List.append_nil, List.append_nil] at hnumeral

theorem IsDigits.append {cs ds : List Char} (h : IsDigits cs) (h' : ∀ c ∈ ds, isDigit c = true) :
    IsDigits (cs ++ ds) :=
  ⟨List.append_ne_nil_of_left_ne_nil h.nonempty ds, List.forall_mem_append.mpr ⟨h.digits, h'⟩⟩

theorem isDigits_toDigits (n : Nat) : IsDigits (Nat.toDigits 10 n) :=
  ⟨Nat.toDigits_ne_nil, fun _ hc ↦ Nat.isDigit_of_mem_toDigits (by decide) (by decide) hc⟩

theorem isDigit_of_mem_replicate {n : Nat} : ∀ c ∈ List.replicate n '0', isDigit c = true := by
  intro c hc
  rw [List.eq_of_mem_replicate hc]
  rfl

theorem IsNumeral.digit_or_mem {cs : List Char} (h : IsNumeral cs) :
    ∀ c ∈ cs, isDigit c = true ∨ c ∈ ['.', 'e', '+', '-'] := by
  obtain ⟨first, second, third⟩ := h
  refine List.forall_mem_append.mpr ⟨fun c hc ↦ Or.inl (first.digits c hc), ?_⟩
  refine List.forall_mem_append.mpr ⟨?_, ?_⟩
  · cases second with
    | none => exact nofun
    | point digits =>
      exact List.forall_mem_cons.mpr ⟨Or.inr (by decide), fun c hc ↦ Or.inl (digits.digits c hc)⟩
  · cases third with
    | none => exact nofun
    | signed isSign digits =>
      refine List.forall_mem_cons.mpr ⟨Or.inr (by decide), List.forall_mem_cons.mpr ⟨?_, ?_⟩⟩
      · rcases isSign with rfl | rfl <;> exact Or.inr (by decide)
      · exact fun c hc ↦ Or.inl (digits.digits c hc)

/-! ## The two notations -/

theorem isNumeral_positionalText (pointZero : Bool) (d : Scaled) :
    IsNumeral (positionalText pointZero d) := by
  have hdigits := isDigits_toDigits d.digits
  rw [positionalText]
  split
  · have hwhole := hdigits.append (isDigit_of_mem_replicate (n := d.exponent.toNat))
    cases pointZero with
    | false =>
      rw [if_neg nofun, List.append_nil]
      exact hwhole.isNumeral
    | true =>
      have hzero : IsFraction ['.', '0'] := .point ⟨List.cons_ne_nil _ _, List.all_eq_true.mp rfl⟩
      exact .mk hwhole hzero .none
  · have hsome : 0 < (-d.exponent).toNat := by omega
    simp only
    generalize (-d.exponent).toNat = places at hsome
    generalize hpadded : List.replicate (places + 1 - (Nat.toDigits 10 d.digits).length) '0' ++
      Nat.toDigits 10 d.digits = padded
    have hall : ∀ c ∈ padded, isDigit c = true := by
      rw [← hpadded]
      exact List.forall_mem_append.mpr ⟨isDigit_of_mem_replicate, hdigits.digits⟩
    -- The zeros in front make room for one digit more than there are places.
    have hlength : places < padded.length := by
      rw [← hpadded, List.length_append, List.length_replicate]
      omega
    have hwhole : IsDigits (padded.take (padded.length - places)) := by
      refine ⟨fun hnil ↦ ?_, fun c hc ↦ hall c (List.mem_of_mem_take hc)⟩
      rw [List.take_eq_nil_iff, ← List.length_eq_zero_iff] at hnil
      omega
    have hfraction : IsDigits (padded.drop (padded.length - places)) := by
      refine ⟨fun hnil ↦ ?_, fun c hc ↦ hall c (List.mem_of_mem_drop hc)⟩
      rw [List.drop_eq_nil_iff] at hnil
      omega
    have hnumeral := IsNumeral.mk hwhole (.point hfraction) .none
    rwa [List.append_nil] at hnumeral

theorem isNumeral_exponentText (d : Scaled) : IsNumeral (exponentText d) := by
  have hdigits := isDigits_toDigits d.digits
  obtain ⟨first, others, hcons⟩ := List.exists_cons_of_ne_nil hdigits.nonempty
  rw [hcons] at hdigits
  obtain ⟨hfirst, hothers⟩ := List.forall_mem_cons.mp hdigits.digits
  rw [exponentText, hcons]
  have hwhole : IsDigits [first] :=
    ⟨List.cons_ne_nil _ _, List.forall_mem_singleton.mpr hfirst⟩
  generalize d.exponent + (first :: others).length - 1 = e
  have hpower : IsPower ('e' :: (if e < 0 then '-' else '+') :: Nat.toDigits 10 e.natAbs) := by
    refine .signed ?_ (isDigits_toDigits _)
    split
    · exact Or.inr rfl
    · exact Or.inl rfl
  rcases others with _ | ⟨second, others⟩
  · exact .mk hwhole .none hpower
  · exact .mk hwhole (.point ⟨List.cons_ne_nil _ _, hothers⟩) hpower

/-- **The text of a positive or zero value is a numeral.** -/
theorem Style.isNumeral_magnitude (style : Style) (mantissa : Nat) (exponent : Int) :
    IsNumeral (style.magnitude mantissa exponent) := by
  rw [magnitude]
  generalize (if mantissa = 0 then (⟨0, 0⟩ : Scaled) else _) = d
  split
  · exact isNumeral_positionalText _ _
  · exact isNumeral_exponentText _

theorem exists_exact_of_isFinite {x : Float} (h : x.isFinite = true) :
    ∃ negative mantissa exponent, Exact.ofFloat x = .finite negative mantissa exponent := by
  change x.toModel.unpack.isFinite = true at h
  rw [Exact.ofFloat]
  cases hunpack : x.toModel.unpack with
  | notANumber | infinity =>
    rw [hunpack] at h
    exact nomatch h
  | zero | finite => exact ⟨_, _, _, rfl⟩

end DataOutline.Decimal
