import Mathlib.Data.List.TakeWhile
import DataOutline.Decimal.Reading
import DataOutline.Json.Printer
import DataOutline.Proofs.Decimal.Numeral
import DataOutline.Proofs.Expression.Tokens
import DataOutline.Value.Display

/-!
# Numbers between JSON and expressions

JSON writes a finite number as a numeral, with a minus sign in front of it or not. Of an expression
text a numeral is one token, to its end: digits, a fraction and an exponent are taken in as far as
they go. So what JSON writes for a number is a number token, or a minus sign and a number token, and
what the token stands for is what the reader of numbers makes of the text.
-/

namespace DataOutline

open Expression Text

/-! ## Numerals as tokens -/

section Digits

variable {cs rest : List Char} (digits : ∀ c ∈ cs, isDigit c = true)
  (stop : ∀ c ∈ rest.head?, isDigit c = false)
include digits stop

theorem takeWhile_digits : (cs ++ rest).takeWhile isDigit = cs := by
  rw [List.takeWhile_append_of_pos digits]
  rcases rest with _ | ⟨c, rest⟩
  · exact List.append_nil cs
  · rw [List.takeWhile_cons, stop c rfl]
    exact List.append_nil cs

theorem dropWhile_digits : (cs ++ rest).dropWhile isDigit = rest := by
  rw [List.dropWhile_append_of_pos digits]
  rcases rest with _ | ⟨c, rest⟩
  · rfl
  · rw [List.dropWhile_cons, stop c rfl]
    rfl

end Digits

namespace Decimal

/-- A fraction and an exponent begin with a point, with a letter, or not at all. -/
theorem IsPower.head?_not_digit {power : List Char} (h : IsPower power) :
    ∀ c ∈ power.head?, isDigit c = false ∧ c ≠ '.' := by
  cases h with
  | none => exact nofun
  | signed =>
    rintro _ ⟨⟩
    exact ⟨rfl, by decide⟩

theorem IsFraction.head?_not_digit {fractional power : List Char} (h : IsFraction fractional)
    (h' : IsPower power) : ∀ c ∈ (fractional ++ power).head?, isDigit c = false := by
  cases h with
  | none => exact fun c hc ↦ (h'.head?_not_digit c hc).1
  | point =>
    rintro _ ⟨⟩
    rfl

theorem IsFraction.fractionPart {fractional power : List Char} (h : IsFraction fractional)
    (h' : IsPower power) : fractionPart (fractional ++ power) = (fractional, power) := by
  cases h with
  | none => exact fractionPart_of_head? fun hpoint ↦ (h'.head?_not_digit _ hpoint).2 rfl
  | @point ds digits =>
    obtain ⟨d, ds, rfl⟩ := List.exists_cons_of_ne_nil digits.nonempty
    obtain ⟨hd, hds⟩ := List.forall_mem_cons.mp digits.digits
    have hstop := fun c hc ↦ (h'.head?_not_digit c hc).1
    rw [List.cons_append, List.cons_append, fractionPart_point, if_pos hd,
      takeWhile_digits hds hstop, dropWhile_digits hds hstop]

theorem IsPower.exponentPart {power : List Char} (h : IsPower power) :
    exponentPart power = (power, []) := by
  cases h with
  | none => rfl
  | @signed sign ds isSign digits =>
    have hsign : exponentSign (sign :: ds) = ([sign], ds) := by
      rcases isSign with rfl | rfl <;> rfl
    have htake : ds.takeWhile isDigit = ds := List.takeWhile_eq_self_iff.mpr digits.digits
    have hdrop : ds.dropWhile isDigit = [] := List.dropWhile_eq_nil_iff.mpr digits.digits
    have hsome : ds.isEmpty = false := List.isEmpty_eq_false_iff.mpr digits.nonempty
    rw [exponentPart_cons, if_pos (Or.inl rfl), hsign]
    simp only [htake, hdrop, hsome]
    rfl

theorem IsNumeral.numberPart {cs : List Char} (h : IsNumeral cs) : numberPart cs = (cs, []) := by
  obtain ⟨first, second, third⟩ := h
  have hstop := second.head?_not_digit third
  rw [numberPart_eq, takeWhile_digits first.digits hstop, dropWhile_digits first.digits hstop,
    second.fractionPart third, third.exponentPart, List.append_assoc]

theorem IsNumeral.exists_cons {cs : List Char} (h : IsNumeral cs) :
    ∃ c more, cs = c :: more ∧ isDigit c = true := by
  obtain ⟨first, second, third⟩ := h
  obtain ⟨c, more, rfl⟩ := List.exists_cons_of_ne_nil first.nonempty
  exact ⟨c, _, rfl, first.digits c List.mem_cons_self⟩

theorem IsNumeral.tokenize {cs : List Char} {x : Float} (h : IsNumeral cs)
    (reads : unsigned? cs = some x) : tokenize cs = .ok [.number x] := by
  have hpart := h.numberPart
  obtain ⟨c, more, rfl, hdigit⟩ := h.exists_cons
  have hseparator : isSeparator c = false := by
    rw [isSeparator, Bool.or_eq_false_iff, Bool.or_eq_false_iff, Bool.or_eq_false_iff]
    refine ⟨⟨⟨?_, ?_⟩, ?_⟩, ?_⟩
    all_goals
      rw [beq_eq_false_iff_ne]
      rintro rfl
      exact nomatch hdigit
  have hquote : ¬(c = '"' ∨ c = '\'') := by
    rintro (rfl | rfl) <;> exact nomatch hdigit
  rw [tokenize_cons, hseparator, firstToken, if_neg hquote, if_pos hdigit, hpart]
  simp only [reads]
  rfl

end Decimal

/-! ## Numbers as text -/

theorem exists_numeral_integer (i : Int) : ∃ (negative : Bool) (cs : List Char),
    Decimal.IsNumeral cs ∧ (toString i).toList = (if negative then ['-'] else []) ++ cs := by
  have hnumeral : ∀ n : Nat, Decimal.IsNumeral n.repr.toList := by
    intro n
    rw [Nat.toList_repr]
    exact (Decimal.isDigits_toDigits n).isNumeral
  cases i with
  | ofNat n => exact ⟨false, _, hnumeral n, rfl⟩
  | negSucc n =>
    refine ⟨true, _, hnumeral (n + 1), ?_⟩
    rw [Int.toString_eq_repr, Int.repr, String.toList_append]
    rfl

theorem exists_numeral {x : Float} (h : x.isFinite = true) : ∃ (negative : Bool) (cs : List Char),
    Decimal.IsNumeral cs ∧
      (Value.number x).toJson.text = (if negative then ['-'] else []) ++ cs := by
  rw [Value.toJson.eq_def]
  cases hwhole : Value.wholeNumber? x with
  | some i =>
    simp only [hwhole]
    rw [Json.text, Json.scalarText]
    · exact exists_numeral_integer i
    · exact nofun
    · exact nofun
  | none =>
    simp only [hwhole, h, if_true]
    rw [Json.text, Json.scalarText, Decimal.Style.text]
    · obtain ⟨negative, mantissa, exponent, hx⟩ := Decimal.exists_exact_of_isFinite h
      simp only [hx]
      rw [String.toList_ofList]
      exact ⟨negative, _, Decimal.json.isNumeral_magnitude mantissa exponent, rfl⟩
    · exact nofun
    · exact nofun

/-- Of the words that the reader of numbers knows, none begins with a digit. -/
theorem number?_numeral (negative : Bool) {cs : List Char} (h : Decimal.IsNumeral cs) :
    Decimal.number? ((if negative then ['-'] else []) ++ cs) =
      (Decimal.unsigned? cs).map fun x ↦ if negative then -x else x := by
  obtain ⟨c, more, rfl, hdigit⟩ := h.exists_cons
  have hsplit : Decimal.splitSign ((if negative then ['-'] else []) ++ c :: more) =
      (negative, c :: more) := by
    cases negative with
    | true => rfl
    | false =>
      change Decimal.splitSign (c :: more) = _
      rw [Decimal.splitSign.eq_def]
      split
      · next hminus =>
        cases hminus
        exact nomatch hdigit
      · next hplus =>
        cases hplus
        exact nomatch hdigit
      · rfl
  have hlower : c.toLower = c := by
    have hle : c.val ≤ '9'.val := of_decide_eq_true (Bool.and_eq_true_iff.mp hdigit).2
    exact dif_neg fun ⟨hge, _⟩ ↦ absurd (UInt32.le_trans hge hle) (by decide)
  have hword : ∀ word : String, word.toList.head?.any isDigit = false →
      String.ofList ((c :: more).map Char.toLower) ≠ word := by
    rintro word hletter rfl
    rw [String.toList_ofList, List.map_cons, hlower, List.head?_cons, Option.any_some,
      hdigit] at hletter
    exact nomatch hletter
  simp only [Decimal.number?, hsplit, hword "inf" rfl, hword "infinity" rfl, hword "nan" rfl,
    or_self, if_false]

end DataOutline
