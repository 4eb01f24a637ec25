import DataOutline.Json.Printer
import DataOutline.Json.Reader
import DataOutline.Proofs.Decimal.Digits
import DataOutline.Proofs.Expression.Numbers
import DataOutline.Proofs.Result

/-!
# JSON strings and numbers read back

The characters of a string are read one by one from what they are escaped as. A number ends where a
text goes on with a comma or a line break, so what is read of a number alone is also read of it in
front of such a text. The digits of an integer are kept as long as it is below `2 ^ 64`.
-/

namespace DataOutline.Json

open Text (isDigit)

/-! ## Strings -/

theorem hexCode_hexPair {n : Nat} (h : n < 32) (rest : List Char) :
    hexCode ('0' :: '0' :: (hexPair n ++ rest)) = .ok (n, rest) := by
  have hdigits : ∀ n < 32, hexPair n = [Nat.digitChar (n / 16), Nat.digitChar (n % 16)] ∧
      Text.byteSize ('0' :: '0' :: hexPair n) = 4 ∧
      ('0' :: '0' :: hexPair n).mapM hexValue? = some [0, 0, n / 16, n % 16] := by
    decide
  obtain ⟨hpair, hsize, hvalues⟩ := hdigits n h
  have htake : ('0' :: '0' :: (hexPair n ++ rest)).take 4 = '0' :: '0' :: hexPair n := by
    rw [hpair]
    rfl
  have hdrop : ('0' :: '0' :: (hexPair n ++ rest)).drop 4 = rest := by
    rw [hpair]
    rfl
  rw [hexCode, htake, hdrop, hsize, if_neg (Nat.lt_irrefl 4), hvalues]
  change Except.ok (16 * (16 * 0 + n / 16) + n % 16, rest) = _
  rw [show 16 * (16 * 0 + n / 16) + n % 16 = n by omega]

/-- A character is read back from what stands for it between quotes. -/
theorem stringBody_escapeChar (c : Char) (fuel : Nat) (rest : List Char) :
    stringBody (fuel + 1) (escapeChar c ++ rest) =
      (do let (body, cs) ← stringBody fuel rest; return (c :: body, cs)) := by
  rw [escapeChar.eq_def]
  split
  case h_8 hquote hslash _ _ _ _ _ =>
    split
    · next hlow =>
      have hescape : escape ('u' :: '0' :: '0' :: (hexPair c.toNat ++ rest)) = .ok (c, rest) := by
        rw [escape, codeEscape, hexCode_hexPair hlow, ok_bind]
        simp only
        rw [if_neg (by omega), if_pos (by omega), Char.ofNat_toNat]
        rfl
      change stringBody (fuel + 1) ('\\' :: 'u' :: '0' :: '0' :: (hexPair c.toNat ++ rest)) = _
      rw [stringBody, if_neg (by decide), if_pos rfl, hescape, ok_bind]
    · next hhigh =>
      rw [List.singleton_append, stringBody, if_neg hquote, if_neg hslash, if_neg hhigh]
  all_goals rfl

theorem length_escapeChar_pos (c : Char) : 0 < (escapeChar c).length := by
  rw [escapeChar.eq_def]
  split
  case h_8 => split <;> exact Nat.succ_pos _
  all_goals exact Nat.succ_pos _

theorem stringBody_flatMap {cs : List Char} {fuel : Nat}
    (h : (cs.flatMap escapeChar).length < fuel) (rest : List Char) :
    stringBody fuel (cs.flatMap escapeChar ++ '"' :: rest) = .ok (cs, rest) := by
  induction cs generalizing fuel with
  | nil =>
    obtain ⟨fuel, rfl⟩ := Nat.exists_eq_add_of_lt h
    rfl
  | cons c cs ih =>
    have hpos := length_escapeChar_pos c
    rw [List.flatMap_cons, List.length_append] at h
    obtain ⟨fuel, rfl⟩ : ∃ n, fuel = n + 1 := ⟨fuel - 1, by omega⟩
    rw [List.flatMap_cons, List.append_assoc, stringBody_escapeChar, ih (by omega)]
    rfl

theorem stringText_quote {s : String} {fuel : Nat} (h : (quote s).length < fuel + 2)
    (rest : List Char) :
    stringText fuel (s.toList.flatMap escapeChar ++ '"' :: rest) = .ok (s, rest) := by
  rw [quote, List.length_cons, List.length_append, List.length_singleton] at h
  rw [stringText, stringBody_flatMap (by omega), ok_bind]
  change Except.ok (String.ofList s.toList, rest) = _
  rw [String.ofList_toList]

/-! ## Numbers -/

theorem keepDigits_of_lt {cs : List Char} {n : Nat}
    (h : Nat.ofDigitChars 10 cs n < Decimal.indexBound) :
    keepDigits n cs = (Nat.ofDigitChars 10 cs n, 0) := by
  induction cs generalizing n with
  | nil => rfl
  | cons c cs ih =>
    have hle : 10 * n + Text.digitValue c ≤
        Nat.ofDigitChars 10 cs (10 * n + Text.digitValue c) := by
      rw [Nat.ofDigitChars_eq_ofDigitChars_zero]
      exact Nat.le_add_right_of_le (Nat.le_mul_of_pos_left _ (Nat.pow_pos (by decide)))
    rw [Nat.ofDigitChars_cons] at h ⊢
    rw [keepDigits, if_pos (Nat.lt_of_le_of_lt hle h)]
    exact ih h

/-- A text that may stand behind a datum: the end, or what begins with a comma or a line break. -/
inductive Closes : List Char → Prop
  | nil : Closes []
  | comma (rest : List Char) : Closes (',' :: rest)
  | newline (rest : List Char) : Closes ('\n' :: rest)

section Numbers

variable {rest : List Char} (closes : Closes rest)
include closes

theorem takeWhile_append (cs : List Char) :
    (cs ++ rest).takeWhile isDigit = cs.takeWhile isDigit := by
  cases closes with
  | nil => rw [List.append_nil]
  | comma | newline => exact Expression.takeWhile_append_stop rfl cs _

theorem dropWhile_append (cs : List Char) :
    (cs ++ rest).dropWhile isDigit = cs.dropWhile isDigit ++ rest := by
  cases closes with
  | nil => rw [List.append_nil, List.append_nil]
  | comma | newline => exact Expression.dropWhile_append_stop rfl cs _

theorem fractionPart_append {cs digits left : List Char}
    (h : fractionPart cs = .ok (digits, left)) :
    fractionPart (cs ++ rest) = .ok (digits, left ++ rest) := by
  rw [fractionPart] at h ⊢
  rw [takeWhile_append closes, dropWhile_append closes]
  split at h
  · next hdigits =>
    cases h
    rw [if_pos hdigits]
  · split at h <;> cases h

theorem exponentDigits_append {overflows : Bool} {cs left : List Char} {n m : Nat}
    (h : exponentDigits overflows n cs = .ok (m, left)) :
    exponentDigits overflows n (cs ++ rest) = .ok (m, left ++ rest) := by
  induction cs generalizing n with
  | nil =>
    cases h
    cases closes <;> rfl
  | cons c cs ih =>
    rw [exponentDigits] at h
    rw [List.cons_append, exponentDigits]
    split at h
    · next hdigit =>
      rw [if_pos hdigit]
      simp only at h ⊢
      split at h
      · cases h
      · next hbound =>
        rw [if_neg hbound]
        exact ih h
    · next hdigit =>
      cases h
      rw [if_neg hdigit]
      rfl

omit closes in
theorem splitSign_append {cs digits : List Char} {negative : Bool} {c : Char}
    (h : Decimal.splitSign cs = (negative, c :: digits)) :
    Decimal.splitSign (cs ++ rest) = (negative, c :: (digits ++ rest)) := by
  rw [Decimal.splitSign.eq_def] at h
  split at h
  · cases h
    rfl
  · cases h
    rfl
  · next hminus hplus =>
    cases h
    rw [List.cons_append, Decimal.splitSign.eq_3]
    · rintro _ ⟨⟩
      exact hminus _ rfl
    · rintro _ ⟨⟩
      exact hplus _ rfl

theorem exponentPart_append {zero : Bool} {cs left : List Char} {power : Int}
    (h : exponentPart zero cs = .ok (power, left)) :
    exponentPart zero (cs ++ rest) = .ok (power, left ++ rest) := by
  rw [exponentPart] at h ⊢
  rcases hsplit : Decimal.splitSign cs with ⟨negative, _ | ⟨c, digits⟩⟩
  · rw [hsplit] at h
    cases h
  · rw [hsplit] at h
    rw [splitSign_append hsplit]
    simp only at h ⊢
    split at h
    · next hdigit =>
      obtain ⟨⟨n, more⟩, hdigits, ⟨⟩⟩ := bind_eq_ok_iff.mp h
      rw [if_pos hdigit, ← List.cons_append, exponentDigits_append closes hdigits]
      rfl
    · cases h

/-- A number without a point and without an exponent, before what follows a datum. -/
theorem numberTail_closes (negative : Bool) (whole : List Char) :
    numberTail negative whole rest =
      numberTail.integral negative (keepDigits 0 whole).1 (keepDigits 0 whole).2 rest := by
  cases closes <;> rfl

omit closes in
theorem floatValue_append {negative : Bool} {n : Nat} {power : Int} {cs left : List Char} {j : Json}
    (h : floatValue negative n power cs = .ok (j, left)) :
    floatValue negative n power (cs ++ rest) = .ok (j, left ++ rest) := by
  rw [floatValue] at h ⊢
  split at h
  · cases h
    rfl
  · cases h

omit closes in
theorem integral_append {negative : Bool} {n extra : Nat} {cs left : List Char} {j : Json}
    (h : numberTail.integral negative n extra cs = .ok (j, left)) :
    numberTail.integral negative n extra (cs ++ rest) = .ok (j, left ++ rest) := by
  rw [numberTail.integral] at h ⊢
  split at h
  · next hfloat =>
    rw [if_pos hfloat]
    exact floatValue_append h
  · next hfloat =>
    cases h
    rw [if_neg hfloat]

/-- The exponent of a number behind its fraction, if there is one. -/
def powerPart (zero : Bool) : List Char → Except Stop (Int × List Char)
  | [] => .ok (0, [])
  | c :: cs => if c = 'e' ∨ c = 'E' then exponentPart zero cs else .ok (0, c :: cs)

theorem powerPart_append {zero : Bool} {cs left : List Char} {power : Int}
    (h : powerPart zero cs = .ok (power, left)) :
    powerPart zero (cs ++ rest) = .ok (power, left ++ rest) := by
  cases cs with
  | nil =>
    cases h
    cases closes <;> rfl
  | cons c cs =>
    rw [powerPart] at h
    rw [List.cons_append, powerPart]
    split at h
    · next hexponent => rw [if_pos hexponent, exponentPart_append closes h]
    · next hexponent =>
      cases h
      rw [if_neg hexponent]
      rfl

omit closes in
theorem numberTail_point (negative : Bool) (whole cs : List Char) :
    numberTail negative whole ('.' :: cs) = (do
      let (digits, more) ← fractionPart cs
      let kept := keepDigits (keepDigits 0 whole).1 digits
      let (power, last) ← powerPart (kept.1 = 0) more
      floatValue negative kept.1
        (power + (keepDigits 0 whole).2 + kept.2 - digits.length) last) := by
  rw [numberTail]
  refine congrArg (fractionPart cs >>= ·) (funext fun ⟨digits, more⟩ ↦ ?_)
  cases more with
  | nil => rfl
  | cons c more =>
    simp only [powerPart]
    split <;> rfl

theorem numberTail_append {negative : Bool} {whole cs left : List Char} {j : Json}
    (h : numberTail negative whole cs = .ok (j, left)) :
    numberTail negative whole (cs ++ rest) = .ok (j, left ++ rest) := by
  rcases cs with _ | ⟨c, cs⟩
  · rw [List.nil_append, numberTail_closes closes]
    exact integral_append h
  · by_cases hpoint : c = '.'
    · subst hpoint
      rw [numberTail_point] at h
      obtain ⟨⟨digits, more⟩, hfraction, h⟩ := bind_eq_ok_iff.mp h
      obtain ⟨⟨power, last⟩, hpower, h⟩ := bind_eq_ok_iff.mp h
      rw [List.cons_append, numberTail_point, fractionPart_append closes hfraction, ok_bind]
      simp only
      rw [powerPart_append closes hpower, ok_bind]
      exact floatValue_append h
    · rw [numberTail.eq_2 _ _ _ _ hpoint] at h
      rw [List.cons_append, numberTail.eq_2 _ _ _ _ hpoint]
      simp only at h ⊢
      split at h
      · next hexponent =>
        obtain ⟨⟨power, last⟩, hpower, h⟩ := bind_eq_ok_iff.mp h
        rw [if_pos hexponent, exponentPart_append closes hpower, ok_bind]
        exact floatValue_append h
      · next hexponent =>
        rw [if_neg hexponent]
        exact integral_append h

theorem signedNumber_append {negative : Bool} {cs left : List Char} {j : Json}
    (h : signedNumber negative cs = .ok (j, left)) :
    signedNumber negative (cs ++ rest) = .ok (j, left ++ rest) := by
  cases cs with
  | nil => cases h
  | cons c cs =>
    rw [signedNumber] at h
    rw [List.cons_append, signedNumber]
    split at h
    · next hzero =>
      rw [if_pos hzero]
      split at h
      · cases h
      · next hdigit =>
        have hstop : ¬(cs ++ rest).head?.any isDigit = true := by
          cases cs with
          | nil => cases closes <;> exact hdigit
          | cons => exact hdigit
        rw [if_neg hstop, numberTail_append closes h]
    · next hzero =>
      rw [if_neg hzero]
      split at h
      · next hdigit =>
        rw [if_pos hdigit, takeWhile_append closes, dropWhile_append closes,
          numberTail_append closes h]
      · cases h

theorem signedNumber_toDigits {negative : Bool} {n : Nat} (fits : n < Decimal.indexBound)
    (nonzero : negative = true → n ≠ 0) :
    signedNumber negative (Nat.toDigits 10 n ++ rest) =
      .ok (.integer (Decimal.signed negative n), rest) := by
  have hkept : keepDigits 0 (Nat.toDigits 10 n) = (n, 0) := by
    have hvalue : Nat.ofDigitChars 10 (Nat.toDigits 10 n) 0 = n :=
      Nat.ofDigitChars_toDigits (by decide) (by decide)
    rw [keepDigits_of_lt (hvalue.symm ▸ fits), hvalue]
  have hintegral : numberTail negative (Nat.toDigits 10 n) rest =
      .ok (.integer (Decimal.signed negative n), rest) := by
    rw [numberTail_closes closes, hkept, numberTail.integral, if_neg]
    simpa using nonzero
  have hdigits := (Decimal.isDigits_toDigits n).digits
  rcases Decimal.toDigits_eq_zero_or n with hzero | ⟨c, cs, hcs, hne⟩
  · rw [hzero] at hintegral ⊢
    have hstop : ¬rest.head?.any isDigit = true := by cases closes <;> nofun
    rw [List.singleton_append, signedNumber, if_pos rfl, if_neg hstop, hintegral]
  · rw [hcs] at hintegral hdigits ⊢
    obtain ⟨hc, hcs⟩ := List.forall_mem_cons.mp hdigits
    have hstop : ∀ c ∈ rest.head?, isDigit c = false := by
      cases closes <;> rintro _ ⟨⟩ <;> rfl
    rw [List.cons_append, signedNumber, if_neg hne, if_pos hc, takeWhile_digits hcs hstop,
      dropWhile_digits hcs hstop, hintegral]

end Numbers

end DataOutline.Json
