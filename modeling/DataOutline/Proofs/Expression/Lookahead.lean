import DataOutline.Proofs.Expression.Inversion

/-!
# How far a reader looks

A reader looks at the token behind what it reads, to see whether an operator or a suffix comes next,
and no further. So whether a phrase is read with so many levels depends on the phrase and on that
token, and not on all that follows. In particular a phrase in parentheses is read in front of
whatever stands behind it.

Each function of the reader is shown to be so in turn, given the reader of the next level: what it
has read is cut off in front of what it left, and read again in front of other tokens.
-/

namespace DataOutline.Expression

/-- A reader that reads what it reads in front of all tokens with the same first one. -/
def LooksOneAhead (sub : Reader) : Prop :=
  ∀ ⦃power : Nat⦄ ⦃tokens rest : List Token⦄ ⦃e : Expression⦄, sub power tokens = .ok (e, rest) →
    ∃ ts, tokens = ts ++ rest ∧ ∀ rest' : List Token, rest.head? = rest'.head? →
      sub power (ts ++ rest') = .ok (e, rest')

theorem NoSuffix.of_head? {rest rest' : List Token} (h : NoSuffix rest)
    (hhead : rest.head? = rest'.head?) : NoSuffix rest' := by
  rwa [NoSuffix, ← hhead]

theorem Ends.of_head? {power : Nat} {rest rest' : List Token} (h : Ends power rest)
    (hhead : rest.head? = rest'.head?) : Ends power rest' := by
  rwa [Ends, ← hhead]

theorem head?_append_congr {ts rest rest' : List Token} (h : rest.head? = rest'.head?) :
    (ts ++ rest).head? = (ts ++ rest').head? := by
  rw [List.head?_append, List.head?_append, h]

theorem head?_append_ne {ts rest rest' : List Token} {token : Option Token}
    (h : (ts ++ rest).head? ≠ token) (hhead : rest.head? = rest'.head?) :
    (ts ++ rest').head? ≠ token := by
  rwa [← head?_append_congr hhead]

section Step

variable {sub : Reader} (hsub : LooksOneAhead sub) {tokens rest : List Token} {e : Expression}
include hsub

/-! ## Lists -/

theorem readItems_ahead {closing : Token} {fuel : Nat} {es : List Expression}
    (h : readItems sub closing fuel tokens = .ok (es, rest)) (hcomma : closing ≠ .comma) :
    ∃ ts, tokens = ts ++ closing :: rest ∧ ∀ (rest' : List Token) (fuel' : Nat),
      ts.length < fuel' →
        readItems sub closing fuel' (ts ++ closing :: rest') = .ok (es, rest') := by
  -- The induction is on the fuel of the first reading. The second has fuel of its own, since what
  -- follows it may be shorter; enough for the tokens that are read again is enough.
  induction fuel generalizing tokens es with
  | zero => exact nomatch h
  | succ fuel ih =>
    rcases readItems_cases h with ⟨rfl, rfl⟩ | ⟨hopen, item, behind, hread, hmore⟩
    · refine ⟨[], rfl, fun rest' fuel' hfuel ↦ ?_⟩
      obtain ⟨fuel', rfl⟩ := Nat.exists_eq_succ_of_ne_zero (Nat.ne_of_gt hfuel)
      have hhead : ([] ++ closing :: rest').head? = some closing := rfl
      rw [readItems, if_pos hhead]
      rfl
    obtain ⟨ts, rfl, hagain⟩ := hsub hread
    rcases hmore with ⟨rfl, rfl⟩ | ⟨middle, more, rfl, hmore, rfl⟩
    · refine ⟨ts, rfl, fun rest' fuel' hfuel ↦ ?_⟩
      obtain ⟨fuel', rfl⟩ := Nat.exists_eq_succ_of_ne_zero (Nat.ne_zero_of_lt hfuel)
      have hopen' : (ts ++ closing :: rest').head? ≠ some closing :=
        head?_append_ne hopen rfl
      rw [readItems, if_neg hopen', hagain (closing :: rest') rfl, ok_bind]
      simp only
      split
      · next heq => exact absurd (List.cons.inj heq).1 hcomma
      · rw [require_self]
        rfl
    · obtain ⟨us, rfl, hagain'⟩ := ih hmore
      refine ⟨ts ++ .comma :: us, by simp, fun rest' fuel' hfuel ↦ ?_⟩
      obtain ⟨fuel', rfl⟩ := Nat.exists_eq_succ_of_ne_zero (Nat.ne_zero_of_lt hfuel)
      rw [List.length_append, List.length_cons] at hfuel
      have hopen' : (ts ++ .comma :: (us ++ closing :: rest')).head? ≠ some closing :=
        head?_append_ne hopen rfl
      rw [List.append_assoc, List.cons_append, readItems, if_neg hopen',
        hagain (.comma :: (us ++ closing :: rest')) rfl, ok_bind]
      simp only [hagain' rest' fuel' (by omega)]
      rfl

theorem readEntryValue_ahead {name : String}
    (h : readEntryValue sub name tokens = .ok (e, rest)) :
    ∃ ts, tokens = ts ++ rest ∧ ∀ rest' : List Token, rest.head? = rest'.head? →
      readEntryValue sub name (ts ++ rest') = .ok (e, rest') := by
  by_cases hcolon : tokens.head? = some .colon
  · obtain ⟨middle, rfl⟩ := List.head?_eq_some_iff.mp hcolon
    obtain ⟨ts, rfl, hagain⟩ := hsub h
    exact ⟨.colon :: ts, rfl, hagain⟩
  · have hshort : ∀ {tokens : List Token}, tokens.head? ≠ some .colon →
        readEntryValue sub name tokens = .ok (.identifier name, tokens) := by
      intro tokens htokens
      refine readEntryValue.eq_2 _ _ _ ?_
      rintro _ rfl
      exact htokens rfl
    rw [hshort hcolon] at h
    cases h
    exact ⟨[], rfl, fun rest' hhead ↦ hshort (hhead ▸ hcolon)⟩

theorem readEntries_ahead {fuel : Nat} {es : List (String × Expression)}
    (h : readEntries sub fuel tokens = .ok (es, rest)) :
    ∃ ts, tokens = ts ++ .closeBrace :: rest ∧ ∀ (rest' : List Token) (fuel' : Nat),
      ts.length < fuel' →
        readEntries sub fuel' (ts ++ .closeBrace :: rest') = .ok (es, rest') := by
  induction fuel generalizing tokens es with
  | zero => exact nomatch h
  | succ fuel ih =>
    rcases readEntries_cases h with ⟨rfl, rfl⟩ |
      ⟨token, name, middle, value, behind, rfl, names, hread, hmore⟩
    · refine ⟨[], rfl, fun rest' fuel' hfuel ↦ ?_⟩
      obtain ⟨fuel', rfl⟩ := Nat.exists_eq_succ_of_ne_zero (Nat.ne_of_gt hfuel)
      rfl
    obtain ⟨ts, rfl, hagain⟩ := readEntryValue_ahead hsub hread
    rcases hmore with ⟨rfl, rfl⟩ | ⟨middle, more, rfl, hmore, rfl⟩
    · refine ⟨token :: ts, rfl, fun rest' fuel' hfuel ↦ ?_⟩
      obtain ⟨fuel', rfl⟩ := Nat.exists_eq_succ_of_ne_zero (Nat.ne_zero_of_lt hfuel)
      rw [List.cons_append, readEntries_cons _ names.ne_closeBrace,
        entryName?_eq_some_iff.mpr names]
      simp only [hagain (.closeBrace :: rest') rfl, ok_bind, require_self]
      rfl
    · obtain ⟨us, rfl, hagain'⟩ := ih hmore
      refine ⟨token :: (ts ++ .comma :: us), by simp, fun rest' fuel' hfuel ↦ ?_⟩
      obtain ⟨fuel', rfl⟩ := Nat.exists_eq_succ_of_ne_zero (Nat.ne_zero_of_lt hfuel)
      rw [List.length_cons, List.length_append, List.length_cons] at hfuel
      rw [List.cons_append, List.append_assoc, List.cons_append,
        readEntries_cons _ names.ne_closeBrace, entryName?_eq_some_iff.mpr names]
      simp only [hagain (.comma :: (us ++ .closeBrace :: rest')) rfl, ok_bind,
        hagain' rest' fuel' (by omega)]
      rfl

/-! ## Operands -/

theorem readPrimary_ahead {token : Token} (h : readPrimary sub token tokens = .ok (e, rest)) :
    ∃ ts, tokens = ts ++ rest ∧ ∀ rest' : List Token,
      readPrimary sub token (ts ++ rest') = .ok (e, rest') := by
  rcases readPrimary_cases h with ⟨is, rfl⟩ | ⟨rfl, hread⟩ | ⟨rfl, items, hread, rfl⟩ |
    ⟨rfl, entries, hread, rfl⟩
  · refine ⟨[], rfl, fun rest' ↦ ?_⟩
    cases token with
    | number | string | identifier | trueWord | falseWord | nullWord => cases is; rfl
    | _ => exact nomatch is
  · obtain ⟨ts, rfl, hagain⟩ := hsub hread
    refine ⟨ts ++ [.closeParen], by simp, fun rest' ↦ ?_⟩
    rw [List.append_assoc, List.singleton_append, readPrimary,
      hagain (.closeParen :: rest') rfl, ok_bind]
    simp only [require_self]
    rfl
  · obtain ⟨ts, rfl, hagain⟩ := readItems_ahead hsub hread (by simp)
    refine ⟨ts ++ [.closeBracket], by simp, fun rest' ↦ ?_⟩
    have hlength : ts.length < (ts ++ .closeBracket :: rest').length + 1 := by
      rw [List.length_append]
      omega
    rw [List.append_assoc, List.singleton_append, readPrimary, hagain rest' _ hlength]
    rfl
  · obtain ⟨ts, rfl, hagain⟩ := readEntries_ahead hsub hread
    refine ⟨ts ++ [.closeBrace], by simp, fun rest' ↦ ?_⟩
    have hlength : ts.length < (ts ++ .closeBrace :: rest').length + 1 := by
      rw [List.length_append]
      omega
    rw [List.append_assoc, List.singleton_append, readPrimary, hagain rest' _ hlength]
    rfl

theorem readSuffixes_ahead {fuel : Nat} {target : Expression} (hfuel : tokens.length ≤ fuel)
    (h : readSuffixes sub fuel target tokens = .ok (e, rest)) :
    ∃ ts, tokens = ts ++ rest ∧ ∀ (rest' : List Token) (fuel' : Nat), rest.head? = rest'.head? →
      ts.length ≤ fuel' → readSuffixes sub fuel' target (ts ++ rest') = .ok (e, rest') := by
  induction fuel generalizing target tokens with
  | zero =>
    cases List.length_eq_zero_iff.mp (Nat.le_zero.mp hfuel)
    cases h
    have hstop : NoSuffix [] := by rintro _ ⟨⟩
    exact ⟨[], rfl, fun rest' fuel' hhead _ ↦ readSuffixes_stop (hstop.of_head? hhead) fuel' e⟩
  | succ fuel ih =>
    rcases readSuffixes_cases h with ⟨hstop, rfl, rfl⟩ | ⟨token, name, more, rfl, names, hmore⟩ |
      ⟨place, middle, more, rfl, hread, hmore⟩ | ⟨arguments, middle, more, rfl, hread, hmore⟩
    · exact ⟨[], rfl, fun rest' fuel' hhead _ ↦ readSuffixes_stop (hstop.of_head? hhead) fuel' e⟩
    · simp only [List.length_cons] at hfuel
      obtain ⟨ts, rfl, hagain⟩ := ih (by omega) hmore
      refine ⟨.dot :: token :: ts, rfl, fun rest' fuel' hhead hfuel' ↦ ?_⟩
      obtain ⟨fuel', rfl⟩ := Nat.exists_eq_succ_of_ne_zero (Nat.ne_zero_of_lt hfuel')
      simp only [List.length_cons] at hfuel'
      rw [List.cons_append, List.cons_append, readSuffixes, List.head?_cons, Option.bind_some,
        propertyName?_eq_some_iff.mpr names]
      exact hagain rest' fuel' hhead (by omega)
    · obtain ⟨ps, rfl, hplace⟩ := hsub hread
      simp only [List.length_cons, List.length_append] at hfuel
      obtain ⟨ts, rfl, hagain⟩ := ih (by omega) hmore
      refine ⟨.openBracket :: (ps ++ .closeBracket :: ts), by simp,
        fun rest' fuel' hhead hfuel' ↦ ?_⟩
      obtain ⟨fuel', rfl⟩ := Nat.exists_eq_succ_of_ne_zero (Nat.ne_zero_of_lt hfuel')
      simp only [List.length_cons, List.length_append] at hfuel'
      rw [List.cons_append, List.append_assoc, List.cons_append, readSuffixes,
        hplace (.closeBracket :: (ts ++ rest')) rfl, ok_bind]
      simp only [require_self, ok_bind]
      exact hagain rest' fuel' hhead (by omega)
    · obtain ⟨as, rfl, harguments⟩ := readItems_ahead hsub hread (by simp)
      simp only [List.length_cons, List.length_append] at hfuel
      obtain ⟨ts, rfl, hagain⟩ := ih (by omega) hmore
      refine ⟨.openParen :: (as ++ .closeParen :: ts), by simp, fun rest' fuel' hhead hfuel' ↦ ?_⟩
      obtain ⟨fuel', rfl⟩ := Nat.exists_eq_succ_of_ne_zero (Nat.ne_zero_of_lt hfuel')
      simp only [List.length_cons, List.length_append] at hfuel'
      have hlength : as.length < (as ++ .closeParen :: (ts ++ rest')).length + 1 := by
        rw [List.length_append]
        omega
      rw [List.cons_append, List.append_assoc, List.cons_append, readSuffixes,
        harguments (ts ++ rest') _ hlength, ok_bind]
      exact hagain rest' fuel' hhead (by omega)

theorem readOperand_ahead (h : readOperand sub tokens = .ok (e, rest)) :
    ∃ ts, tokens = ts ++ rest ∧ ∀ rest' : List Token, rest.head? = rest'.head? →
      readOperand sub (ts ++ rest') = .ok (e, rest') := by
  rcases readOperand_cases h with ⟨token, operator, middle, operand, rfl, hsign, hread, rfl⟩ |
    ⟨middle, rfl, hread⟩ | ⟨token, middle, primary, behind, rfl, ⟨hbang, hminus, hplus⟩, hread,
      hmore⟩
  · obtain ⟨ts, rfl, hagain⟩ := hsub hread
    refine ⟨token :: ts, rfl, fun rest' hhead ↦ ?_⟩
    rcases hsign with ⟨rfl, rfl⟩ | ⟨rfl, rfl⟩ <;>
      rw [List.cons_append, readOperand, hagain rest' hhead] <;> rfl
  · obtain ⟨ts, rfl, hagain⟩ := hsub hread
    exact ⟨.plus :: ts, rfl, hagain⟩
  · obtain ⟨ps, rfl, hprimary⟩ := readPrimary_ahead hsub hread
    obtain ⟨ts, rfl, hagain⟩ := readSuffixes_ahead hsub (Nat.le_refl _) hmore
    refine ⟨token :: (ps ++ ts), by simp, fun rest' hhead ↦ ?_⟩
    rw [List.cons_append, List.append_assoc, readOperand.eq_5 _ _ _ hbang hminus hplus,
      hprimary (ts ++ rest'), ok_bind]
    exact hagain rest' _ hhead (by simp)

/-! ## Operators -/

theorem readOperators_ahead {power fuel : Nat} {left : Expression} (hfuel : tokens.length ≤ fuel)
    (h : readOperators sub power fuel left tokens = .ok (e, rest)) :
    ∃ ts, tokens = ts ++ rest ∧ ∀ (rest' : List Token) (fuel' : Nat), rest.head? = rest'.head? →
      ts.length ≤ fuel' → readOperators sub power fuel' left (ts ++ rest') = .ok (e, rest') := by
  induction fuel generalizing left tokens with
  | zero =>
    cases List.length_eq_zero_iff.mp (Nat.le_zero.mp hfuel)
    cases h
    exact ⟨[], rfl, fun rest' fuel' hhead _ ↦
      readOperators_stop ((ends_nil power).of_head? hhead) fuel' e⟩
  | succ fuel ih =>
    rcases tokens with _ | ⟨token, tokens⟩
    · cases h
      exact ⟨[], rfl, fun rest' fuel' hhead _ ↦
        readOperators_stop ((ends_nil power).of_head? hhead) fuel' e⟩
    rw [List.length_cons, Nat.add_le_add_iff_right] at hfuel
    rcases readOperators_cases h with ⟨hstop, rfl, rfl⟩ |
      ⟨rfl, hle, whenTrue, whenFalse, middle, behind, hread, hread', hmore⟩ |
      ⟨operator, own, right, behind, hfound, -, hle, hread, hmore⟩
    · exact ⟨[], rfl, fun rest' fuel' hhead _ ↦ readOperators_stop (hstop.of_head? hhead) fuel' e⟩
    · obtain ⟨ts, rfl, htrue⟩ := hsub hread
      obtain ⟨fs, rfl, hfalse⟩ := hsub hread'
      simp only [List.length_cons, List.length_append] at hfuel
      obtain ⟨us, rfl, hagain⟩ := ih (by omega) hmore
      refine ⟨.question :: (ts ++ .colon :: (fs ++ us)), by simp, fun rest' fuel' hhead hfuel' ↦ ?_⟩
      obtain ⟨fuel', rfl⟩ := Nat.exists_eq_succ_of_ne_zero (Nat.ne_zero_of_lt hfuel')
      simp only [List.length_cons, List.length_append] at hfuel'
      simp only [List.cons_append, List.append_assoc]
      rw [readOperators, if_neg (Nat.not_lt.mpr hle),
        htrue (.colon :: (fs ++ (us ++ rest'))) rfl, ok_bind]
      simp only [require_self, ok_bind, hfalse (us ++ rest') (head?_append_congr hhead)]
      exact hagain rest' fuel' hhead (by omega)
    · have hq : token ≠ .question := by
        rintro rfl
        cases hfound
      obtain ⟨rs, rfl, hright⟩ := hsub hread
      rw [List.length_append] at hfuel
      obtain ⟨us, rfl, hagain⟩ := ih (by omega) hmore
      refine ⟨token :: (rs ++ us), by simp, fun rest' fuel' hhead hfuel' ↦ ?_⟩
      obtain ⟨fuel', rfl⟩ := Nat.exists_eq_succ_of_ne_zero (Nat.ne_zero_of_lt hfuel')
      simp only [List.length_cons, List.length_append] at hfuel'
      rw [List.cons_append, List.append_assoc, readOperators_cons _ hq, hfound]
      simp only [if_neg (Nat.not_lt.mpr hle), hright (us ++ rest') (head?_append_congr hhead),
        ok_bind]
      exact hagain rest' fuel' hhead (by omega)

end Step

/-! ## Every level -/

/-- **A reader looks one token ahead**, however many levels it has. -/
theorem readExpression_looksOneAhead (levels : Nat) : LooksOneAhead (readExpression levels) := by
  induction levels with
  | zero => exact fun _ _ _ _ h ↦ nomatch h
  | succ levels ih =>
    intro power tokens rest e h
    obtain ⟨⟨left, behind⟩, hread, hmore⟩ := bind_eq_ok_iff.mp h
    obtain ⟨os, rfl, hoperand⟩ := readOperand_ahead ih hread
    obtain ⟨ts, rfl, hagain⟩ := readOperators_ahead ih (Nat.le_refl _) hmore
    refine ⟨os ++ ts, (List.append_assoc ..).symm, fun rest' hhead ↦ ?_⟩
    rw [List.append_assoc, readExpression, hoperand (ts ++ rest') (head?_append_congr hhead),
      ok_bind]
    exact hagain rest' _ hhead (by simp)

/-- A phrase in parentheses is read alike in front of everything, as far as there are levels. -/
theorem readExpression_group {ts : List Token} {e : Expression}
    (h : Derives (.expression .conditional e) ts) (levels : Nat) (rest rest' : List Token) :
    readExpression levels 0 (ts ++ .closeParen :: rest) =
      (fun _ ↦ (e, .closeParen :: rest)) <$>
        readExpression levels 0 (ts ++ .closeParen :: rest') := by
  have hreads : Reads levels .conditional e ts := reads_of_completes h.completes
  have hyields : ∀ rest, Yields (levels ≤ ts.length)
      (readExpression levels 0 (ts ++ .closeParen :: rest)) (.ok (e, .closeParen :: rest)) :=
    fun rest ↦ hreads 0 _ (Nat.zero_le _) (Delimits.closeParen.noSuffix rest)
      (Delimits.closeParen.ends 0 rest)
  have halike : ∀ {rest rest' : List Token},
      readExpression levels 0 (ts ++ .closeParen :: rest) = .ok (e, .closeParen :: rest) →
      readExpression levels 0 (ts ++ .closeParen :: rest') = .ok (e, .closeParen :: rest') := by
    intro rest rest' hread
    obtain ⟨us, hus, hagain⟩ := readExpression_looksOneAhead levels hread
    rw [List.append_cancel_right hus]
    exact hagain _ rfl
  rcases hyields rest' with hread | ⟨-, hdeep⟩
  · rw [hread, halike hread]
    rfl
  · -- If there are too few levels in front of one rest, there are too few in front of the other.
    rw [hdeep]
    rcases hyields rest with hread | ⟨-, hdeep'⟩
    · exact nomatch (halike hread).symm.trans hdeep
    · exact hdeep'

end DataOutline.Expression
