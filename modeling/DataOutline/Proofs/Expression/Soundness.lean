import DataOutline.Proofs.Expression.Grammar
import DataOutline.Proofs.Result

/-!
# What is read is derived

Every function of the reader takes the reader of the next level as an argument, so what is shown of
it here supposes that this one is sound: that it reads phrases of the grammar, and stops where no
operator of its power goes on. The latter is what makes the loop along operators sound. Its left
operand grows at the level of the last operator, and a tighter operator that came next would have
been taken in by the last right operand.
-/

namespace DataOutline.Expression

/-- A reader that reads phrases of the grammar, as far as operators of its power go. -/
def Sound (sub : Reader) : Prop :=
  ∀ {power : Nat} {tokens rest : List Token} {e : Expression},
    sub power tokens = .ok (e, rest) →
      ∃ ts, tokens = ts ++ rest ∧ Derives (.expression (levelOf power) e) ts ∧ Ends power rest

theorem require_eq_ok_iff {expected : Token} {tokens rest : List Token} :
    require expected tokens = .ok rest ↔ tokens = expected :: rest := by
  cases tokens with
  | nil => exact iff_of_false (fun h ↦ nomatch h) fun h ↦ nomatch h
  | cons token tokens =>
    rw [require]
    by_cases h : token = expected
    · rw [if_pos h, h, Except.ok.injEq, List.cons.injEq, and_iff_right rfl]
    · rw [if_neg h, List.cons.injEq]
      exact iff_of_false (fun h ↦ nomatch h) fun h' ↦ h h'.1

theorem require_self (token : Token) (rest : List Token) :
    require token (token :: rest) = .ok rest := require_eq_ok_iff.mpr rfl

variable {sub : Reader}

/-! ## Lists -/

theorem readItems_sound (hsub : Sound sub) {closing : Token} {fuel : Nat}
    {tokens rest : List Token} {es : List Expression}
    (h : readItems sub closing fuel tokens = .ok (es, rest)) :
    ∃ ts, tokens = ts ++ closing :: rest ∧ Derives (.items es) ts := by
  induction fuel generalizing tokens es with
  | zero => exact nomatch h
  | succ fuel ih =>
    rw [readItems] at h
    by_cases hclose : tokens.head? = some closing
    · rw [if_pos hclose] at h
      cases h
      exact ⟨[], List.eq_cons_of_mem_head? hclose, .noItem⟩
    · rw [if_neg hclose] at h
      obtain ⟨⟨e, behind⟩, hread, hmore⟩ := bind_eq_ok_iff.mp h
      obtain ⟨ts, rfl, he, -⟩ := hsub hread
      simp only at hmore
      split at hmore
      · obtain ⟨⟨more, rest⟩, hitems, ⟨⟩⟩ := bind_eq_ok_iff.mp hmore
        obtain ⟨us, rfl, hus⟩ := ih hitems
        exact ⟨ts ++ .comma :: us, by simp, .consItem he hus⟩
      · obtain ⟨rest, hrest, ⟨⟩⟩ := bind_eq_ok_iff.mp hmore
        rw [require_eq_ok_iff.mp hrest]
        exact ⟨ts, rfl, .lastItem he⟩

theorem readEntryValue_sound (hsub : Sound sub) {token : Token} {name : String}
    (names : NamesEntry token name) {tokens rest : List Token} {value : Expression}
    (h : readEntryValue sub name tokens = .ok (value, rest)) :
    ∃ ts, token :: tokens = ts ++ rest ∧ Derives (.entry name value) ts := by
  unfold readEntryValue at h
  split at h
  · obtain ⟨ts, rfl, hvalue, -⟩ := hsub h
    exact ⟨token :: .colon :: ts, rfl, .pair names hvalue⟩
  · cases h
    exact ⟨[token], rfl, .short names⟩

theorem readEntries_cons {fuel : Nat} {token : Token} (tokens : List Token)
    (hclose : token ≠ .closeBrace) :
    readEntries sub (fuel + 1) (token :: tokens) =
      match entryName? token with
      | none => .error (.malformed .entryName)
      | some name => do
        let (value, rest) ← readEntryValue sub name tokens
        match rest with
        | .comma :: rest =>
          let (entries, rest) ← readEntries sub fuel rest
          return ((name, value) :: entries, rest)
        | rest => return ([(name, value)], ← require .closeBrace rest) := by
  rw [readEntries.eq_3 _ _ _ fun _ h ↦ hclose (List.cons.inj h).1]
  rfl

theorem readEntries_sound (hsub : Sound sub) {fuel : Nat} {tokens rest : List Token}
    {es : List (String × Expression)} (h : readEntries sub fuel tokens = .ok (es, rest)) :
    ∃ ts, tokens = ts ++ .closeBrace :: rest ∧ Derives (.entries es) ts := by
  induction fuel generalizing tokens es with
  | zero => exact nomatch h
  | succ fuel ih =>
    rcases tokens with _ | ⟨token, tokens⟩
    · exact nomatch h
    by_cases hclose : token = .closeBrace
    · subst hclose
      cases h
      exact ⟨[], rfl, .noEntry⟩
    · rw [readEntries_cons _ hclose] at h
      cases hname : entryName? token with
      | none =>
        rw [hname] at h
        exact nomatch h
      | some name =>
        rw [hname] at h
        obtain ⟨⟨value, behind⟩, hread, hmore⟩ := bind_eq_ok_iff.mp h
        obtain ⟨ts, hts, hentry⟩ :=
          readEntryValue_sound hsub (entryName?_eq_some_iff.mp hname) hread
        simp only at hmore
        split at hmore
        · obtain ⟨⟨more, rest⟩, hentries, ⟨⟩⟩ := bind_eq_ok_iff.mp hmore
          obtain ⟨us, rfl, hus⟩ := ih hentries
          exact ⟨ts ++ .comma :: us, by simp [hts], .consEntry hentry hus⟩
        · obtain ⟨rest, hrest, ⟨⟩⟩ := bind_eq_ok_iff.mp hmore
          rw [hts, require_eq_ok_iff.mp hrest]
          exact ⟨ts, rfl, .lastEntry hentry⟩

/-! ## Operands -/

theorem readPrimary_sound (hsub : Sound sub) {token : Token} {tokens rest : List Token}
    {e : Expression} (h : readPrimary sub token tokens = .ok (e, rest)) :
    ∃ ts, token :: tokens = ts ++ rest ∧ Derives (.expression .primary e) ts := by
  cases token with
  | number _ | string _ | identifier _ | trueWord | falseWord | nullWord =>
    cases h
    exact ⟨[_], rfl, .literal rfl⟩
  | openParen =>
    obtain ⟨⟨inner, behind⟩, hread, hclose⟩ := bind_eq_ok_iff.mp h
    obtain ⟨ts, rfl, he, -⟩ := hsub hread
    obtain ⟨rest, hrest, ⟨⟩⟩ := bind_eq_ok_iff.mp hclose
    rw [require_eq_ok_iff.mp hrest]
    exact ⟨.openParen :: (ts ++ [.closeParen]), by simp, .group he⟩
  | openBracket =>
    obtain ⟨⟨items, rest⟩, hread, ⟨⟩⟩ := bind_eq_ok_iff.mp h
    obtain ⟨ts, rfl, hitems⟩ := readItems_sound hsub hread
    exact ⟨.openBracket :: (ts ++ [.closeBracket]), by simp, .array hitems⟩
  | openBrace =>
    obtain ⟨⟨entries, rest⟩, hread, ⟨⟩⟩ := bind_eq_ok_iff.mp h
    obtain ⟨ts, rfl, hentries⟩ := readEntries_sound hsub hread
    exact ⟨.openBrace :: (ts ++ [.closeBrace]), by simp, .object hentries⟩
  | _ => exact nomatch h

theorem readSuffixes_sound (hsub : Sound sub) {fuel : Nat} {target e : Expression}
    {before tokens rest : List Token} (htarget : Derives (.expression .suffix target) before)
    (h : readSuffixes sub fuel target tokens = .ok (e, rest)) :
    ∃ ts, tokens = ts ++ rest ∧ Derives (.expression .suffix e) (before ++ ts) := by
  have hstop : ∀ {target : Expression} {before tokens : List Token},
      Derives (.expression .suffix target) before →
      (.ok (target, tokens) : Except RunError _) = .ok (e, rest) →
      ∃ ts, tokens = ts ++ rest ∧ Derives (.expression .suffix e) (before ++ ts) := by
    rintro target before tokens htarget ⟨⟩
    exact ⟨[], rfl, by rwa [List.append_nil]⟩
  induction fuel generalizing target before tokens with
  | zero => exact hstop htarget h
  | succ fuel ih =>
    rcases tokens with _ | ⟨token, tokens⟩
    · exact hstop htarget h
    cases token with
    | dot =>
      rcases tokens with _ | ⟨token, tokens⟩
      · exact nomatch h
      · rw [readSuffixes, List.head?_cons, Option.bind_some] at h
        cases hname : propertyName? token with
        | none =>
          rw [hname] at h
          exact nomatch h
        | some name =>
          rw [hname] at h
          obtain ⟨ts, rfl, he⟩ := ih (.member htarget (propertyName?_eq_some_iff.mp hname)) h
          exact ⟨.dot :: token :: ts, rfl, by simpa using he⟩
    | openBracket =>
      obtain ⟨⟨place, behind⟩, hread, hclose⟩ := bind_eq_ok_iff.mp h
      obtain ⟨ps, rfl, hplace, -⟩ := hsub hread
      obtain ⟨behind, hbehind, hmore⟩ := bind_eq_ok_iff.mp hclose
      rw [require_eq_ok_iff.mp hbehind]
      obtain ⟨ts, rfl, he⟩ := ih (.index htarget hplace) hmore
      exact ⟨.openBracket :: (ps ++ .closeBracket :: ts), by simp, by simpa using he⟩
    | openParen =>
      obtain ⟨⟨arguments, behind⟩, hread, hmore⟩ := bind_eq_ok_iff.mp h
      obtain ⟨as, rfl, harguments⟩ := readItems_sound hsub hread
      obtain ⟨ts, rfl, he⟩ := ih (.call htarget harguments) hmore
      exact ⟨.openParen :: (as ++ .closeParen :: ts), by simp, by simpa using he⟩
    | _ => exact hstop htarget h

theorem readOperand_sound (hsub : Sound sub) {tokens rest : List Token} {e : Expression}
    (h : readOperand sub tokens = .ok (e, rest)) :
    ∃ ts, tokens = ts ++ rest ∧ Derives (.expression .sign e) ts := by
  unfold readOperand at h
  split at h
  · exact nomatch h
  · obtain ⟨⟨operand, rest⟩, hread, ⟨⟩⟩ := bind_eq_ok_iff.mp h
    obtain ⟨ts, rfl, he, -⟩ := hsub hread
    exact ⟨.bang :: ts, rfl, .not he⟩
  · obtain ⟨⟨operand, rest⟩, hread, ⟨⟩⟩ := bind_eq_ok_iff.mp h
    obtain ⟨ts, rfl, he, -⟩ := hsub hread
    exact ⟨.minus :: ts, rfl, .negate he⟩
  · obtain ⟨ts, rfl, he, -⟩ := hsub h
    exact ⟨.plus :: ts, rfl, .plus he⟩
  · obtain ⟨⟨primary, behind⟩, hread, hmore⟩ := bind_eq_ok_iff.mp h
    obtain ⟨ps, hps, hprimary⟩ := readPrimary_sound hsub hread
    obtain ⟨ts, rfl, he⟩ := readSuffixes_sound hsub (.lift hprimary) hmore
    exact ⟨ps ++ ts, hps.trans (List.append_assoc ..).symm, .lift he⟩

/-! ## Operators -/

theorem readOperators_cons {power fuel : Nat} {left : Expression} {token : Token}
    (tokens : List Token) (h : token ≠ .question) :
    readOperators sub power (fuel + 1) left (token :: tokens) =
      match infix? token with
      | none => .ok (left, token :: tokens)
      | some (operator, own) =>
        if own < power then .ok (left, token :: tokens)
        else sub (own + 1) tokens >>= fun (right, rest) ↦
          readOperators sub power fuel (.binary operator left right) rest := by
  exact readOperators.eq_2 _ _ _ _ _ _ h

/-- What the loop along operators can do at a token: it stops, or it goes on behind a conditional or
behind the right operand of an operator. -/
theorem readOperators_cases {power fuel : Nat} {left e : Expression} {token : Token}
    {tokens rest : List Token}
    (h : readOperators sub power (fuel + 1) left (token :: tokens) = .ok (e, rest)) :
    (Ends power (token :: tokens) ∧ e = left ∧ rest = token :: tokens) ∨
      (token = .question ∧ power ≤ conditionalPower ∧ ∃ whenTrue whenFalse middle behind,
        sub 0 tokens = .ok (whenTrue, .colon :: middle) ∧
        sub conditionalPower middle = .ok (whenFalse, behind) ∧
        readOperators sub power fuel (.conditional left whenTrue whenFalse) behind
          = .ok (e, rest)) ∨
      ∃ operator own right behind, infix? token = some (operator, own) ∧
        power? token = some own ∧ power ≤ own ∧ sub (own + 1) tokens = .ok (right, behind) ∧
        readOperators sub power fuel (.binary operator left right) behind = .ok (e, rest) := by
  by_cases hq : token = .question
  · subst hq
    rw [readOperators] at h
    by_cases hlt : conditionalPower < power
    · rw [if_pos hlt] at h
      cases h
      refine Or.inl ⟨?_, rfl, rfl⟩
      rw [ends_cons]
      rintro _ ⟨⟩
      exact hlt
    · rw [if_neg hlt] at h
      obtain ⟨⟨whenTrue, colon⟩, htrue, hcolon⟩ := bind_eq_ok_iff.mp h
      obtain ⟨middle, hmiddle, hmore⟩ := bind_eq_ok_iff.mp hcolon
      cases require_eq_ok_iff.mp hmiddle
      obtain ⟨⟨whenFalse, behind⟩, hfalse, hloop⟩ := bind_eq_ok_iff.mp hmore
      exact Or.inr (Or.inl ⟨rfl, Nat.not_lt.mp hlt, whenTrue, whenFalse, middle, behind, htrue,
        hfalse, hloop⟩)
  · rw [readOperators_cons _ hq] at h
    have hpower? := power?_of_ne_question hq
    cases hfound : infix? token with
    | none =>
      rw [hfound] at h hpower?
      cases h
      refine Or.inl ⟨?_, rfl, rfl⟩
      rw [ends_cons, hpower?]
      exact nofun
    | some found =>
      obtain ⟨operator, own⟩ := found
      rw [hfound] at h hpower?
      simp only at h
      by_cases hlt : own < power
      · rw [if_pos hlt] at h
        cases h
        refine Or.inl ⟨?_, rfl, rfl⟩
        rw [ends_cons, hpower?]
        rintro _ ⟨⟩
        exact hlt
      · rw [if_neg hlt] at h
        obtain ⟨⟨right, behind⟩, hread, hloop⟩ := bind_eq_ok_iff.mp h
        exact Or.inr (Or.inr ⟨operator, own, right, behind, rfl, hpower?, Nat.not_lt.mp hlt, hread,
          hloop⟩)

/-- The loop along operators. What is read so far is of some level, and no operator that comes next
is tighter than that. -/
theorem readOperators_sound (hsub : Sound sub) {power fuel : Nat} {left e : Expression}
    {before tokens rest : List Token} {level : Level} (hfuel : tokens.length ≤ fuel)
    (hpower : (levelOf power).power ≤ level.power)
    (hleft : Derives (.expression level left) before) (hends : Ends level.bound tokens)
    (h : readOperators sub power fuel left tokens = .ok (e, rest)) :
    ∃ ts, tokens = ts ++ rest ∧ Derives (.expression (levelOf power) e) (before ++ ts) ∧
      Ends power rest := by
  induction fuel generalizing left before tokens level with
  | zero =>
    cases List.length_eq_zero_iff.mp (Nat.le_zero.mp hfuel)
    cases h
    exact ⟨[], rfl, by simpa using hleft.loosen hpower, ends_nil _⟩
  | succ fuel ih =>
    rcases tokens with _ | ⟨token, tokens⟩
    · cases h
      exact ⟨[], rfl, by simpa using hleft.loosen hpower, ends_nil _⟩
    rw [List.length_cons, Nat.add_le_add_iff_right] at hfuel
    rw [ends_cons] at hends
    rcases readOperators_cases h with ⟨hstop, rfl, rfl⟩ |
      ⟨rfl, hle, whenTrue, whenFalse, middle, behind, hread, hread', hloop⟩ |
      ⟨operator, own, right, behind, hfound, hpower?, hle, hread, hloop⟩
    · exact ⟨[], rfl, by simpa using hleft.loosen hpower, hstop⟩
    · have hcondition := hleft.loosen (Level.power_either_le (hends _ rfl))
      obtain ⟨ts, rfl, htrue, -⟩ := hsub hread
      obtain ⟨fs, rfl, hfalse, hends'⟩ := hsub hread'
      have hleft' : Derives (.expression .conditional (.conditional left whenTrue whenFalse))
          (before ++ .question :: (ts ++ .colon :: fs)) := .conditional hcondition htrue hfalse
      have hpower' : (levelOf power).power ≤ Level.conditional.power := power_levelOf_le hle
      obtain ⟨us, rfl, he, hrest⟩ := ih
        (by simp only [List.length_append, List.length_cons] at hfuel; omega)
        hpower' hleft' hends' hloop
      exact ⟨.question :: (ts ++ .colon :: (fs ++ us)), by simp, by simpa using he, hrest⟩
    · -- The operator is of a level that the left operand, read so far, is of as well.
      obtain ⟨level', hown, rfl⟩ := infix?_eq_some_iff.mp hfound
      have hle' : level'.power ≤ level.power :=
        Nat.le_of_lt_succ (Nat.lt_of_lt_of_le (hends _ hpower?) level.bound_le)
      obtain ⟨rs, rfl, hright, hends'⟩ := hsub hread
      rw [levelOf_succ_power hown] at hright
      rw [← Level.bound_of_operator? hown] at hends'
      have hleft' : Derives (.expression level' (.binary operator left right))
          (before ++ token :: rs) := .binary hown (hleft.loosen hle') hright
      obtain ⟨us, rfl, he, hrest⟩ := ih (by rw [List.length_append] at hfuel; omega)
        (power_levelOf_le hle) hleft' hends' hloop
      exact ⟨token :: (rs ++ us), by simp, by simpa using he, hrest⟩

/-- **What is read is derived**, with any number of levels. -/
theorem readExpression_sound (levels : Nat) : Sound (readExpression levels) := by
  induction levels with
  | zero => exact fun h ↦ nomatch h
  | succ levels ih =>
    intro power tokens rest e h
    obtain ⟨⟨operand, behind⟩, hread, hloop⟩ := bind_eq_ok_iff.mp h
    obtain ⟨os, rfl, hoperand⟩ := readOperand_sound ih hread
    have hends : Ends Level.sign.bound behind :=
      (ends_operandPower behind).mono Level.sign.power_le_bound
    obtain ⟨ts, rfl, he, hrest⟩ := readOperators_sound ih (Nat.le_refl _)
      (power_levelOf_le_sign power) hoperand hends hloop
    exact ⟨os ++ ts, (List.append_assoc ..).symm, he, hrest⟩

end DataOutline.Expression
