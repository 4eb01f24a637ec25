import DataOutline.Proofs.Expression.Completeness

/-!
# How a reader came to its result

For every function of the reader, what it can have done to succeed: which token it found, what it
had read by the reader of the next level or by another function, and what was left after that. What
holds of everything that is read is shown along these cases.
-/

namespace DataOutline.Expression

variable {sub : Reader} {tokens rest : List Token} {e : Expression}

theorem readItems_cases {closing : Token} {fuel : Nat} {es : List Expression}
    (h : readItems sub closing (fuel + 1) tokens = .ok (es, rest)) :
    (tokens = closing :: rest ∧ es = []) ∨
      tokens.head? ≠ some closing ∧ ∃ item behind, sub 0 tokens = .ok (item, behind) ∧
        ((behind = closing :: rest ∧ es = [item]) ∨
          ∃ middle more, behind = .comma :: middle ∧
            readItems sub closing fuel middle = .ok (more, rest) ∧ es = item :: more) := by
  rw [readItems] at h
  split at h
  · next hclose =>
    cases h
    exact Or.inl ⟨List.eq_cons_of_mem_head? hclose, rfl⟩
  · next hopen =>
    obtain ⟨⟨item, behind⟩, hread, hmore⟩ := bind_eq_ok_iff.mp h
    refine Or.inr ⟨hopen, item, behind, hread, ?_⟩
    simp only at hmore
    split at hmore
    · obtain ⟨⟨more, rest⟩, hitems, ⟨⟩⟩ := bind_eq_ok_iff.mp hmore
      exact Or.inr ⟨_, more, rfl, hitems, rfl⟩
    · obtain ⟨rest, hrest, ⟨⟩⟩ := bind_eq_ok_iff.mp hmore
      exact Or.inl ⟨require_eq_ok_iff.mp hrest, rfl⟩

theorem readEntries_cases {fuel : Nat} {es : List (String × Expression)}
    (h : readEntries sub (fuel + 1) tokens = .ok (es, rest)) :
    (tokens = .closeBrace :: rest ∧ es = []) ∨
      ∃ token name middle value behind, tokens = token :: middle ∧ NamesEntry token name ∧
        readEntryValue sub name middle = .ok (value, behind) ∧
        ((behind = .closeBrace :: rest ∧ es = [(name, value)]) ∨
          ∃ middle more, behind = .comma :: middle ∧
            readEntries sub fuel middle = .ok (more, rest) ∧ es = (name, value) :: more) := by
  rcases tokens with _ | ⟨token, tokens⟩
  · exact nomatch h
  by_cases hclose : token = .closeBrace
  · subst hclose
    cases h
    exact Or.inl ⟨rfl, rfl⟩
  · rw [readEntries_cons _ hclose] at h
    cases hname : entryName? token with
    | none =>
      rw [hname] at h
      exact nomatch h
    | some name =>
      rw [hname] at h
      obtain ⟨⟨value, behind⟩, hread, hmore⟩ := bind_eq_ok_iff.mp h
      refine Or.inr ⟨token, name, tokens, value, behind, rfl, entryName?_eq_some_iff.mp hname,
        hread, ?_⟩
      simp only at hmore
      split at hmore
      · obtain ⟨⟨more, rest⟩, hentries, ⟨⟩⟩ := bind_eq_ok_iff.mp hmore
        exact Or.inr ⟨_, more, rfl, hentries, rfl⟩
      · obtain ⟨rest, hrest, ⟨⟩⟩ := bind_eq_ok_iff.mp hmore
        exact Or.inl ⟨require_eq_ok_iff.mp hrest, rfl⟩

theorem readSuffixes_cases {fuel : Nat} {target : Expression}
    (h : readSuffixes sub (fuel + 1) target tokens = .ok (e, rest)) :
    (NoSuffix tokens ∧ e = target ∧ rest = tokens) ∨
      (∃ token name more, tokens = .dot :: token :: more ∧ NamesProperty token name ∧
        readSuffixes sub fuel (.member target name) more = .ok (e, rest)) ∨
      (∃ place middle more, tokens = .openBracket :: middle ∧
        sub 0 middle = .ok (place, .closeBracket :: more) ∧
        readSuffixes sub fuel (.index target place) more = .ok (e, rest)) ∨
      ∃ arguments middle more, tokens = .openParen :: middle ∧
        readItems sub .closeParen (middle.length + 1) middle = .ok (arguments, more) ∧
        readSuffixes sub fuel (.call target arguments) more = .ok (e, rest) := by
  by_cases hstop : NoSuffix tokens
  · rw [readSuffixes_stop hstop] at h
    cases h
    exact Or.inl ⟨hstop, rfl, rfl⟩
  rcases tokens with _ | ⟨token, tokens⟩
  · refine absurd ?_ hstop
    rintro _ ⟨⟩
  cases token with
  | dot =>
    rcases tokens with _ | ⟨token, tokens⟩
    · cases h
    rw [readSuffixes, List.head?_cons, Option.bind_some] at h
    cases hname : propertyName? token with
    | none =>
      rw [hname] at h
      cases h
    | some name =>
      rw [hname] at h
      exact Or.inr (Or.inl ⟨token, name, tokens, rfl, propertyName?_eq_some_iff.mp hname, h⟩)
  | openBracket =>
    obtain ⟨⟨place, behind⟩, hread, hclose⟩ := bind_eq_ok_iff.mp h
    obtain ⟨more, hmore, hloop⟩ := bind_eq_ok_iff.mp hclose
    rw [require_eq_ok_iff.mp hmore] at hread
    exact Or.inr (Or.inr (Or.inl ⟨place, tokens, more, rfl, hread, hloop⟩))
  | openParen =>
    obtain ⟨⟨arguments, more⟩, hread, hloop⟩ := bind_eq_ok_iff.mp h
    exact Or.inr (Or.inr (Or.inr ⟨arguments, tokens, more, rfl, hread, hloop⟩))
  | _ =>
    refine absurd ?_ hstop
    rintro _ ⟨⟩
    simp

theorem readPrimary_cases {token : Token} (h : readPrimary sub token tokens = .ok (e, rest)) :
    (literal? token = some e ∧ rest = tokens) ∨
      (token = .openParen ∧ sub 0 tokens = .ok (e, .closeParen :: rest)) ∨
      (token = .openBracket ∧ ∃ items,
        readItems sub .closeBracket (tokens.length + 1) tokens = .ok (items, rest) ∧
        e = .array items) ∨
      (token = .openBrace ∧ ∃ entries,
        readEntries sub (tokens.length + 1) tokens = .ok (entries, rest) ∧
          e = .object entries) := by
  cases token with
  | number _ | string _ | identifier _ | trueWord | falseWord | nullWord =>
    cases h
    exact Or.inl ⟨rfl, rfl⟩
  | openParen =>
    obtain ⟨⟨inner, behind⟩, hread, hclose⟩ := bind_eq_ok_iff.mp h
    obtain ⟨rest, hrest, ⟨⟩⟩ := bind_eq_ok_iff.mp hclose
    rw [require_eq_ok_iff.mp hrest] at hread
    exact Or.inr (Or.inl ⟨rfl, hread⟩)
  | openBracket =>
    obtain ⟨⟨items, rest⟩, hread, ⟨⟩⟩ := bind_eq_ok_iff.mp h
    exact Or.inr (Or.inr (Or.inl ⟨rfl, items, hread, rfl⟩))
  | openBrace =>
    obtain ⟨⟨entries, rest⟩, hread, ⟨⟩⟩ := bind_eq_ok_iff.mp h
    exact Or.inr (Or.inr (Or.inr ⟨rfl, entries, hread, rfl⟩))
  | _ => exact nomatch h

theorem readOperand_cases (h : readOperand sub tokens = .ok (e, rest)) :
    (∃ token operator middle operand, tokens = token :: middle ∧
        ((token = .bang ∧ operator = .not) ∨ (token = .minus ∧ operator = .negate)) ∧
        sub operandPower middle = .ok (operand, rest) ∧ e = .unary operator operand) ∨
      (∃ middle, tokens = .plus :: middle ∧ sub operandPower middle = .ok (e, rest)) ∨
      ∃ token middle primary behind, tokens = token :: middle ∧
        (token ≠ .bang ∧ token ≠ .minus ∧ token ≠ .plus) ∧
        readPrimary sub token middle = .ok (primary, behind) ∧
        readSuffixes sub behind.length primary behind = .ok (e, rest) := by
  unfold readOperand at h
  split at h
  · exact nomatch h
  · obtain ⟨⟨operand, rest⟩, hread, ⟨⟩⟩ := bind_eq_ok_iff.mp h
    exact Or.inl ⟨.bang, .not, _, operand, rfl, Or.inl ⟨rfl, rfl⟩, hread, rfl⟩
  · obtain ⟨⟨operand, rest⟩, hread, ⟨⟩⟩ := bind_eq_ok_iff.mp h
    exact Or.inl ⟨.minus, .negate, _, operand, rfl, Or.inr ⟨rfl, rfl⟩, hread, rfl⟩
  · exact Or.inr (Or.inl ⟨_, rfl, h⟩)
  · next token middle hbang hminus hplus =>
    obtain ⟨⟨primary, behind⟩, hread, hmore⟩ := bind_eq_ok_iff.mp h
    exact Or.inr (Or.inr ⟨token, middle, primary, behind, rfl, ⟨hbang, hminus, hplus⟩, hread,
      hmore⟩)

end DataOutline.Expression
