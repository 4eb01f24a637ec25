import DataOutline.Proofs.Expression.Soundness

/-!
# What is derived is read

A left operand of a level is itself a phrase of that level, but the reader does not call itself for
it: it has read it when its loop comes to the operator. So what is shown of a phrase is not only
that it can be read, but that the loop which is at work at its start comes to its end with the
phrase in its hand, whatever follows that is no part of it. Levels may run out on the way, though
not when there are more of them than tokens.
-/

namespace DataOutline.Expression

/-! ## Results, unless levels run out -/

section Yields

variable {α β : Type} {deep deep' : Prop} {r s t : Except RunError α}

/-- A result is the expected one, or there were too few levels for it, which is possible only
if `deep`. -/
def Yields (deep : Prop) (r expected : Except RunError α) : Prop :=
  r = expected ∨ deep ∧ r = .error .tooDeep

theorem Yields.refl (deep : Prop) (r : Except RunError α) : Yields deep r r := Or.inl rfl

theorem Yields.mono (h : Yields deep r s) (hdeep : deep → deep') : Yields deep' r s :=
  h.imp_right fun h ↦ ⟨hdeep h.1, h.2⟩

theorem Yields.trans (h : Yields deep r s) (h' : Yields deep s t) : Yields deep r t := by
  rcases h with rfl | h
  · exact h'
  · exact Or.inr h

theorem Yields.bind {a : α} {k : α → Except RunError β} {expected : Except RunError β}
    (h : Yields deep r (.ok a)) (h' : Yields deep (k a) expected) :
    Yields deep (r >>= k) expected := by
  rcases h with rfl | ⟨hdeep, rfl⟩
  · exact h'
  · exact Or.inr ⟨hdeep, rfl⟩

end Yields

theorem Yields.require (deep : Prop) (expected : Token) (rest : List Token) :
    Yields deep (require expected (expected :: rest)) (.ok rest) :=
  Or.inl (require_self _ _)

/-! ## What may follow -/

/-- Whether no member access, index or call comes next. -/
def NoSuffix (rest : List Token) : Prop :=
  ∀ token ∈ rest.head?, token ≠ .dot ∧ token ≠ .openBracket ∧ token ≠ .openParen

/-- The tokens that can stand behind an expression that another one holds in brackets. -/
inductive Delimits : Token → Prop
  | colon : Delimits .colon
  | comma : Delimits .comma
  | closeParen : Delimits .closeParen
  | closeBracket : Delimits .closeBracket
  | closeBrace : Delimits .closeBrace

theorem Delimits.noSuffix {token : Token} (h : Delimits token) (rest : List Token) :
    NoSuffix (token :: rest) := by
  rintro _ ⟨⟩
  cases h <;> exact ⟨nofun, nofun, nofun⟩

theorem Delimits.ends {token : Token} (h : Delimits token) (power : Nat) (rest : List Token) :
    Ends power (token :: rest) := by
  rw [ends_cons]
  cases h <;> exact nofun

theorem noSuffix_of_power? {token : Token} {own : Nat} (h : power? token = some own)
    (rest : List Token) : NoSuffix (token :: rest) := by
  rintro _ ⟨⟩
  refine ⟨?_, ?_, ?_⟩ <;> rintro rfl <;> exact nomatch h

variable {sub : Reader}

theorem readSuffixes_stop {rest : List Token} (h : NoSuffix rest) (fuel : Nat) (e : Expression) :
    readSuffixes sub fuel e rest = .ok (e, rest) := by
  rw [readSuffixes.eq_4]
  · rintro _ _ _ rfl
    exact (h _ rfl).1 rfl
  · rintro _ _ _ rfl
    exact (h _ rfl).2.1 rfl
  · rintro _ _ _ rfl
    exact (h _ rfl).2.2 rfl

theorem readOperators_stop {power : Nat} {rest : List Token} (h : Ends power rest) (fuel : Nat)
    (e : Expression) : readOperators sub power fuel e rest = .ok (e, rest) := by
  rcases fuel with _ | fuel
  · rfl
  rcases rest with _ | ⟨token, rest⟩
  · rfl
  rw [ends_cons] at h
  by_cases hq : token = .question
  · subst hq
    rw [readOperators, if_pos (h _ rfl)]
  · rw [readOperators_cons _ hq]
    rw [power?_of_ne_question hq] at h
    cases hfound : infix? token with
    | none => rfl
    | some found =>
      rw [hfound] at h
      exact if_pos (h _ rfl)

theorem Derives.exists_first {level : Level} {e : Expression} {ts : List Token}
    (h : Derives (.expression level e) ts) :
    ∃ token us, ts = token :: us ∧ token ≠ .closeParen ∧ token ≠ .closeBracket := by
  generalize hphrase : Phrase.expression level e = phrase at h
  induction h generalizing level e with
  | lift _ ih => exact ih rfl
  | conditional _ _ _ ih _ _ | binary _ _ _ ih _ | member _ _ ih | index _ _ ih _
  | call _ _ ih _ =>
    obtain ⟨token, us, rfl, hfirst⟩ := ih rfl
    exact ⟨token, _, rfl, hfirst⟩
  | negate | not | plus | group | array | object => exact ⟨_, _, rfl, nofun, nofun⟩
  | @literal token _ is =>
    refine ⟨token, [], rfl, ?_, ?_⟩ <;> rintro rfl <;> exact nomatch is
  | _ => exact nomatch hphrase

theorem Derives.head?_append_ne {level : Level} {e : Expression} {ts : List Token}
    {closing : Token} (h : Derives (.expression level e) ts)
    (hclosing : closing = .closeParen ∨ closing = .closeBracket) (rest : List Token) :
    (ts ++ rest).head? ≠ some closing := by
  obtain ⟨first, us, rfl, hparen, hbracket⟩ := h.exists_first
  rintro ⟨⟩
  exact hclosing.elim hparen hbracket

/-! ## What reading a phrase amounts to -/

/-- A phrase of a level is read by any reader whose power is not greater, and not too deep if it
has more levels than there are tokens. -/
def Reads (levels : Nat) (level : Level) (e : Expression) (ts : List Token) : Prop :=
  ∀ (power : Nat) (rest : List Token), power ≤ level.power → NoSuffix rest → Ends power rest →
    Yields (levels ≤ ts.length) (readExpression levels power (ts ++ rest)) (.ok (e, rest))

/-- The loop along operators comes to the end of a phrase with the phrase as its left operand. -/
def ReadsOperators (levels : Nat) (level : Level) (e : Expression) (ts : List Token) : Prop :=
  ∀ (power : Nat) (rest : List Token), power ≤ level.power → NoSuffix rest →
    Ends level.bound rest → ∃ fuel, rest.length ≤ fuel ∧
      Yields (levels < ts.length) (readExpression (levels + 1) power (ts ++ rest))
        (readOperators (readExpression levels) power fuel e rest)

/-- A phrase is read as an operand. -/
def ReadsOperand (levels : Nat) (e : Expression) (ts : List Token) : Prop :=
  ∀ rest : List Token, NoSuffix rest →
    Yields (levels < ts.length) (readOperand (readExpression levels) (ts ++ rest)) (.ok (e, rest))

/-- The loop along suffixes comes to the end of a phrase with the phrase as its target. -/
def ReadsSuffixes (levels : Nat) (e : Expression) (ts : List Token) : Prop :=
  ∀ rest : List Token, ∃ fuel, rest.length ≤ fuel ∧
    Yields (levels < ts.length) (readOperand (readExpression levels) (ts ++ rest))
      (readSuffixes (readExpression levels) fuel e rest)

/-- What holds of a phrase when levels are left. -/
def Completes (levels : Nat) : Phrase → List Token → Prop
  | .expression .suffix e, ts | .expression .primary e, ts => ReadsSuffixes levels e ts
  | .expression .sign e, ts => ReadsOperand levels e ts
  | .expression level e, ts => ReadsOperators levels level e ts
  | .items es, ts => ∀ (closing : Token) (fuel : Nat) (rest : List Token),
    closing = .closeParen ∨ closing = .closeBracket → ts.length < fuel →
      Yields (levels ≤ ts.length) (readItems (readExpression levels) closing fuel
        (ts ++ closing :: rest)) (.ok (es, rest))
  | .entry name value, ts => ∃ token us, ts = token :: us ∧ NamesEntry token name ∧
    ∀ (next : Token) (rest : List Token), Delimits next → next ≠ .colon →
      Yields (levels ≤ ts.length) (readEntryValue (readExpression levels) name (us ++ next :: rest))
        (.ok (value, next :: rest))
  | .entries es, ts => ∀ (fuel : Nat) (rest : List Token), ts.length < fuel →
    Yields (levels ≤ ts.length) (readEntries (readExpression levels) fuel
      (ts ++ .closeBrace :: rest)) (.ok (es, rest))

/-! ## From one level to the next -/

variable {levels : Nat} {level : Level} {e : Expression} {ts : List Token}

theorem ReadsSuffixes.readsOperand (h : ReadsSuffixes levels e ts) : ReadsOperand levels e ts := by
  intro rest hsuffix
  obtain ⟨fuel, -, hread⟩ := h rest
  rwa [readSuffixes_stop hsuffix] at hread

theorem ReadsOperand.readsOperators (h : ReadsOperand levels e ts) :
    ReadsOperators levels level e ts := by
  intro power rest _ hsuffix _
  refine ⟨rest.length, Nat.le_refl _, ?_⟩
  rw [readExpression]
  exact (h rest hsuffix).bind (.refl _ _)

theorem ReadsOperators.lift (h : ReadsOperators levels level.tighter e ts) :
    ReadsOperators levels level e ts := by
  intro power rest hpower hsuffix hends
  have hle : level.power ≤ level.tighter.power := by cases level <;> decide
  exact h power rest (Nat.le_trans hpower hle) hsuffix (hends.mono level.bound_tighter_le)

theorem Completes.readsOperators (h : Completes levels (.expression level e) ts) :
    ReadsOperators levels level e ts := by
  cases level with
  | suffix | primary => exact ReadsSuffixes.readsOperand h |>.readsOperators
  | sign => exact ReadsOperand.readsOperators h
  | _ => exact h

theorem reads_of_completes (h : ∀ levels, Completes levels (.expression level e) ts) :
    Reads levels level e ts := by
  intro power rest hpower hsuffix hends
  -- The phrase starts a loop of its own, one level down. Without a level nothing is read.
  cases levels with
  | zero => exact Or.inr ⟨Nat.zero_le _, rfl⟩
  | succ levels =>
    obtain ⟨fuel, -, hread⟩ := (h levels).readsOperators power rest hpower hsuffix
      (hends.mono (Nat.le_trans hpower level.power_le_bound))
    rwa [readOperators_stop hends] at hread

/-! ## Operators -/

theorem ReadsOperators.binary {token : Token} {operator : BinaryOperator} {left right : Expression}
    {ls rs : List Token} (own : level.operator? token = some operator)
    (first : ReadsOperators levels level left ls) (second : Reads levels level.tighter right rs) :
    ReadsOperators levels level (.binary operator left right) (ls ++ token :: rs) := by
  intro power rest hpower hsuffix hends
  have hbound := Level.bound_of_operator? own
  have hfound : infix? token = some (operator, level.power) :=
    infix?_eq_some_iff.mpr ⟨level, own, rfl⟩
  have hq : token ≠ .question := by
    rintro rfl
    exact nomatch hfound
  have hpower? : power? token = some level.power := by
    rw [power?_of_ne_question hq, hfound]
    rfl
  have hends' : Ends level.bound (token :: (rs ++ rest)) := by
    rw [ends_cons, hpower?, hbound]
    rintro _ ⟨⟩
    exact Nat.lt_succ_self _
  -- The loop comes to the operator with the left operand, and it has a turn left for it.
  obtain ⟨_ | fuel, hfuel, hread⟩ := first power (token :: (rs ++ rest)) hpower
    (noSuffix_of_power? hpower? _) hends'
  · exact absurd hfuel (Nat.not_succ_le_zero _)
  have hright := second (level.power + 1) rest (Level.power_lt_tighter own) hsuffix (hbound ▸ hends)
  simp only [List.length_append, List.length_cons] at hfuel ⊢
  refine ⟨fuel, by omega, ?_⟩
  rw [List.append_assoc, List.cons_append]
  refine (hread.mono fun h ↦ by omega).trans ?_
  rw [readOperators_cons _ hq, hfound]
  simp only [if_neg (Nat.not_lt.mpr hpower)]
  exact (hright.mono fun h ↦ by omega).bind (.refl _ _)

theorem ReadsOperators.conditional {condition whenTrue whenFalse : Expression}
    {cs ts fs : List Token} (first : ReadsOperators levels .either condition cs)
    (second : Reads levels .conditional whenTrue ts)
    (third : Reads levels .conditional whenFalse fs) :
    ReadsOperators levels .conditional (.conditional condition whenTrue whenFalse)
      (cs ++ .question :: (ts ++ .colon :: fs)) := by
  intro power rest hpower hsuffix hends
  have hends' : Ends Level.either.bound (.question :: (ts ++ .colon :: (fs ++ rest))) := by
    rw [ends_cons]
    rintro _ ⟨⟩
    decide
  obtain ⟨_ | fuel, hfuel, hread⟩ := first power (.question :: (ts ++ .colon :: (fs ++ rest)))
    (Nat.le_trans hpower (by decide)) (noSuffix_of_power? rfl _) hends'
  · exact absurd hfuel (Nat.not_succ_le_zero _)
  have htrue := second 0 (.colon :: (fs ++ rest)) (Nat.zero_le _) (Delimits.colon.noSuffix _)
    (Delimits.colon.ends _ _)
  have hfalse := third conditionalPower rest (Nat.le_refl _) hsuffix hends
  simp only [List.length_append, List.length_cons] at hfuel ⊢
  refine ⟨fuel, by omega, ?_⟩
  simp only [List.append_assoc, List.cons_append]
  refine (hread.mono fun h ↦ by omega).trans ?_
  have hnot : ¬conditionalPower < power := Nat.not_lt.mpr hpower
  rw [readOperators, if_neg hnot]
  refine (htrue.mono fun h ↦ by omega).bind ((Yields.require _ _ _).bind ?_)
  exact (hfalse.mono fun h ↦ by omega).bind (.refl _ _)

/-! ## Operands -/

theorem ReadsOperand.negate (h : Reads levels .sign e ts) :
    ReadsOperand levels (.unary .negate e) (.minus :: ts) := by
  intro rest hsuffix
  have hread := h operandPower rest (Nat.le_refl _) hsuffix (ends_operandPower rest)
  exact (hread.mono Nat.lt_succ_of_le).bind (.refl _ _)

theorem ReadsOperand.not (h : Reads levels .sign e ts) :
    ReadsOperand levels (.unary .not e) (.bang :: ts) := by
  intro rest hsuffix
  have hread := h operandPower rest (Nat.le_refl _) hsuffix (ends_operandPower rest)
  exact (hread.mono Nat.lt_succ_of_le).bind (.refl _ _)

theorem ReadsOperand.plus (h : Reads levels .sign e ts) : ReadsOperand levels e (.plus :: ts) := by
  intro rest hsuffix
  have hread := h operandPower rest (Nat.le_refl _) hsuffix (ends_operandPower rest)
  exact hread.mono Nat.lt_succ_of_le

theorem ReadsSuffixes.member {token : Token} {name : String} (first : ReadsSuffixes levels e ts)
    (names : NamesProperty token name) :
    ReadsSuffixes levels (.member e name) (ts ++ [.dot, token]) := by
  intro rest
  obtain ⟨_ | fuel, hfuel, hread⟩ := first (.dot :: token :: rest)
  · exact absurd hfuel (Nat.not_succ_le_zero _)
  simp only [List.length_append, List.length_cons] at hfuel ⊢
  refine ⟨fuel, by omega, ?_⟩
  rw [List.append_assoc]
  refine (hread.mono fun h ↦ by omega).trans ?_
  rw [readSuffixes, List.head?_cons, Option.bind_some, propertyName?_eq_some_iff.mpr names]
  exact .refl _ _

theorem ReadsSuffixes.index {place : Expression} {ps : List Token}
    (first : ReadsSuffixes levels e ts) (second : Reads levels .conditional place ps) :
    ReadsSuffixes levels (.index e place) (ts ++ .openBracket :: (ps ++ [.closeBracket])) := by
  intro rest
  obtain ⟨_ | fuel, hfuel, hread⟩ := first (.openBracket :: (ps ++ .closeBracket :: rest))
  · exact absurd hfuel (Nat.not_succ_le_zero _)
  have hplace := second 0 (.closeBracket :: rest) (Nat.zero_le _)
    (Delimits.closeBracket.noSuffix _) (Delimits.closeBracket.ends _ _)
  simp only [List.length_append, List.length_cons] at hfuel ⊢
  refine ⟨fuel, by omega, ?_⟩
  simp only [List.append_assoc, List.cons_append, List.nil_append]
  refine (hread.mono fun h ↦ by omega).trans ?_
  rw [readSuffixes]
  exact (hplace.mono fun h ↦ by omega).bind ((Yields.require _ _ _).bind (.refl _ _))

theorem ReadsSuffixes.call {arguments : List Expression} {as : List Token}
    (first : ReadsSuffixes levels e ts) (second : Completes levels (.items arguments) as) :
    ReadsSuffixes levels (.call e arguments) (ts ++ .openParen :: (as ++ [.closeParen])) := by
  intro rest
  obtain ⟨_ | fuel, hfuel, hread⟩ := first (.openParen :: (as ++ .closeParen :: rest))
  · exact absurd hfuel (Nat.not_succ_le_zero _)
  have hitems := second .closeParen ((as ++ .closeParen :: rest).length + 1) rest (Or.inl rfl)
    (by rw [List.length_append]; omega)
  simp only [List.length_append, List.length_cons] at hfuel hitems ⊢
  refine ⟨fuel, by omega, ?_⟩
  simp only [List.append_assoc, List.cons_append, List.nil_append]
  refine (hread.mono fun h ↦ by omega).trans ?_
  rw [readSuffixes]
  simp only [List.length_append, List.length_cons]
  exact (hitems.mono fun h ↦ by omega).bind (.refl _ _)

/-- A primary is read, and the loop along suffixes starts behind it. -/
theorem readsSuffixes_of_readPrimary {token : Token}
    (h : ∀ rest, Yields (levels < (token :: ts).length)
      (readPrimary (readExpression levels) token (ts ++ rest)) (.ok (e, rest)))
    (hbang : token ≠ .bang) (hminus : token ≠ .minus) (hplus : token ≠ .plus) :
    ReadsSuffixes levels e (token :: ts) := by
  intro rest
  refine ⟨rest.length, Nat.le_refl _, ?_⟩
  rw [List.cons_append, readOperand.eq_5 _ _ _ hbang hminus hplus]
  exact (h rest).bind (.refl _ _)

theorem ReadsSuffixes.literal {token : Token} (is : literal? token = some e) :
    ReadsSuffixes levels e [token] := by
  cases token with
  | number _ | string _ | identifier _ | trueWord | falseWord | nullWord =>
    cases is
    exact readsSuffixes_of_readPrimary (fun rest ↦ .refl _ _) nofun nofun nofun
  | _ => exact nomatch is

theorem ReadsSuffixes.group (h : Reads levels .conditional e ts) :
    ReadsSuffixes levels e (.openParen :: (ts ++ [.closeParen])) := by
  refine readsSuffixes_of_readPrimary (fun rest ↦ ?_) nofun nofun nofun
  have hread := h 0 (.closeParen :: rest) (Nat.zero_le _) (Delimits.closeParen.noSuffix _)
    (Delimits.closeParen.ends _ _)
  rw [List.append_assoc, List.length_cons, List.length_append]
  exact (hread.mono fun h ↦ by omega).bind ((Yields.require _ _ _).bind (.refl _ _))

theorem ReadsSuffixes.array {es : List Expression} (h : Completes levels (.items es) ts) :
    ReadsSuffixes levels (.array es) (.openBracket :: (ts ++ [.closeBracket])) := by
  refine readsSuffixes_of_readPrimary (fun rest ↦ ?_) nofun nofun nofun
  have hread := h .closeBracket ((ts ++ .closeBracket :: rest).length + 1) rest (Or.inr rfl)
    (by rw [List.length_append]; omega)
  rw [List.append_assoc, List.length_cons, List.length_append]
  exact (hread.mono fun h ↦ by omega).bind (.refl _ _)

theorem ReadsSuffixes.object {es : List (String × Expression)}
    (h : Completes levels (.entries es) ts) :
    ReadsSuffixes levels (.object es) (.openBrace :: (ts ++ [.closeBrace])) := by
  refine readsSuffixes_of_readPrimary (fun rest ↦ ?_) nofun nofun nofun
  have hread := h ((ts ++ .closeBrace :: rest).length + 1) rest
    (by rw [List.length_append]; omega)
  rw [List.append_assoc, List.length_cons, List.length_append]
  exact (hread.mono fun h ↦ by omega).bind (.refl _ _)

/-! ## Lists -/

theorem completes_noItem : Completes levels (.items []) [] := by
  intro closing fuel rest _ hfuel
  obtain ⟨fuel, rfl⟩ := Nat.exists_eq_succ_of_ne_zero (Nat.ne_of_gt hfuel)
  have hhead : ([] ++ closing :: rest).head? = some closing := rfl
  rw [readItems, if_pos hhead]
  exact .refl _ _

theorem completes_lastItem (hitem : Derives (.expression .conditional e) ts)
    (h : Reads levels .conditional e ts) : Completes levels (.items [e]) ts := by
  intro closing fuel rest hclosing hfuel
  obtain ⟨fuel, rfl⟩ := Nat.exists_eq_succ_of_ne_zero (Nat.ne_zero_of_lt hfuel)
  have hdelimits : Delimits closing := by rcases hclosing with rfl | rfl <;> constructor
  have hread := h 0 (closing :: rest) (Nat.zero_le _) (hdelimits.noSuffix _) (hdelimits.ends _ _)
  rw [readItems, if_neg (hitem.head?_append_ne hclosing _)]
  refine hread.bind ?_
  rcases hclosing with rfl | rfl <;> exact (Yields.require _ _ _).bind (.refl _ _)

theorem completes_consItem {es : List Expression} {us : List Token}
    (hitem : Derives (.expression .conditional e) ts) (first : Reads levels .conditional e ts)
    (second : Completes levels (.items es) us) :
    Completes levels (.items (e :: es)) (ts ++ .comma :: us) := by
  intro closing fuel rest hclosing hfuel
  obtain ⟨fuel, rfl⟩ := Nat.exists_eq_succ_of_ne_zero (Nat.ne_zero_of_lt hfuel)
  rw [List.length_append, List.length_cons] at hfuel
  have hread := first 0 (.comma :: (us ++ closing :: rest)) (Nat.zero_le _)
    (Delimits.comma.noSuffix _) (Delimits.comma.ends _ _)
  have hmore := second closing fuel rest hclosing (by omega)
  rw [readItems, if_neg (by rw [List.append_assoc]; exact hitem.head?_append_ne hclosing _),
    List.length_append, List.length_cons, List.append_assoc, List.cons_append]
  refine (hread.mono fun h ↦ by omega).bind ?_
  exact (hmore.mono fun h ↦ by omega).bind (.refl _ _)

theorem completes_pair {token : Token} {name : String} (names : NamesEntry token name)
    (h : Reads levels .conditional e ts) :
    Completes levels (.entry name e) (token :: .colon :: ts) := by
  refine ⟨token, .colon :: ts, rfl, names, fun next rest hnext _ ↦ ?_⟩
  have hread := h 0 (next :: rest) (Nat.zero_le _) (hnext.noSuffix _) (hnext.ends _ _)
  refine hread.mono fun h ↦ ?_
  simp only [List.length_cons]
  omega

theorem completes_short {token : Token} {name : String} (names : NamesEntry token name) :
    Completes levels (.entry name (.identifier name)) [token] := by
  refine ⟨token, [], rfl, names, fun next rest _ hcolon ↦ ?_⟩
  rw [List.nil_append, readEntryValue.eq_2 _ _ _ fun _ h ↦ hcolon (List.cons.inj h).1]
  exact .refl _ _

theorem NamesEntry.ne_closeBrace {token : Token} {name : String} (h : NamesEntry token name) :
    token ≠ .closeBrace := by
  cases h <;> exact nofun

theorem completes_noEntry : Completes levels (.entries []) [] := by
  intro fuel rest hfuel
  obtain ⟨fuel, rfl⟩ := Nat.exists_eq_succ_of_ne_zero (Nat.ne_of_gt hfuel)
  exact .refl _ _

theorem completes_lastEntry {name : String} (h : Completes levels (.entry name e) ts) :
    Completes levels (.entries [(name, e)]) ts := by
  intro fuel rest hfuel
  obtain ⟨fuel, rfl⟩ := Nat.exists_eq_succ_of_ne_zero (Nat.ne_zero_of_lt hfuel)
  obtain ⟨token, us, rfl, names, hread⟩ := h
  rw [List.cons_append, readEntries_cons _ names.ne_closeBrace, entryName?_eq_some_iff.mpr names]
  exact (hread .closeBrace rest .closeBrace nofun).bind ((Yields.require _ _ _).bind (.refl _ _))

theorem completes_consEntry {name : String} {es : List (String × Expression)} {us : List Token}
    (first : Completes levels (.entry name e) ts) (second : Completes levels (.entries es) us) :
    Completes levels (.entries ((name, e) :: es)) (ts ++ .comma :: us) := by
  intro fuel rest hfuel
  obtain ⟨fuel, rfl⟩ := Nat.exists_eq_succ_of_ne_zero (Nat.ne_zero_of_lt hfuel)
  rw [List.length_append, List.length_cons] at hfuel
  have hmore := second fuel rest (by omega)
  obtain ⟨token, vs, rfl, names, hread⟩ := first
  simp only [List.append_assoc, List.cons_append, List.length_append, List.length_cons] at hread ⊢
  rw [readEntries_cons _ names.ne_closeBrace, entryName?_eq_some_iff.mpr names]
  refine ((hread .comma (us ++ .closeBrace :: rest) .comma nofun).mono fun h ↦ by omega).bind ?_
  exact (hmore.mono fun h ↦ by omega).bind (.refl _ _)

/-! ## Every derivation -/

/-- **What is derived is read**: the loops of the reader come to the end of every phrase. -/
theorem Derives.completes {phrase : Phrase} (h : Derives phrase ts) :
    ∀ levels, Completes levels phrase ts := by
  induction h with
  | @lift level e ts _ ih =>
    intro levels
    cases level with
    | primary | suffix => exact ih levels
    | sign => exact ReadsSuffixes.readsOperand (ih levels)
    | product => exact ReadsOperators.lift (ih levels).readsOperators
    | _ => exact ReadsOperators.lift (ih levels)
  | conditional _ _ _ ih ih' ih'' =>
    exact fun levels ↦ .conditional (ih levels) (reads_of_completes ih') (reads_of_completes ih'')
  | @binary level token operator left right ls rs own _ _ ih ih' =>
    intro levels
    have h := ReadsOperators.binary own (ih levels).readsOperators (reads_of_completes ih')
    cases level with
    | sign | suffix | primary => exact nomatch own
    | _ => exact h
  | negate _ ih => exact fun levels ↦ .negate (reads_of_completes ih)
  | not _ ih => exact fun levels ↦ .not (reads_of_completes ih)
  | plus _ ih => exact fun levels ↦ .plus (reads_of_completes ih)
  | member _ names ih => exact fun levels ↦ .member (ih levels) names
  | index _ _ ih ih' => exact fun levels ↦ .index (ih levels) (reads_of_completes ih')
  | call _ _ ih ih' => exact fun levels ↦ .call (ih levels) (ih' levels)
  | literal is => exact fun levels ↦ .literal is
  | group _ ih => exact fun levels ↦ .group (reads_of_completes ih)
  | array _ ih => exact fun levels ↦ .array (ih levels)
  | object _ ih => exact fun levels ↦ .object (ih levels)
  | noItem => exact fun levels ↦ completes_noItem
  | lastItem h ih => exact fun levels ↦ completes_lastItem h (reads_of_completes ih)
  | consItem h _ ih ih' =>
    exact fun levels ↦ completes_consItem h (reads_of_completes ih) (ih' levels)
  | pair names _ ih => exact fun levels ↦ completes_pair names (reads_of_completes ih)
  | short names => exact fun levels ↦ completes_short names
  | noEntry => exact fun levels ↦ completes_noEntry
  | lastEntry _ ih => exact fun levels ↦ completes_lastEntry (ih levels)
  | consEntry _ _ ih ih' => exact fun levels ↦ completes_consEntry (ih levels) (ih' levels)

/-! ## The parser and the grammar -/

theorem ofTokens_sound {tokens : List Token} {e : Expression} (h : ofTokens tokens = .ok e) :
    Derives (.expression .conditional e) tokens := by
  obtain ⟨⟨e, rest⟩, hread, hend⟩ := bind_eq_ok_iff.mp h
  obtain ⟨ts, rfl, he, -⟩ := readExpression_sound levelLimit hread
  rcases rest with _ | ⟨token, rest⟩
  · cases hend
    rwa [List.append_nil]
  · exact nomatch hend

/-- Levels run out only for a text of at least as many tokens. -/
theorem ofTokens_complete {tokens : List Token} {e : Expression}
    (h : Derives (.expression .conditional e) tokens) :
    Yields (levelLimit ≤ tokens.length) (ofTokens tokens) (.ok e) := by
  have hreads : Reads levelLimit .conditional e tokens := reads_of_completes h.completes
  have hread := hreads 0 [] (Nat.zero_le _) nofun (ends_nil _)
  rw [List.append_nil] at hread
  exact hread.bind (.refl _ _)

/-- No tokens are derived as two expressions: enough levels read the one and the other. -/
theorem Derives.unique {tokens : List Token} {e e' : Expression}
    (h : Derives (.expression .conditional e) tokens)
    (h' : Derives (.expression .conditional e') tokens) : e = e' := by
  have hread : ∀ {e : Expression}, Derives (.expression .conditional e) tokens →
      readExpression (tokens.length + 1) 0 (tokens ++ []) = .ok (e, []) := by
    intro e h
    have hreads : Reads (tokens.length + 1) .conditional e tokens := reads_of_completes h.completes
    rcases hreads 0 [] (Nat.zero_le _) nofun (ends_nil _) with hread | ⟨hdeep, -⟩
    · exact hread
    · exact absurd hdeep (Nat.not_succ_le_self _)
  have hsame := (hread h).symm.trans (hread h')
  cases hsame
  rfl

/-- **The parser is the grammar.** What it accepts is derived; what is derived it accepts, unless it
is nested too deeply; and no tokens are derived as two expressions. -/
theorem ofTokens_sound_complete (tokens : List Token) :
    (∀ e, ofTokens tokens = .ok e → Derives (.expression .conditional e) tokens) ∧
      (∀ e, Derives (.expression .conditional e) tokens →
        ofTokens tokens = .ok e ∨ ofTokens tokens = .error .tooDeep) ∧
      ∀ e e', Derives (.expression .conditional e) tokens →
        Derives (.expression .conditional e') tokens → e = e' :=
  ⟨fun _ h ↦ ofTokens_sound h, fun _ h ↦ (ofTokens_complete h).imp_right And.right,
    fun _ _ h h' ↦ h.unique h'⟩

/-- Of two operators of one level the first is the inner one, and the conditional is the outermost
one. -/
theorem ofTokens_sound_complete_subtractions :
    ofTokens [.identifier "a", .minus, .identifier "b", .minus, .identifier "c", .question,
        .trueWord, .colon, .falseWord]
      = .ok (.conditional (.binary .subtract (.binary .subtract (.identifier "a") (.identifier "b"))
          (.identifier "c")) (.boolean true) (.boolean false)) ∧
      Derives (.expression .conditional
        (.conditional (.binary .subtract (.binary .subtract (.identifier "a") (.identifier "b"))
          (.identifier "c")) (.boolean true) (.boolean false)))
        [.identifier "a", .minus, .identifier "b", .minus, .identifier "c", .question,
          .trueWord, .colon, .falseWord] :=
  ⟨rfl, (ofTokens_sound_complete _).1 _ rfl⟩

end DataOutline.Expression
