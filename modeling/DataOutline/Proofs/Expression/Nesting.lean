import DataOutline.Proofs.Expression.Calls
import DataOutline.Proofs.Expression.Inversion
import DataOutline.Proofs.Expression.Tokens
import DataOutline.Proofs.Program.Blame

/-!
# The limits of the reader and of the evaluator

Reader and evaluator have the same limit on levels, but they do not count the same. The reader takes
a level for each step to an inner part. Leading parts pile up in its loops along operators and
suffixes, which take no level however often they turn. The evaluator takes a level for every step.
So what is read is nested within the limit and may still be too high to be evaluated, and then it is
so through its leading parts: a sum of many terms is an example.
-/

namespace DataOutline.Expression

/-! ## The nesting of what is read -/

/-- A reader of expressions that are nested so deep at most. -/
def Nests (n : Nat) (sub : Reader) : Prop :=
  ∀ {power : Nat} {tokens rest : List Token} {e : Expression},
    sub power tokens = .ok (e, rest) → e.nesting ≤ n

section Step

variable {sub : Reader} {n : Nat} (hsub : Nests n sub) {tokens rest : List Token} {e : Expression}
include hsub

theorem readItems_nests {closing : Token} {fuel : Nat} {es : List Expression}
    (h : readItems sub closing fuel tokens = .ok (es, rest)) : ∀ e ∈ es, e.nesting ≤ n := by
  induction fuel generalizing tokens es with
  | zero => exact nomatch h
  | succ fuel ih =>
    rcases readItems_cases h with ⟨-, rfl⟩ | ⟨-, item, behind, hread, ⟨-, rfl⟩ |
      ⟨middle, more, -, hmore, rfl⟩⟩
    · exact fun e he ↦ absurd he List.not_mem_nil
    · exact List.forall_mem_singleton.mpr (hsub hread)
    · exact List.forall_mem_cons.mpr ⟨hsub hread, ih hmore⟩

theorem readEntryValue_nests {name : String} (h : readEntryValue sub name tokens = .ok (e, rest)) :
    e.nesting ≤ n := by
  unfold readEntryValue at h
  split at h
  · exact hsub h
  · cases h
    exact (reach_eq_zero rfl).trans_le (Nat.zero_le n)

theorem readEntries_nests {fuel : Nat} {es : List (String × Expression)}
    (h : readEntries sub fuel tokens = .ok (es, rest)) : ∀ entry ∈ es, entry.2.nesting ≤ n := by
  induction fuel generalizing tokens es with
  | zero => exact nomatch h
  | succ fuel ih =>
    rcases readEntries_cases h with ⟨-, rfl⟩ | ⟨token, name, middle, value, behind, -, -, hread,
      ⟨-, rfl⟩ | ⟨middle', more, -, hmore, rfl⟩⟩
    · exact fun e he ↦ absurd he List.not_mem_nil
    · exact List.forall_mem_singleton.mpr (readEntryValue_nests hsub hread)
    · exact List.forall_mem_cons.mpr ⟨readEntryValue_nests hsub hread, ih hmore⟩

theorem readPrimary_nests {token : Token} (h : readPrimary sub token tokens = .ok (e, rest)) :
    e.nesting ≤ n + 1 := by
  rcases readPrimary_cases h with ⟨is, -⟩ | ⟨-, hread⟩ | ⟨-, items, hread, rfl⟩ |
    ⟨-, entries, hread, rfl⟩
  · have hleaf : e.branches = [] := by
      cases token with
      | number | string | identifier | trueWord | falseWord | nullWord => cases is; rfl
      | _ => exact nomatch is
    exact (reach_eq_zero hleaf).trans_le (Nat.zero_le _)
  · exact (hsub hread).trans (Nat.le_succ n)
  · have hitems := readItems_nests hsub hread
    exact nesting_le_succ (by simp [branches]) (by simpa [branches] using hitems)
  · have hentries := readEntries_nests hsub hread
    refine nesting_le_succ (by simp [branches]) ?_
    simpa [branches] using fun part name ↦ hentries (name, part)

theorem readSuffixes_nests {fuel : Nat} {target : Expression} (htarget : target.nesting ≤ n + 1)
    (h : readSuffixes sub fuel target tokens = .ok (e, rest)) : e.nesting ≤ n + 1 := by
  induction fuel generalizing target tokens with
  | zero =>
    cases h
    exact htarget
  | succ fuel ih =>
    rcases readSuffixes_cases h with ⟨-, rfl, -⟩ | ⟨token, name, more, -, -, hmore⟩ |
      ⟨place, middle, more, -, hread, hmore⟩ | ⟨arguments, middle, more, -, hread, hmore⟩
    · exact htarget
    · refine ih (nesting_le_succ ?_ ?_) hmore
      · simpa [branches] using htarget
      · simp [branches]
    · have hplace := hsub hread
      refine ih (nesting_le_succ ?_ ?_) hmore
      · simpa [branches] using htarget
      · simpa [branches] using hplace
    · have harguments := readItems_nests hsub hread
      refine ih (nesting_le_succ ?_ ?_) hmore
      · simpa [branches] using htarget
      · simpa [branches] using harguments

theorem readOperand_nests (h : readOperand sub tokens = .ok (e, rest)) : e.nesting ≤ n + 1 := by
  rcases readOperand_cases h with ⟨token, operator, middle, operand, -, -, hread, rfl⟩ |
    ⟨middle, -, hread⟩ | ⟨token, middle, primary, behind, -, -, hread, hmore⟩
  · have hoperand := hsub hread
    exact nesting_le_succ (by simp [branches]) (by simpa [branches] using hoperand)
  · exact (hsub hread).trans (Nat.le_succ n)
  · exact readSuffixes_nests hsub (readPrimary_nests hsub hread) hmore

theorem readOperators_nests {power fuel : Nat} {left : Expression} (hleft : left.nesting ≤ n + 1)
    (h : readOperators sub power fuel left tokens = .ok (e, rest)) : e.nesting ≤ n + 1 := by
  induction fuel generalizing left tokens with
  | zero =>
    cases h
    exact hleft
  | succ fuel ih =>
    rcases tokens with _ | ⟨token, tokens⟩
    · cases h
      exact hleft
    rcases readOperators_cases h with ⟨-, rfl, -⟩ |
      ⟨-, -, whenTrue, whenFalse, middle, behind, hread, hread', hmore⟩ |
      ⟨operator, own, right, behind, -, -, -, hread, hmore⟩
    · exact hleft
    · have htrue := hsub hread
      have hfalse := hsub hread'
      refine ih (nesting_le_succ ?_ ?_) hmore
      · simpa [branches] using hleft
      · simpa [branches] using ⟨htrue, hfalse⟩
    · have hright := hsub hread
      refine ih (nesting_le_succ ?_ ?_) hmore
      · simpa [branches] using hleft
      · simpa [branches] using hright

end Step

/-- **The reader's levels bound the nesting** of what it reads. -/
theorem readExpression_nests (levels : Nat) : Nests levels (readExpression levels) := by
  induction levels with
  | zero => exact fun h ↦ nomatch h
  | succ levels ih =>
    intro power tokens rest e h
    obtain ⟨⟨left, behind⟩, hread, hmore⟩ := bind_eq_ok_iff.mp h
    exact readOperators_nests ih (readOperand_nests ih hread) hmore

theorem nesting_le_of_parse {code : String} {e : Expression} (h : parse code = .ok e) :
    e.nesting ≤ levelLimit := by
  obtain ⟨tokens, -, hof⟩ := exists_tokens_of_parse h
  obtain ⟨⟨e, rest⟩, hread, hend⟩ := bind_eq_ok_iff.mp hof
  rcases rest with _ | ⟨token, rest⟩
  · cases hend
    exact readExpression_nests levelLimit hread
  · exact nomatch hend

/-! ## Sums of many terms -/

/-- A sum with one more term, an empty string. -/
def withTerm (e : Expression) : Expression := .binary .add e (.string "")

/-- The text of an empty string with so many more terms. -/
def sumText (terms : Nat) : List Char :=
  '\'' :: '\'' :: (List.replicate terms ['+', '\'', '\'']).flatten

theorem tokenize_emptyString (cs : List Char) :
    tokenize ('\'' :: '\'' :: cs) = (.string "" :: ·) <$> tokenize cs := by
  have hseparator : isSeparator '\'' = false := by decide
  rw [tokenize_cons, hseparator, firstToken, if_pos (Or.inr rfl), stringBody_quote]
  rfl

theorem tokenize_sumText (terms : Nat) :
    tokenize (sumText terms) =
      .ok (.string "" :: (List.replicate terms [Token.plus, .string ""]).flatten) := by
  have hterms : tokenize (List.replicate terms ['+', '\'', '\'']).flatten =
      .ok (List.replicate terms [Token.plus, .string ""]).flatten := by
    induction terms with
    | zero => rfl
    | succ terms ih =>
      simp only [List.replicate_succ, List.flatten_cons, List.cons_append, List.nil_append]
      rw [tokenize_plus, tokenize_emptyString, ih]
      rfl
  rw [sumText, tokenize_emptyString, hterms]
  rfl

section Terms

variable {sub : Reader} {rest : List Token}

theorem readOperand_string (h : NoSuffix rest) (s : String) :
    readOperand sub (.string s :: rest) = .ok (.string s, rest) := by
  rw [readOperand.eq_5 sub (.string s) rest (by simp) (by simp) (by simp)]
  exact readSuffixes_stop h _ _

theorem readExpression_string {power : Nat} (hsuffix : NoSuffix rest) (hends : Ends power rest)
    (levels : Nat) (s : String) :
    readExpression (levels + 1) power (.string s :: rest) = .ok (.string s, rest) := by
  rw [readExpression, readOperand_string hsuffix, ok_bind]
  exact readOperators_stop hends _ _

theorem terms_end (terms : Nat) :
    NoSuffix (List.replicate terms [Token.plus, .string ""]).flatten ∧
      Ends 13 (List.replicate terms [Token.plus, .string ""]).flatten := by
  cases terms with
  | zero => exact ⟨nofun, ends_nil _⟩
  | succ terms =>
    refine ⟨noSuffix_of_power? rfl _, ends_cons.mpr ?_⟩
    rintro _ ⟨⟩
    decide

/-- One turn of the loop for each term, and no level. -/
theorem readOperators_terms (levels terms : Nat) {fuel : Nat} (hfuel : 2 * terms ≤ fuel)
    (e : Expression) :
    readOperators (readExpression (levels + 1)) 0 fuel e
        (List.replicate terms [Token.plus, .string ""]).flatten
      = .ok (withTerm^[terms] e, []) := by
  induction terms generalizing fuel e with
  | zero => exact readOperators_stop (ends_nil _) _ _
  | succ terms ih =>
    obtain ⟨fuel, rfl⟩ := Nat.exists_eq_add_of_le' (show 1 ≤ fuel by omega)
    obtain ⟨hsuffix, hends⟩ := terms_end terms
    have hplus : Token.plus ≠ .question := nofun
    rw [List.replicate_succ, List.flatten_cons, List.cons_append, readOperators_cons _ hplus]
    change (readExpression (levels + 1) 13 _ >>= _) = _
    rw [List.cons_append, List.nil_append, readExpression_string hsuffix hends, ok_bind]
    exact ih (by omega) (withTerm e)

end Terms

theorem parse_sumText (terms : Nat) :
    parse (String.ofList (sumText terms)) = .ok (withTerm^[terms] (.string "")) := by
  rw [parse_ofList (tokenize_sumText terms), ofTokens]
  have hread : readExpression levelLimit 0
      (.string "" :: (List.replicate terms [Token.plus, .string ""]).flatten)
        = .ok (withTerm^[terms] (.string ""), []) := by
    change readExpression (255 + 1) _ _ = _
    rw [readExpression, readOperand_string (terms_end terms).1, ok_bind]
    exact readOperators_terms 254 terms (by simp [Nat.mul_comm]) _
  rw [hread]
  rfl

/-- A sum of more terms than there are levels left cannot be evaluated: the first of them stands
deepest, and comes first. -/
theorem evaluate_terms {m : Type → Type} [Monad m] [LawfulMonad m] {host : Host m}
    {context : Context} {level terms : Nat} (h : levelLimit < level + terms) (e : Expression) :
    evaluate host context level (withTerm^[terms] e) = throw .tooDeep := by
  induction terms generalizing level with
  | zero => exact evaluate_of_lt h _
  | succ terms ih =>
    rw [Function.iterate_succ_apply']
    by_cases hle : level ≤ levelLimit
    · rw [withTerm, evaluate, if_neg (Nat.not_lt.mpr hle), ih (by omega)]
      exact pure_bind _ _
    · exact evaluate_of_lt (Nat.not_le.mp hle) _

/-- **What is read need not have a value**, whatever the host functions do: here they always answer
null. -/
theorem exists_parse_tooDeep :
    let host : Host Id := ⟨fun _ _ ↦ pure .null⟩
    (∀ f arguments, DataOutline.settled (host.call f arguments) ≠ .error .tooDeep) ∧
      ∃ e, parse (String.ofList (sumText 257)) = .ok e ∧
        value host ⟨[]⟩ 0 e = .error .tooDeep :=
  ⟨fun _ _ ↦ nofun, _, parse_sumText 257, by
    rw [value, evaluate_terms (by decide)]
    rfl⟩

/-! ## What comes to the limit -/

section Limit

variable {σ : Type} {host : Host (StateM σ)} {context : Context} {e : Expression}

/-- Computations that do not fail for too much depth, each beside itself. -/
def shallow (σ : Type) : Simulation (StateM σ) (StateM σ) where
  rel x _ := FailsOnly (· ≠ .tooDeep) x
  pure := .pure
  fail h := .throw h
  bind := .bind

/-- Levels enough for the height are enough, if no call of a host function reports the limit. -/
theorem evaluate_ne_tooDeep
    (hcalls : ∀ f arguments, FailsOnly (· ≠ .tooDeep) (host.call f arguments)) {level : Nat}
    (h : level + e.height ≤ levelLimit) :
    FailsOnly (· ≠ .tooDeep) (evaluate host context level e) := by
  have hrel : (shallow σ).rel (evaluate host context level e) (evaluate host context level e) :=
    Simulation.evaluate hcalls e h
  exact hrel

/-- **Only leading parts make what is read too high.** Where the evaluation of what is read comes to
the limit, though no host function reports it in any state, the expression is higher than the limit;
and it is higher at most by the leading parts on a path. -/
theorem height_of_tooDeep {code : String} (hparse : parse code = .ok e)
    (hcalls : ∀ f arguments, FailsOnly (· ≠ .tooDeep) (host.call f arguments)) {s : σ}
    (hdeep : ((evaluate host context 0 e).run.run s).1 = .error .tooDeep) :
    levelLimit < e.height ∧ e.height ≤ levelLimit + e.chaining := by
  constructor
  · by_contra hlow
    rw [Nat.not_lt] at hlow
    exact evaluate_ne_tooDeep hcalls ((Nat.zero_add _).trans_le hlow) s _ hdeep rfl
  · exact (height_le_nesting_add_chaining e).trans
      (Nat.add_le_add_right (nesting_le_of_parse hparse) _)

end Limit

/-- A sum of too many terms, beside a host that counts the calls it gets. -/
theorem height_of_tooDeep_sum :
    let host : Host (StateM Nat) := ⟨fun _ _ ↦ do
      modify (· + 1)
      throw (.custom "nothing is known")⟩
    let sum := withTerm^[257] (.string "")
    (∀ f arguments, FailsOnly (· ≠ .tooDeep) (host.call f arguments)) ∧
      parse (String.ofList (sumText 257)) = .ok sum ∧
      ((evaluate host ⟨[]⟩ 0 sum).run.run 0).1 = .error .tooDeep ∧
      levelLimit < sum.height ∧ sum.height ≤ levelLimit + sum.chaining := by
  intro host sum
  have hcalls : ∀ f arguments, FailsOnly (· ≠ .tooDeep) (host.call f arguments) := by
    rintro f arguments s e ⟨⟩
    simp
  have hdeep : ((evaluate host ⟨[]⟩ 0 sum).run.run 0).1 = .error .tooDeep := by
    rw [evaluate_terms (show levelLimit < 0 + 257 by decide)]
    rfl
  exact ⟨hcalls, parse_sumText 257, hdeep, height_of_tooDeep (parse_sumText 257) hcalls hdeep⟩

end DataOutline.Expression
