import Mathlib.Data.List.Basic
import DataOutline.Expression.Lexer
import DataOutline.Proofs.Grammar.Spelling
import DataOutline.Proofs.Result

/-!
# Cutting texts that are put together

A text is cut into tokens from left to right, each as long as it can be, so what follows a piece of
text may change how the piece is cut. It does not if it begins with a comma, a closing bracket or
what may stand between tokens: no token goes on with one of these. So a list or an object is cut
into the tokens of its parts, with commas between them, whatever the parts are.
-/

namespace DataOutline.Expression

open Text

/-! ## What a token leaves -/

theorem stringBody_suffix {quote : Char} {cs body rest : List Char}
    (h : stringBody quote cs = some (body, rest)) : rest <:+ cs := by
  fun_induction stringBody quote cs generalizing body rest with
  | case1 => exact nomatch h
  | case2 =>
    cases h
    exact List.suffix_cons _ _
  | case3 => exact nomatch h
  | case4 e cs _ ih =>
    obtain ⟨⟨body', rest'⟩, hread, heq⟩ := Option.map_eq_some_iff.mp h
    cases heq
    exact ((ih hread).trans (List.suffix_cons e cs)).trans (List.suffix_cons _ _)
  | case5 c cs _ _ ih =>
    obtain ⟨⟨body', rest'⟩, hread, heq⟩ := Option.map_eq_some_iff.mp h
    cases heq
    exact (ih hread).trans (List.suffix_cons c cs)

theorem fractionPart_suffix (cs : List Char) : (fractionPart cs).2 <:+ cs := by
  unfold fractionPart
  split
  · split
    · exact ((List.dropWhile_suffix isDigit).trans (List.suffix_cons _ _)).trans
        (List.suffix_cons _ _)
    · exact List.suffix_rfl
  · exact List.suffix_rfl

/-- The sign at the start of an exponent, and the rest. -/
def exponentSign : List Char → List Char × List Char
  | '+' :: rest => (['+'], rest)
  | '-' :: rest => (['-'], rest)
  | rest => ([], rest)

theorem exponentPart_cons (c : Char) (cs : List Char) :
    exponentPart (c :: cs) =
      if c = 'e' ∨ c = 'E' then
        if ((exponentSign cs).2.takeWhile isDigit).isEmpty then ([], c :: cs)
        else (c :: ((exponentSign cs).1 ++ (exponentSign cs).2.takeWhile isDigit),
          (exponentSign cs).2.dropWhile isDigit)
      else ([], c :: cs) := rfl

theorem exponentSign_suffix (cs : List Char) : (exponentSign cs).2 <:+ cs := by
  unfold exponentSign
  split
  · exact List.suffix_cons _ _
  · exact List.suffix_cons _ _
  · exact List.suffix_rfl

theorem exponentPart_suffix (cs : List Char) : (exponentPart cs).2 <:+ cs := by
  rcases cs with _ | ⟨c, cs⟩
  · exact List.suffix_rfl
  · rw [exponentPart_cons]
    split
    · split
      · exact List.suffix_rfl
      · exact ((List.dropWhile_suffix isDigit).trans (exponentSign_suffix cs)).trans
          (List.suffix_cons c cs)
    · exact List.suffix_rfl

theorem numberPart_eq (cs : List Char) :
    numberPart cs = (cs.takeWhile isDigit ++ (fractionPart (cs.dropWhile isDigit)).1 ++
        (exponentPart (fractionPart (cs.dropWhile isDigit)).2).1,
      (exponentPart (fractionPart (cs.dropWhile isDigit)).2).2) := rfl

theorem ne_nil_of_mem_symbols : ∀ e ∈ symbols, e.1 ≠ [] := by
  decide

theorem symbol?_suffix {c : Char} {cs rest : List Char} {token : Token}
    (h : symbol? (c :: cs) = some (token, rest)) : rest <:+ cs := by
  obtain ⟨⟨chars, token'⟩, hmem, hfound⟩ := List.exists_of_findSome?_eq_some h
  obtain ⟨rest', hprefix, heq⟩ := Option.map_eq_some_iff.mp hfound
  cases heq
  have happend := List.isPrefixOf?_eq_some_iff_append_eq.mp hprefix
  obtain ⟨c', chars, rfl⟩ := List.exists_cons_of_ne_nil (ne_nil_of_mem_symbols _ hmem)
  exact ⟨chars, (List.cons.inj happend).2⟩

theorem firstToken_suffix {c : Char} {cs rest : List Char} {token : Token}
    (h : firstToken c cs = .ok (token, rest)) : rest <:+ cs := by
  rw [firstToken] at h
  split at h
  · split at h
    · next hbody =>
      cases h
      exact stringBody_suffix hbody
    · exact nomatch h
  · split at h
    · next hdigit =>
      rw [numberPart_eq] at h
      simp only at h
      split at h
      · cases h
        rw [List.dropWhile_cons_of_pos hdigit]
        exact ((exponentPart_suffix _).trans (fractionPart_suffix _)).trans
          (List.dropWhile_suffix isDigit)
      · exact nomatch h
    · split at h
      · cases h
        exact List.dropWhile_suffix isIdentifierPart
      · split at h
        · next hsymbol =>
          cases h
          exact symbol?_suffix hsymbol
        · exact nomatch h

/-! ## One token after the other -/

/-- Fuel for every character is enough. -/
theorem tokensFrom_eq_tokenize {fuel : Nat} {cs : List Char} (h : cs.length ≤ fuel) :
    tokensFrom fuel cs = tokenize cs := by
  induction hlen : cs.length using Nat.strongRecOn generalizing fuel cs with
  | _ n ih =>
    rw [tokenize]
    rcases cs with _ | ⟨c, cs⟩
    · cases fuel <;> rfl
    · rcases fuel with _ | fuel
      · exact absurd h (Nat.not_succ_le_zero _)
      · rw [List.length_cons] at h hlen
        have hrest : ∀ rest : List Char, rest.length ≤ cs.length →
            tokensFrom fuel rest = tokensFrom cs.length rest := by
          intro rest hle
          rw [ih rest.length (by omega) (by omega) rfl, ih rest.length (by omega) hle rfl]
        rw [List.length_cons, tokensFrom, tokensFrom, hrest cs (Nat.le_refl _)]
        split
        · rfl
        · refine bind_congr_ok fun ⟨token, rest⟩ hfirst ↦ ?_
          simp only [hrest rest (firstToken_suffix hfirst).length_le]

theorem tokenize_cons (c : Char) (cs : List Char) :
    tokenize (c :: cs) =
      if isSeparator c then tokenize cs
      else firstToken c cs >>= fun (token, rest) ↦ (token :: ·) <$> tokenize rest := by
  rw [tokenize, List.length_cons, tokensFrom]
  split
  · rfl
  · refine bind_congr_ok fun ⟨token, rest⟩ hfirst ↦ ?_
    simp only [tokensFrom_eq_tokenize (firstToken_suffix hfirst).length_le]
    rfl

/-! ## Where a token ends -/

/-- The characters that end every token in front of them: those that end a list or an entry, and
those that stand between tokens. -/
inductive Closes : Char → Prop
  | comma : Closes ','
  | paren : Closes ')'
  | bracket : Closes ']'
  | brace : Closes '\x7d'
  | space : Closes ' '
  | tab : Closes '\t'
  | newline : Closes '\n'
  | carriageReturn : Closes '\r'

theorem Closes.not_isDigit {d : Char} (h : Closes d) : isDigit d = false := by
  cases h <;> rfl

theorem Closes.not_isIdentifierPart {d : Char} (h : Closes d) : isIdentifierPart d = false := by
  cases h <;> rfl

section Stop

variable {p : Char → Bool} {d : Char} (hp : p d = false) (cs more : List Char)
include hp

theorem takeWhile_append_stop : (cs ++ d :: more).takeWhile p = cs.takeWhile p := by
  induction cs with
  | nil => simp [hp]
  | cons c cs ih => simp [List.takeWhile_cons, ih]

theorem dropWhile_append_stop : (cs ++ d :: more).dropWhile p = cs.dropWhile p ++ d :: more := by
  induction cs with
  | nil => simp [hp]
  | cons c cs ih =>
    by_cases hc : p c = true
    · simp [hc, ih]
    · simp [hc]

end Stop

section String

variable {quote c : Char} (rest : List Char)

@[simp] theorem stringBody_quote : stringBody quote (quote :: rest) = some ([], rest) := by
  simp [stringBody.eq_def]

theorem stringBody_escape (h : '\\' ≠ quote) (e : Char) :
    stringBody quote ('\\' :: e :: rest) =
      (stringBody quote rest).map fun (body, rest) ↦ (unescape e :: body, rest) := by
  rw [stringBody.eq_def]
  simp [h]

theorem stringBody_plain (hquote : c ≠ quote) (hslash : c ≠ '\\') :
    stringBody quote (c :: rest) =
      (stringBody quote rest).map fun (body, rest) ↦ (c :: body, rest) := by
  rw [stringBody.eq_def]
  simp [hquote, hslash]

end String

theorem stringBody_append {quote : Char} {cs body rest : List Char}
    (h : stringBody quote cs = some (body, rest)) (more : List Char) :
    stringBody quote (cs ++ more) = some (body, rest ++ more) := by
  fun_induction stringBody quote cs generalizing body rest with
  | case1 => exact nomatch h
  | case2 =>
    cases h
    exact stringBody_quote _
  | case3 => exact nomatch h
  | case4 e cs hquote ih =>
    obtain ⟨⟨body', rest'⟩, hread, heq⟩ := Option.map_eq_some_iff.mp h
    cases heq
    rw [List.cons_append, List.cons_append, stringBody_escape _ hquote, ih hread, Option.map_some]
  | case5 c cs hquote hslash ih =>
    obtain ⟨⟨body', rest'⟩, hread, heq⟩ := Option.map_eq_some_iff.mp h
    cases heq
    rw [List.cons_append, stringBody_plain _ hquote hslash, ih hread, Option.map_some]

theorem fractionPart_point (c : Char) (cs : List Char) :
    fractionPart ('.' :: c :: cs) =
      if isDigit c then ('.' :: c :: cs.takeWhile isDigit, cs.dropWhile isDigit)
      else ([], '.' :: c :: cs) := rfl

theorem fractionPart_of_head? {cs : List Char} (h : cs.head? ≠ some '.') :
    fractionPart cs = ([], cs) := by
  rw [fractionPart.eq_def]
  split
  · exact absurd rfl h
  · rfl

section Closing

variable {d : Char} (hd : Closes d) (cs more : List Char)
include hd

theorem fractionPart_append :
    fractionPart (cs ++ d :: more) = ((fractionPart cs).1, (fractionPart cs).2 ++ d :: more) := by
  by_cases hhead : cs.head? = some '.'
  · obtain ⟨tail, rfl⟩ := List.head?_eq_some_iff.mp hhead
    rcases tail with _ | ⟨c, tail⟩
    · rw [List.singleton_append, fractionPart_point, hd.not_isDigit]
      rfl
    · rw [List.cons_append, List.cons_append, fractionPart_point, fractionPart_point,
        takeWhile_append_stop hd.not_isDigit, dropWhile_append_stop hd.not_isDigit]
      split <;> rfl
  · have hne : (cs ++ d :: more).head? ≠ some '.' := by
      rcases cs with _ | ⟨c, cs⟩
      · cases hd <;> exact nofun
      · exact hhead
    rw [fractionPart_of_head? hhead, fractionPart_of_head? hne]

theorem exponentSign_append :
    exponentSign (cs ++ d :: more) = ((exponentSign cs).1, (exponentSign cs).2 ++ d :: more) := by
  rcases cs with _ | ⟨c, cs⟩
  · cases hd <;> rfl
  · rw [List.cons_append]
    by_cases hplus : c = '+'
    · subst hplus
      rfl
    · by_cases hminus : c = '-'
      · subst hminus
        rfl
      · simp [exponentSign, hplus, hminus]

theorem exponentPart_append :
    exponentPart (cs ++ d :: more) = ((exponentPart cs).1, (exponentPart cs).2 ++ d :: more) := by
  rcases cs with _ | ⟨c, cs⟩
  · cases hd <;> rfl
  · rw [List.cons_append, exponentPart_cons, exponentPart_cons, exponentSign_append hd,
      takeWhile_append_stop hd.not_isDigit, dropWhile_append_stop hd.not_isDigit]
    split
    · split <;> rfl
    · rfl

theorem numberPart_append :
    numberPart (cs ++ d :: more) = ((numberPart cs).1, (numberPart cs).2 ++ d :: more) := by
  rw [numberPart_eq, numberPart_eq, takeWhile_append_stop hd.not_isDigit,
    dropWhile_append_stop hd.not_isDigit, fractionPart_append hd, exponentPart_append hd]

omit hd in
/-- No symbol goes on with a character that closes. -/
theorem notMem_tail_of_mem_symbols {d : Char} (hd : Closes d) : ∀ e ∈ symbols, d ∉ e.1.tail := by
  cases hd <;> decide

omit hd in
theorem isPrefixOf?_append {chars : List Char} (hchars : d ∉ chars) :
    chars.isPrefixOf? (cs ++ d :: more) = (chars.isPrefixOf? cs).map (· ++ d :: more) := by
  induction chars generalizing cs with
  | nil => cases cs <;> rfl
  | cons x chars ih =>
    rw [List.mem_cons, not_or] at hchars
    rcases cs with _ | ⟨c, cs⟩
    · simp [List.isPrefixOf?, Ne.symm hchars.1]
    · by_cases hx : x = c
      · subst hx
        simpa [List.isPrefixOf?] using ih cs hchars.2
      · simp [List.isPrefixOf?, hx]

theorem symbol?_append (c : Char) :
    symbol? (c :: (cs ++ d :: more)) =
      (symbol? (c :: cs)).map fun (token, rest) ↦ (token, rest ++ d :: more) := by
  have hnonempty := ne_nil_of_mem_symbols
  have htail := notMem_tail_of_mem_symbols hd
  rw [symbol?, symbol?, List.map_findSome?]
  generalize symbols = table at hnonempty htail
  induction table with
  | nil => rfl
  | cons e table ih =>
    obtain ⟨_ | ⟨x, chars⟩, token⟩ := e
    · exact absurd rfl (hnonempty _ List.mem_cons_self)
    · have hfirst : (x :: chars).isPrefixOf? (c :: (cs ++ d :: more)) =
          ((x :: chars).isPrefixOf? (c :: cs)).map (· ++ d :: more) := by
        rw [List.isPrefixOf?, List.isPrefixOf?]
        split
        · exact isPrefixOf?_append cs more (htail _ List.mem_cons_self)
        · rfl
      have hrest := ih (fun e he ↦ hnonempty e (List.mem_cons_of_mem _ he))
        fun e he ↦ htail e (List.mem_cons_of_mem _ he)
      simp only [List.findSome?_cons, hrest, Function.comp_apply, hfirst, Option.map_map]
      rfl

end Closing

/-- A character that closes is no part of the token in front of it. -/
theorem firstToken_append {c d : Char} (hd : Closes d) {cs rest : List Char} {token : Token}
    (h : firstToken c cs = .ok (token, rest)) (more : List Char) :
    firstToken c (cs ++ d :: more) = .ok (token, rest ++ d :: more) := by
  rw [firstToken] at h ⊢
  split at h
  · next hquote =>
    rw [if_pos hquote]
    split at h
    · next hbody =>
      cases h
      rw [stringBody_append hbody]
    · exact nomatch h
  · next hquote =>
    rw [if_neg hquote]
    split at h
    · next hdigit =>
      rw [if_pos hdigit, ← List.cons_append, numberPart_append hd]
      simp only at h ⊢
      split at h
      · cases h
        rfl
      · exact nomatch h
    · next hdigit =>
      rw [if_neg hdigit]
      split at h
      · next hstart =>
        cases h
        rw [if_pos hstart, takeWhile_append_stop hd.not_isIdentifierPart,
          dropWhile_append_stop hd.not_isIdentifierPart]
      · next hstart =>
        rw [if_neg hstart, symbol?_append hd]
        split at h
        · next hsymbol =>
          cases h
          rw [hsymbol]
          rfl
        · exact nomatch h

/-- **A text that is cut into tokens is cut in the same way in front of what closes.** -/
theorem tokenize_append {d : Char} (hd : Closes d) {cs : List Char} {tokens : List Token}
    (h : tokenize cs = .ok tokens) (more : List Char) :
    tokenize (cs ++ d :: more) = (tokens ++ ·) <$> tokenize (d :: more) := by
  induction hlen : cs.length using Nat.strongRecOn generalizing cs tokens with
  | _ n ih =>
    rcases cs with _ | ⟨c, cs⟩
    · cases h
      exact (id_map _).symm
    · rw [List.length_cons] at hlen
      rw [tokenize_cons] at h
      rw [List.cons_append, tokenize_cons]
      by_cases hseparator : isSeparator c = true
      · rw [if_pos hseparator] at h ⊢
        exact ih cs.length (by omega) h rfl
      · rw [if_neg hseparator] at h ⊢
        obtain ⟨⟨token, rest⟩, hfirst, hmore⟩ := bind_eq_ok_iff.mp h
        obtain ⟨tokens', hrest, rfl⟩ := map_eq_ok_iff.mp hmore
        have hle := (firstToken_suffix hfirst).length_le
        rw [firstToken_append hd hfirst, ok_bind]
        simp only [ih rest.length (by omega) hrest rfl, Functor.map_map, List.cons_append]

/-! ## Symbols and names -/

theorem tokenize_symbol {c : Char} {token : Token}
    (other : isSeparator c = false ∧ ¬(c = '"' ∨ c = '\'') ∧ isDigit c = false ∧
      isIdentifierStart c = false)
    (symbol : ∀ cs, symbol? (c :: cs) = some (token, cs)) (cs : List Char) :
    tokenize (c :: cs) = (token :: ·) <$> tokenize cs := by
  obtain ⟨hseparator, hquote, hdigit, hstart⟩ := other
  have hfirst : firstToken c cs = .ok (token, cs) := by
    rw [firstToken, if_neg hquote, hdigit, hstart, symbol]
    rfl
  rw [tokenize_cons, hseparator, hfirst]
  rfl

section Symbols

variable (cs : List Char)

theorem tokenize_comma : tokenize (',' :: cs) = (.comma :: ·) <$> tokenize cs :=
  tokenize_symbol (by decide) (fun _ ↦ rfl) cs

theorem tokenize_colon : tokenize (':' :: cs) = (.colon :: ·) <$> tokenize cs :=
  tokenize_symbol (by decide) (fun _ ↦ rfl) cs

theorem tokenize_minus : tokenize ('-' :: cs) = (.minus :: ·) <$> tokenize cs :=
  tokenize_symbol (by decide) (fun _ ↦ rfl) cs

theorem tokenize_openParen : tokenize ('(' :: cs) = (.openParen :: ·) <$> tokenize cs :=
  tokenize_symbol (by decide) (fun _ ↦ rfl) cs

theorem tokenize_closeParen : tokenize (')' :: cs) = (.closeParen :: ·) <$> tokenize cs :=
  tokenize_symbol (by decide) (fun _ ↦ rfl) cs

theorem tokenize_dot : tokenize ('.' :: cs) = (.dot :: ·) <$> tokenize cs :=
  tokenize_symbol (by decide) (fun _ ↦ rfl) cs

theorem tokenize_plus : tokenize ('+' :: cs) = (.plus :: ·) <$> tokenize cs :=
  tokenize_symbol (by decide) (fun _ ↦ rfl) cs

theorem tokenize_openBracket : tokenize ('[' :: cs) = (.openBracket :: ·) <$> tokenize cs :=
  tokenize_symbol (by decide) (fun _ ↦ rfl) cs

theorem tokenize_closeBracket : tokenize (']' :: cs) = (.closeBracket :: ·) <$> tokenize cs :=
  tokenize_symbol (by decide) (fun _ ↦ rfl) cs

theorem tokenize_openBrace : tokenize ('\x7b' :: cs) = (.openBrace :: ·) <$> tokenize cs :=
  tokenize_symbol (by decide) (fun _ ↦ rfl) cs

theorem tokenize_closeBrace : tokenize ('\x7d' :: cs) = (.closeBrace :: ·) <$> tokenize cs :=
  tokenize_symbol (by decide) (fun _ ↦ rfl) cs

end Symbols

theorem tokenize_gap {gap : List Char} (h : ∀ c ∈ gap, isSeparator c = true) (cs : List Char) :
    tokenize (gap ++ cs) = tokenize cs := by
  induction gap with
  | nil => rfl
  | cons c gap ih =>
    obtain ⟨hc, hgap⟩ := List.forall_mem_cons.mp h
    rw [List.cons_append, tokenize_cons, if_pos hc, ih hgap]

theorem stringBody_escapeName (c : Char) (cs : List Char) :
    stringBody '"' (escapeName c ++ cs) =
      (stringBody '"' cs).map fun (body, rest) ↦ (c :: body, rest) := by
  unfold escapeName
  split
  · exact stringBody_escape _ (by decide) _
  · exact stringBody_escape _ (by decide) _
  · exact stringBody_escape _ (by decide) _
  · exact stringBody_escape _ (by decide) _
  · exact stringBody_escape _ (by decide) _
  · next hquote hslash _ _ _ => exact stringBody_plain _ hquote hslash

theorem tokenize_quoteName (name : String) (cs : List Char) :
    tokenize (quoteName name.toList ++ cs) = (.string name :: ·) <$> tokenize cs := by
  have hbody : ∀ name : List Char,
      stringBody '"' (name.flatMap escapeName ++ '"' :: cs) = some (name, cs) := by
    intro name
    induction name with
    | nil => exact stringBody_quote cs
    | cons c name ih =>
      rw [List.flatMap_cons, List.append_assoc, stringBody_escapeName, ih, Option.map_some]
  have hseparator : isSeparator '"' = false := by decide
  rw [quoteName, List.cons_append, List.append_assoc, List.singleton_append, tokenize_cons,
    hseparator, firstToken, if_pos (Or.inl rfl), hbody]
  simp only [String.ofList_toList]
  rfl

/-! ## Lists and entries -/

section Lists

variable (gap : List Char) (hgap : ∀ c ∈ gap, isSeparator c = true)
include hgap

theorem tokenize_entry (name : String) {text : List Char} {ts : List Token}
    (h : tokenize text = .ok ts) :
    tokenize (quoteName name.toList ++ ':' :: (gap ++ text)) =
      .ok (.string name :: .colon :: ts) := by
  rw [tokenize_quoteName, tokenize_colon, tokenize_gap hgap, h]
  rfl

variable {α : Type} {as : List α} {text : α → List Char} {tokens : α → List Token}
  (each : ∀ a ∈ as, tokenize (text a) = .ok (tokens a))
include each

/-- **Texts with commas between them** are cut into their tokens with commas between them. -/
theorem tokenize_intercalate {d : Char} (hd : Closes d) (more : List Char) :
    tokenize ((',' :: gap).intercalate (as.map text) ++ d :: more) =
      ([Token.comma].intercalate (as.map tokens) ++ ·) <$> tokenize (d :: more) := by
  induction as with
  | nil => exact (id_map _).symm
  | cons a as ih =>
    obtain ⟨hfirst, hmore⟩ := List.forall_mem_cons.mp each
    rcases as with _ | ⟨a', as⟩
    · simp only [List.map_singleton, List.intercalate_singleton]
      exact tokenize_append hd hfirst more
    · have htail := ih hmore
      simp only [List.map_cons] at htail ⊢
      rw [List.intercalate_cons_cons, List.intercalate_cons_cons, List.append_assoc,
        List.append_assoc, List.cons_append, tokenize_append .comma hfirst, tokenize_comma,
        tokenize_gap hgap, htail]
      simp only [Functor.map_map, List.append_assoc, List.cons_append, List.nil_append]

theorem tokenize_array :
    tokenize ('[' :: ((',' :: gap).intercalate (as.map text) ++ [']'])) =
      .ok (.openBracket :: ([Token.comma].intercalate (as.map tokens) ++ [.closeBracket])) := by
  rw [tokenize_openBracket, tokenize_intercalate gap hgap each .bracket, tokenize_closeBracket]
  rfl

theorem tokenize_object :
    tokenize ('\x7b' :: ((',' :: gap).intercalate (as.map text) ++ ['\x7d'])) =
      .ok (.openBrace :: ([Token.comma].intercalate (as.map tokens) ++ [.closeBrace])) := by
  rw [tokenize_openBrace, tokenize_intercalate gap hgap each .brace, tokenize_closeBrace]
  rfl

end Lists

end DataOutline.Expression
