import Mathlib.Data.List.TakeWhile
import Mathlib.Tactic.IntervalCases
import DataOutline.Proofs.Expression.Depth
import DataOutline.Proofs.Expression.Lookahead
import DataOutline.Proofs.Expression.Tokens
import DataOutline.Proofs.Mixin.Lookup

/-!
# Properties behind a point and in brackets

A property can be asked for by a word behind a point, or by a string in brackets. The word is cut
into a token like any other, so a keyword comes to the reader as a keyword, which gives it back the
name that it has. This goes well for all words but one: two keywords are cut into the same token,
and the word `undefined` comes back as `null`.

The brackets take a level more than the point. It is the level of a string, and there is room for
it, since what is in front of the brackets is read one level down as well.
-/

namespace DataOutline.Expression

open Text

/-! ## Words -/

/-- The words that have the form of an identifier, the keywords among them. -/
def IsWord : List Char → Prop
  | [] => False
  | c :: cs => isIdentifierStart c = true ∧ ∀ d ∈ cs, isIdentifierPart d = true

instance : DecidablePred IsWord
  | [] => inferInstanceAs (Decidable False)
  | c :: cs => decidable_of_iff ((isIdentifierStart c && cs.all isIdentifierPart) = true) <| by
      rw [Bool.and_eq_true, List.all_eq_true]
      rfl

theorem isIdentifierPart_of_isIdentifierStart {c : Char} (h : isIdentifierStart c = true) :
    isIdentifierPart c = true := by
  have halphanumeric : isAlphabetic c = true → isAlphanumeric c = true := by
    unfold isAlphabetic isAlphanumeric
    split <;> exact fun h ↦ by rw [h, Bool.true_or]
  simp only [isIdentifierStart, isIdentifierPart, Bool.or_eq_true] at h ⊢
  exact h.imp_left (Or.imp_left halphanumeric)

theorem isDigit_eq_false_of_isIdentifierStart {c : Char} (h : isIdentifierStart c = true) :
    isDigit c = false := by
  by_contra hdigit
  rw [Bool.not_eq_false, isDigit, Char.isDigit, Bool.and_eq_true, decide_eq_true_iff,
    decide_eq_true_iff] at hdigit
  have hlow : 48 ≤ c.toNat := hdigit.1
  have hhigh : c.toNat ≤ 57 := hdigit.2
  have hc : c = Char.ofNat c.toNat := (Char.ofNat_toNat c).symm
  generalize c.toNat = n at hlow hhigh hc
  subst hc
  interval_cases n <;> exact absurd h (by decide)

theorem isSeparator_eq_false_of_isIdentifierStart {c : Char} (h : isIdentifierStart c = true) :
    isSeparator c = false := by
  rw [Bool.eq_false_iff]
  intro hseparator
  simp only [isSeparator, Bool.or_eq_true, beq_iff_eq] at hseparator
  rcases hseparator with ((rfl | rfl) | rfl) | rfl <;> exact absurd h (by decide)

theorem tokenize_word {word : List Char} (h : IsWord word) :
    tokenize word = .ok [wordToken word] := by
  rcases word with _ | ⟨c, cs⟩
  · exact h.elim
  obtain ⟨hstart, hparts⟩ := h
  have hquote : ¬(c = '"' ∨ c = '\'') := by
    rintro (rfl | rfl) <;> exact absurd hstart (by decide)
  rw [tokenize_cons, isSeparator_eq_false_of_isIdentifierStart hstart, firstToken, if_neg hquote,
    isDigit_eq_false_of_isIdentifierStart hstart, hstart, List.takeWhile_eq_self_iff.mpr hparts,
    List.dropWhile_eq_nil_iff.mpr hparts]
  rfl

theorem quoteName_word {word : List Char} (h : IsWord word) :
    quoteName word = '"' :: (word ++ ['"']) := by
  have hparts : ∀ d ∈ word, isIdentifierPart d = true := by
    rcases word with _ | ⟨c, cs⟩
    · exact h.elim
    · exact List.forall_mem_cons.mpr ⟨isIdentifierPart_of_isIdentifierStart h.1, h.2⟩
  have hescape : ∀ d, isIdentifierPart d = true → escapeName d = [d] := by
    intro d hd
    unfold escapeName
    split
    case h_6 => rfl
    all_goals exact absurd hd (by decide)
  have hplain : word.flatMap escapeName = word := by
    rw [List.flatMap_congr fun d hd ↦ hescape d (hparts d hd)]
    exact List.flatMap_singleton' word
  rw [quoteName, hplain]

/-- The property that a word asks for behind a point. The keyword `undefined` is a `null` there as
elsewhere. -/
def pointedName (word : String) : String := if word = "undefined" then "null" else word

theorem isWord_pointedName {word : String} (h : IsWord word.toList) :
    IsWord (pointedName word).toList := by
  rw [pointedName]
  split
  · decide +kernel
  · exact h

theorem propertyName?_wordToken (word : String) :
    propertyName? (wordToken word.toList) = some (pointedName word) := by
  rw [wordToken, String.ofList_toList, pointedName]
  split
  · next h => subst h; rfl
  · split
    · next h => subst h; rfl
    · split
      · next h => rcases h with rfl | rfl <;> rfl
      · next h =>
        rw [if_neg fun hword ↦ h (Or.inr hword)]
        rfl

/-! ## Suffixes of a phrase in parentheses -/

theorem tokenize_group {text suffix : List Char} {ts us : List Token}
    (htext : tokenize text = .ok ts) (hsuffix : tokenize suffix = .ok us) :
    tokenize ('(' :: (text ++ ')' :: suffix)) =
      .ok (.openParen :: (ts ++ .closeParen :: us)) := by
  rw [tokenize_openParen, tokenize_append .paren htext, tokenize_closeParen, hsuffix]
  rfl

theorem readOperand_group {sub : Reader} (tokens suffix : List Token) {e : Expression}
    (h : sub 0 tokens = .ok (e, .closeParen :: suffix)) :
    readOperand sub (.openParen :: tokens) = readSuffixes sub suffix.length e suffix := by
  rw [readOperand.eq_5 sub .openParen tokens (by simp) (by simp) (by simp), readPrimary, h, ok_bind]
  simp only [require_self, ok_bind]
  rfl

theorem ofTokens_group {ts suffix : List Token} {e e' : Expression}
    (h : Derives (.expression .conditional e) ts)
    (hsuffix : readSuffixes (readExpression 255) suffix.length e suffix = .ok (e', [])) :
    ofTokens (.openParen :: (ts ++ .closeParen :: suffix)) =
      (fun _ ↦ e') <$> readExpression 255 0 (ts ++ [.closeParen]) := by
  have hgroup := readExpression_group h 255 suffix []
  have hoperand : readOperand (readExpression 255) (.openParen :: (ts ++ .closeParen :: suffix)) =
      (fun _ ↦ (e', [])) <$> readExpression 255 0 (ts ++ [.closeParen]) := by
    cases hfits : readExpression 255 0 (ts ++ [.closeParen]) with
    | error fault =>
      rw [hfits] at hgroup
      rw [readOperand.eq_5 _ .openParen _ (by simp) (by simp) (by simp), readPrimary, hgroup]
      rfl
    | ok _ =>
      rw [hfits] at hgroup
      rw [readOperand_group _ suffix hgroup, hsuffix]
      rfl
  have hread : readExpression levelLimit 0 (.openParen :: (ts ++ .closeParen :: suffix)) =
      (fun _ ↦ (e', [])) <$> readExpression 255 0 (ts ++ [.closeParen]) := by
    change readExpression (255 + 1) 0 _ = _
    rw [readExpression, hoperand]
    cases readExpression 255 0 (ts ++ [.closeParen]) <;> rfl
  rw [ofTokens, hread]
  cases readExpression 255 0 (ts ++ [.closeParen]) <;> rfl

theorem parse_group {ts us : List Token} {e e' : Expression} {code : String}
    (hphrase : Derives (.expression .conditional e) ts)
    (hcode : tokenize code.toList = .ok (.openParen :: (ts ++ .closeParen :: us)))
    (hread : readSuffixes (readExpression 255) us.length e us = .ok (e', [])) :
    parse code = (fun _ ↦ e') <$> readExpression 255 0 (ts ++ [.closeParen]) := by
  rw [← ofTokens_group hphrase hread, parse, hcode]
  rfl

/-! ## A word behind a point and in brackets -/

theorem tokenize_point {word : List Char} (h : IsWord word) :
    tokenize ('.' :: word) = .ok [.dot, wordToken word] := by
  rw [tokenize_dot, tokenize_word h]
  rfl

theorem readSuffixes_point (sub : Reader) (e : Expression) (word : String) :
    readSuffixes sub 2 e [.dot, wordToken word.toList] =
      .ok (.member e (pointedName word), []) := by
  rw [readSuffixes, List.head?_cons, Option.bind_some, propertyName?_wordToken]
  rfl

theorem tokenize_brackets {word : String} (h : IsWord word.toList) :
    tokenize ('[' :: '"' :: (word.toList ++ ['"', ']'])) =
      .ok [.openBracket, .string word, .closeBracket] := by
  have hquoted : '"' :: (word.toList ++ ['"', ']']) = quoteName word.toList ++ [']'] := by
    rw [quoteName_word h, List.cons_append, List.append_assoc]
    rfl
  rw [hquoted, tokenize_openBracket, tokenize_quoteName, tokenize_closeBracket]
  rfl

theorem readSuffixes_brackets (levels : Nat) (e : Expression) (name : String) :
    readSuffixes (readExpression (levels + 1)) 3 e [.openBracket, .string name, .closeBracket] =
      .ok (.index e (.string name), []) := rfl

section Evaluating

variable {m : Type → Type} [Monad m] [LawfulMonad m] {host : Host m} {context : Context}

theorem evaluateText_group {ts us : List Token} {e e' : Expression} {code : String}
    (hphrase : Derives (.expression .conditional e) ts)
    (hcode : tokenize code.toList = .ok (.openParen :: (ts ++ .closeParen :: us)))
    (hread : readSuffixes (readExpression 255) us.length e us = .ok (e', [])) :
    evaluateText host code context =
      settled (readExpression 255 0 (ts ++ [.closeParen])) >>= fun _ ↦
        evaluate host context 0 e' := by
  rw [evaluateText, parse_group hphrase hcode hread, bind_settled, bind_settled]
  cases readExpression 255 0 (ts ++ [.closeParen]) <;> rfl

theorem evaluate_member (target : Expression) (name : String) :
    evaluate host context 0 (.member target name) =
      evaluate host context 0 (.index target (.string name)) := by
  rw [Mixin.evaluate_index (Nat.zero_lt_succ 255), evaluate, if_neg (Nat.not_lt_zero _)]

/-- **Points and brackets agree**: a word behind a point asks for the same as the name of its
property in brackets, with the same value, the same error and the same effects. -/
theorem evaluateText_point {text : String} {e : Expression} (h : parse text = .ok e)
    {word : String} (hword : IsWord word.toList) :
    evaluateText host ("(" ++ text ++ ")." ++ word) context =
      evaluateText host ("(" ++ text ++ ")[\"" ++ pointedName word ++ "\"]") context := by
  obtain ⟨ts, htext, hof⟩ := exists_tokens_of_parse h
  have hpoint : tokenize ("(" ++ text ++ ")." ++ word).toList =
      .ok (.openParen :: (ts ++ .closeParen :: [.dot, wordToken word.toList])) := by
    simpa using tokenize_group htext (tokenize_point hword)
  have hbrackets : tokenize ("(" ++ text ++ ")[\"" ++ pointedName word ++ "\"]").toList =
      .ok (.openParen :: (ts ++ .closeParen ::
        [.openBracket, .string (pointedName word), .closeBracket])) := by
    simpa using tokenize_group htext (tokenize_brackets (isWord_pointedName hword))
  -- Both are the phrase in parentheses with a suffix, so there are levels enough for both or
  -- neither.
  rw [evaluateText_group (ofTokens_sound hof) hpoint (readSuffixes_point _ e word),
    evaluateText_group (ofTokens_sound hof) hbrackets (readSuffixes_brackets 254 e _),
    evaluate_member]

end Evaluating

/-- A keyword is a property like any other, if it is not `undefined`. -/
theorem evaluateText_point_keywords :
    let host : Host Id := ⟨fun _ _ ↦ pure .null⟩
    let context : Context := ⟨[("x", .object [("true", .boolean false)])]⟩
    parse "x" = .ok (.identifier "x") ∧ IsWord "true".toList ∧ IsWord "undefined".toList ∧
      evaluateText host ("(" ++ "x" ++ ")." ++ "true") context =
        evaluateText host ("(" ++ "x" ++ ")[\"" ++ "true" ++ "\"]") context ∧
      evaluateText host ("(" ++ "x" ++ ")." ++ "undefined") context =
        evaluateText host ("(" ++ "x" ++ ")[\"" ++ "null" ++ "\"]") context := by
  intro host context
  have hparse : parse "x" = .ok (.identifier "x") := by rfl
  have htrue : IsWord "true".toList := by decide +kernel
  have hundefined : IsWord "undefined".toList := by decide +kernel
  exact ⟨hparse, htrue, hundefined, evaluateText_point hparse htrue,
    evaluateText_point hparse hundefined⟩

/-- The property `undefined` is found in brackets and missed behind a point. -/
theorem evaluateText_undefined :
    let host : Host Id := ⟨fun _ _ ↦ pure .null⟩
    let context : Context := ⟨[("x", .object [("undefined", .boolean true)])]⟩
    DataOutline.settled (evaluateText host "(x).undefined" context) = .ok .null ∧
      DataOutline.settled (evaluateText host "(x)[\"undefined\"]" context) =
        .ok (.boolean true) := by
  intro host context
  have hphrase : Derives (.expression .conditional (.identifier "x")) [.identifier "x"] :=
    ofTokens_sound rfl
  have hfits : readExpression 255 0 ([.identifier "x"] ++ [.closeParen]) =
      .ok (.identifier "x", [.closeParen]) := rfl
  have hlevel : 1 ≤ levelLimit := by decide
  constructor
  · have hcode : tokenize "(x).undefined".toList =
        .ok (.openParen :: ([.identifier "x"] ++ .closeParen :: [.dot, .nullWord])) := rfl
    have hread : readSuffixes (readExpression 255) 2 (.identifier "x") [.dot, .nullWord] =
        .ok (.member (.identifier "x") "null", []) := rfl
    have hparse : parse "(x).undefined" = .ok (.member (.identifier "x") "null") := by
      rw [parse_group hphrase hcode hread, hfits]
      rfl
    rw [settled_evaluateText, hparse, ok_bind, value_member (Nat.zero_le _),
      value_identifier hlevel]
    rfl
  · have hcode : tokenize "(x)[\"undefined\"]".toList =
        .ok (.openParen :: ([.identifier "x"] ++ .closeParen ::
          [.openBracket, .string "undefined", .closeBracket])) := by decide +kernel
    have hread : readSuffixes (readExpression 255) 3 (.identifier "x")
        [.openBracket, .string "undefined", .closeBracket] =
          .ok (.index (.identifier "x") (.string "undefined"), []) := rfl
    have hparse : parse "(x)[\"undefined\"]" =
        .ok (.index (.identifier "x") (.string "undefined")) := by
      rw [parse_group hphrase hcode hread, hfits]
      rfl
    rw [settled_evaluateText, hparse, ok_bind, value_index (Nat.zero_le _),
      value_identifier hlevel, value_string hlevel]
    rfl

end DataOutline.Expression
