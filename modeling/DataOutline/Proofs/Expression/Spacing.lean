import DataOutline.Proofs.Expression.Access
import DataOutline.Proofs.Expression.Numbers

/-!
# Tokens with gaps between them

Tokens can be written one after the other, each in one of the ways in which it can be spelled, with
at least one space, tab or line break between neighbours. Cutting the text gives the tokens back.
Each token alone is cut out of its own text as a whole, whatever a string contains and whichever
word a name begins with; and a gap ends every token in front of it. The induction is on the text
that was written, gap by gap and token by token.

That a number reads back from its text is assumed of each number; it is a property of how decimals
are rounded.
-/

namespace DataOutline

/-- A finite number without a sign, so a positive one or a zero that is not negative. -/
def Decimal.IsUnsigned (x : Float) : Prop :=
  ∃ mantissa exponent, Exact.ofFloat x = .finite false mantissa exponent

namespace Expression

open Text

/-! ## Spellings -/

/-- The characters that stand between tokens. -/
def separators : List Char := [' ', '\t', '\n', '\r']

def keywords : List String := ["true", "false", "null", "undefined"]

/-- An operator or a bracket as it is written. -/
def symbolText? : Token → Option String
  | .plus => some "+"
  | .minus => some "-"
  | .star => some "*"
  | .slash => some "/"
  | .percent => some "%"
  | .equal => some "=="
  | .strictEqual => some "==="
  | .unequal => some "!="
  | .strictUnequal => some "!=="
  | .greater => some ">"
  | .less => some "<"
  | .greaterEqual => some ">="
  | .lessEqual => some "<="
  | .both => some "&&"
  | .either => some "||"
  | .bang => some "!"
  | .question => some "?"
  | .colon => some ":"
  | .comma => some ","
  | .dot => some "."
  | .openParen => some "("
  | .closeParen => some ")"
  | .openBracket => some "["
  | .closeBracket => some "]"
  | .openBrace => some "\x7b"
  | .closeBrace => some "\x7d"
  | _ => none

/-- A character between quotes. The quote and the backslash are escaped; a line break, a tab and the
zero character may be. -/
inductive SpellsChar (quote : Char) : Char → List Char → Prop
  | plain {c : Char} (noQuote : c ≠ quote) (noBackslash : c ≠ '\\') : SpellsChar quote c [c]
  | quote : SpellsChar quote quote ['\\', quote]
  | backslash : SpellsChar quote '\\' ['\\', '\\']
  | newline : SpellsChar quote '\n' ['\\', 'n']
  | tab : SpellsChar quote '\t' ['\\', 't']
  | carriageReturn : SpellsChar quote '\r' ['\\', 'r']
  | zero : SpellsChar quote '\x00' ['\\', '0']

inductive SpellsBody (quote : Char) : List Char → List Char → Prop
  | nil : SpellsBody quote [] []
  | cons {c : Char} {body first rest : List Char} (char : SpellsChar quote c first)
      (more : SpellsBody quote body rest) : SpellsBody quote (c :: body) (first ++ rest)

/-- The texts of a token. -/
inductive SpellsToken : Token → List Char → Prop
  | number (x : Float) : SpellsToken (.number x) (Decimal.plain.text x).toList
  | string {quote : Char} {s : String} {text : List Char} (isQuote : quote = '"' ∨ quote = '\'')
      (body : SpellsBody quote s.toList text) : SpellsToken (.string s) (quote :: (text ++ [quote]))
  | identifier (name : String) : SpellsToken (.identifier name) name.toList
  | trueWord : SpellsToken .trueWord "true".toList
  | falseWord : SpellsToken .falseWord "false".toList
  | nullWord : SpellsToken .nullWord "null".toList
  | undefinedWord : SpellsToken .nullWord "undefined".toList
  | symbol {t : Token} {text : String} (h : symbolText? t = some text) : SpellsToken t text.toList

/-- Tokens written one after the other, with gaps around them and between neighbours. -/
inductive Written : List Token → List Char → Prop
  | nil : Written [] []
  | gap {c : Char} {ts : List Token} {cs : List Char} (separates : c ∈ separators)
      (rest : Written ts cs) : Written ts (c :: cs)
  | token {t : Token} {ts : List Token} {text cs : List Char} (spells : SpellsToken t text)
      (apart : ∀ c ∈ cs.head?, c ∈ separators) (rest : Written ts cs) :
      Written (t :: ts) (text ++ cs)

/-- The tokens that a text can have: of the numbers the finite ones without a sign, of the names
those that have the form of one and are no keywords, and all others. -/
def Token.IsSpellable : Token → Prop
  | .number x =>
    Decimal.IsUnsigned x ∧ Decimal.number? (Decimal.plain.text x).toList = some x
  | .identifier name => IsWord name.toList ∧ name ∉ keywords
  | _ => True

theorem exists_spellsChar (quote c : Char) : ∃ text, SpellsChar quote c text := by
  by_cases hquote : c = quote
  · subst hquote
    exact ⟨_, .quote⟩
  · by_cases hbackslash : c = '\\'
    · subst hbackslash
      exact ⟨_, .backslash⟩
    · exact ⟨_, .plain hquote hbackslash⟩

theorem exists_spellsBody (quote : Char) (body : List Char) :
    ∃ text, SpellsBody quote body text := by
  induction body with
  | nil => exact ⟨_, .nil⟩
  | cons c body ih =>
    obtain ⟨first, hfirst⟩ := exists_spellsChar quote c
    obtain ⟨rest, hrest⟩ := ih
    exact ⟨_, .cons hfirst hrest⟩

theorem exists_spellsToken (t : Token) : ∃ text, SpellsToken t text := by
  cases t with
  | number x => exact ⟨_, .number x⟩
  | string s =>
    obtain ⟨text, hbody⟩ := exists_spellsBody '"' s.toList
    exact ⟨_, .string (Or.inl rfl) hbody⟩
  | identifier name => exact ⟨_, .identifier name⟩
  | trueWord => exact ⟨_, .trueWord⟩
  | falseWord => exact ⟨_, .falseWord⟩
  | nullWord => exact ⟨_, .nullWord⟩
  | _ => exact ⟨_, .symbol rfl⟩

theorem exists_written (ts : List Token) : ∃ cs, Written ts cs := by
  induction ts with
  | nil => exact ⟨[], .nil⟩
  | cons t ts ih =>
    obtain ⟨text, hspells⟩ := exists_spellsToken t
    obtain ⟨cs, hwritten⟩ := ih
    have hspace : ' ' ∈ separators := List.mem_cons_self
    refine ⟨text ++ ' ' :: cs, .token hspells ?_ (.gap hspace hwritten)⟩
    rintro _ ⟨⟩
    exact hspace

/-! ## One token -/

theorem stringBody_spelled {quote : Char} {body text : List Char}
    (isQuote : quote = '"' ∨ quote = '\'') (h : SpellsBody quote body text) :
    stringBody quote (text ++ [quote]) = some (body, []) := by
  have hbackslash : '\\' ≠ quote := by
    rcases isQuote with rfl | rfl <;> decide
  have hunescape : unescape quote = quote := by
    rcases isQuote with rfl | rfl <;> rfl
  induction h with
  | nil => exact stringBody_quote []
  | cons char _ ih =>
    cases char with
    | plain noQuote noBackslash =>
      rw [List.singleton_append, List.cons_append, stringBody_plain _ noQuote noBackslash, ih]
      rfl
    | quote =>
      rw [List.cons_append, List.cons_append, List.cons_append, List.cons_append,
        stringBody_escape _ hbackslash, List.nil_append, ih, hunescape]
      rfl
    | backslash | newline | tab | carriageReturn | zero =>
      rw [List.cons_append, List.cons_append, List.cons_append, List.cons_append,
        stringBody_escape _ hbackslash, List.nil_append, ih]
      rfl

theorem tokenize_string {quote : Char} {s : String} {text : List Char}
    (isQuote : quote = '"' ∨ quote = '\'') (body : SpellsBody quote s.toList text) :
    tokenize (quote :: (text ++ [quote])) = .ok [.string s] := by
  have hseparator : isSeparator quote = false := by
    rcases isQuote with rfl | rfl <;> rfl
  have hfirst : firstToken quote (text ++ [quote]) = .ok (.string s, []) := by
    rw [firstToken, if_pos isQuote, stringBody_spelled isQuote body]
    simp only [String.ofList_toList]
  rw [tokenize_cons, hseparator, hfirst]
  rfl

theorem tokenize_number {x : Float} (unsigned : Decimal.IsUnsigned x)
    (reads : Decimal.number? (Decimal.plain.text x).toList = some x) :
    tokenize (Decimal.plain.text x).toList = .ok [.number x] := by
  obtain ⟨mantissa, exponent, hx⟩ := unsigned
  have htext : (Decimal.plain.text x).toList = Decimal.plain.magnitude mantissa exponent := by
    simp only [Decimal.Style.text, hx]
    exact String.toList_ofList
  have hnumeral := Decimal.plain.isNumeral_magnitude mantissa exponent
  have hread := number?_numeral false hnumeral
  rw [htext] at reads ⊢
  change Decimal.number? (Decimal.plain.magnitude mantissa exponent) = _ at hread
  rw [reads, eq_comm, Option.map_eq_some_iff] at hread
  obtain ⟨y, hy, hyx⟩ := hread
  cases hyx
  exact hnumeral.tokenize hy

theorem wordToken_of_notMem {name : String} (h : name ∉ keywords) :
    wordToken name.toList = .identifier name := by
  simp only [keywords, List.mem_cons, List.not_mem_nil, or_false, not_or] at h
  obtain ⟨htrue, hfalse, hnull, hundefined⟩ := h
  rw [wordToken, String.ofList_toList, if_neg htrue, if_neg hfalse,
    if_neg (not_or.mpr ⟨hnull, hundefined⟩)]

theorem tokenize_spelled {t : Token} {text : List Char} (h : SpellsToken t text)
    (spellable : t.IsSpellable) : tokenize text = .ok [t] := by
  cases h with
  | number x => exact tokenize_number spellable.1 spellable.2
  | string isQuote body => exact tokenize_string isQuote body
  | identifier name => rw [tokenize_word spellable.1, wordToken_of_notMem spellable.2]
  | trueWord => rfl
  | falseWord => rfl
  | nullWord => rfl
  | undefinedWord => rfl
  | symbol h =>
    cases t with
    | number | string | identifier | trueWord | falseWord | nullWord => exact nomatch h
    | _ =>
      cases h
      rfl

/-! ## All tokens -/

theorem closes_of_mem_separators {c : Char} (h : c ∈ separators) : Closes c := by
  simp only [separators, List.mem_cons, List.not_mem_nil, or_false] at h
  rcases h with rfl | rfl | rfl | rfl
  · exact .space
  · exact .tab
  · exact .newline
  · exact .carriageReturn

theorem isSeparator_of_mem_separators {c : Char} (h : c ∈ separators) : isSeparator c = true := by
  cases closes_of_mem_separators h <;> first | rfl | exact absurd h (by decide)

/-- **Cutting a text undoes the writing of its tokens.** Every list of tokens can be written, and
however it is written, it is cut out of the text again, if each of the tokens is one that a text can
have. -/
theorem tokenize_written {ts : List Token} (spellable : ∀ t ∈ ts, t.IsSpellable) :
    (∃ cs, Written ts cs) ∧ ∀ cs, Written ts cs → tokenize cs = .ok ts := by
  refine ⟨exists_written ts, fun cs hwritten ↦ ?_⟩
  induction hwritten with
  | nil => rfl
  | gap separates _ ih =>
    rw [tokenize_cons, if_pos (isSeparator_of_mem_separators separates)]
    exact ih spellable
  | @token t ts text cs spells apart rest ih =>
    obtain ⟨hfirst, hmore⟩ := List.forall_mem_cons.mp spellable
    have htoken := tokenize_spelled spells hfirst
    have hrest := ih hmore
    rcases cs with _ | ⟨d, cs⟩
    · cases hrest
      rwa [List.append_nil]
    · rw [tokenize_append (closes_of_mem_separators (apart d rfl)) htoken, hrest]
      rfl

/-- A point that a number does not take in, a name that begins with a keyword, and a string with
both quotes. -/
theorem tokenize_written_pointed :
    (∀ t ∈ [Token.number 1.5, .dot, .identifier "nullable", .strictEqual, .string "it's\n\"",
        .nullWord], t.IsSpellable) ∧
      tokenize "1.5\t. nullable\n=== 'it\\'s\\n\"' undefined".toList =
        .ok [.number 1.5, .dot, .identifier "nullable", .strictEqual, .string "it's\n\"",
          .nullWord] := by
  have hspellable : ∀ t ∈ [Token.number 1.5, .dot, .identifier "nullable", .strictEqual,
      .string "it's\n\"", .nullWord], t.IsSpellable := by
    simp only [List.forall_mem_cons, List.not_mem_nil, IsEmpty.forall_iff, implies_true, and_true,
      Token.IsSpellable, true_and]
    refine ⟨⟨⟨6755399441055744, -52, ?_⟩, ?_⟩, ?_, ?_⟩ <;> decide +kernel
  have hbody : SpellsBody '\'' "it's\n\"".toList "it\\'s\\n\"".toList :=
    .cons (.plain (by decide) (by decide)) <| .cons (.plain (by decide) (by decide)) <|
      .cons .quote <| .cons (.plain (by decide) (by decide)) <| .cons .newline <|
        .cons (.plain (by decide) (by decide)) .nil
  -- From the last token back to the first, each with the gap in front of it.
  have hword : Written [.nullWord] (' ' :: ("undefined".toList ++ [])) :=
    .gap (by decide) (.token .undefinedWord nofun .nil)
  have hstring := Written.gap (c := ' ') (by decide)
    (.token (.string (Or.inr rfl) hbody) (by simp [separators]) hword)
  have hsymbol := Written.gap (c := '\n') (by decide)
    (.token (t := .strictEqual) (.symbol rfl) (by simp [separators]) hstring)
  have hname := Written.gap (c := ' ') (by decide)
    (.token (.identifier "nullable") (by simp [separators]) hsymbol)
  have hpoint := Written.gap (c := '\t') (by decide)
    (.token (t := .dot) (.symbol rfl) (by simp [separators]) hname)
  have hwritten := Written.token (.number 1.5) (by simp [separators]) hpoint
  have htext : (Decimal.plain.text 1.5).toList = "1.5".toList := by
    decide +kernel
  rw [htext] at hwritten
  exact ⟨hspellable, (tokenize_written hspellable).2 _ hwritten⟩

end Expression

end DataOutline
