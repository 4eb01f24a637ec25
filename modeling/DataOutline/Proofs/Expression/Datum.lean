import DataOutline.Proofs.Expression.Depth
import DataOutline.Proofs.Expression.Numbers
import DataOutline.Proofs.Grammar.SpelledLines

/-!
# JSON texts as expressions

What JSON writes for a value, the expression language reads as that value: the words, the strings
and the brackets of the one are those of the other, and a number with a sign is the negation of one
without. The text of a datum is on one line and is cut into tokens, the tokens are read as an
expression, and the expression has the datum for its value. All of this is shown of a datum at once,
by one induction, and with the levels counted, since a reader of expressions has only so many.

Where the two languages differ, the differences are left out: other control characters, which JSON
writes with codes, and the sign of a zero. That a number reads back from its text is assumed of each
number; it is a property of how decimals are rounded, not of the languages.
-/

namespace DataOutline

open Expression Text

/-! ## Data -/

/-- Whether a text has no control characters but those with a short escape in both languages. -/
def IsPlain (s : String) : Prop :=
  ∀ c ∈ s.toList, c.toNat < 0x20 → c = '\n' ∨ c = '\r' ∨ c = '\t'

def unsignedZero (x : Float) : Float := if x == 0 then 0 else x

/-- Whether the text of a number is read as this number again, but for the sign of a zero. -/
def ReadsBack (x : Float) : Prop :=
  Decimal.number? (Value.number x).toJson.text = some (unsignedZero x)

namespace Value

mutual

/-- A value with its zeros unsigned. -/
def unsignedZeros : Value → Value
  | .number x => .number (unsignedZero x)
  | .array items unordered => .array (unsignedZerosAll items) unordered
  | .object entries => .object (unsignedZerosEntries entries)
  | v => v

def unsignedZerosAll : List Value → List Value
  | [] => []
  | v :: vs => v.unsignedZeros :: unsignedZerosAll vs

def unsignedZerosEntries : List (String × Value) → List (String × Value)
  | [] => []
  | (k, v) :: es => (k, v.unsignedZeros) :: unsignedZerosEntries es

end

/-- A value that JSON can carry, of at most so many levels: arrays are ordered, names in an object
are distinct, numbers are finite and there are no functions. -/
inductive IsDatum : Nat → Value → Prop
  | null (n : Nat) : IsDatum n .null
  | boolean (n : Nat) (b : Bool) : IsDatum n (.boolean b)
  | number (n : Nat) {x : Float} (finite : x.isFinite = true) (reads : ReadsBack x) :
      IsDatum n (.number x)
  | string (n : Nat) {s : String} (plain : IsPlain s) : IsDatum n (.string s)
  | array {n : Nat} {items : List Value} (each : ∀ v ∈ items, IsDatum n v) :
      IsDatum (n + 1) (.array items false)
  | object {n : Nat} {entries : List (String × Value)} (plain : ∀ e ∈ entries, IsPlain e.1)
      (distinct : (entries.map Prod.fst).Nodup) (each : ∀ e ∈ entries, IsDatum n e.2) :
      IsDatum (n + 1) (.object entries)

end Value

/-! ## The text of one value -/

/-- Whether an expression in brackets can end here. -/
def Stops (rest : List Token) : Prop := ∀ token ∈ rest.head?, Delimits token

/-- `Denotes host context n text v ts e`: a text of one line is cut into tokens that are read as an
expression, and its value is `v`. With as many levels as `v` has, and two more for a number with its
sign, none of this goes too deep. -/
structure Denotes (host : Host Id) (context : Context) (n : Nat) (text : List Char) (v : Value)
    (ts : List Token) (e : Expression) : Prop where
  oneLine : '\n' ∉ text
  tokens : tokenize text = .ok ts
  starts : ∃ first more, ts = first :: more ∧ first ≠ .closeBracket
  reads : ∀ {levels : Nat} {rest : List Token}, n + 2 ≤ levels → Stops rest →
    readExpression levels 0 (ts ++ rest) = .ok (e, rest)
  evaluates : ∀ {level : Nat}, level + n + 1 ≤ levelLimit → value host context level e = .ok v

theorem Stops.noSuffix {rest : List Token} (h : Stops rest) : NoSuffix rest := by
  rcases rest with _ | ⟨token, rest⟩
  · exact nofun
  · exact (h token rfl).noSuffix rest

theorem Stops.ends {rest : List Token} (h : Stops rest) (power : Nat) : Ends power rest := by
  rcases rest with _ | ⟨token, rest⟩
  · exact ends_nil power
  · exact (h token rfl).ends power rest

theorem readExpression_of_readPrimary {levels power : Nat} {token : Token} {more rest : List Token}
    {e : Expression} (hread : readPrimary (readExpression levels) token more = .ok (e, rest))
    (stops : Stops rest) (sign : token ≠ .bang ∧ token ≠ .minus ∧ token ≠ .plus) :
    readExpression (levels + 1) power (token :: more) = .ok (e, rest) := by
  rw [readExpression, readOperand.eq_5 _ _ _ sign.1 sign.2.1 sign.2.2, hread, ok_bind]
  simp only [readSuffixes_stop stops.noSuffix, ok_bind]
  exact readOperators_stop (stops.ends power) _ _

section Scalars

variable (host : Host Id) (context : Context) (n : Nat)

theorem denotes_literal {text : List Char} {v : Value} {token : Token} {e : Expression}
    (oneLine : '\n' ∉ text) (tokens : tokenize text = .ok [token]) (is : literal? token = some e)
    (evaluates : ∀ {level : Nat}, level ≤ levelLimit → value host context level e = .ok v) :
    Denotes host context n text v [token] e where
  oneLine := oneLine
  tokens := tokens
  starts := by
    refine ⟨token, [], rfl, ?_⟩
    rintro rfl
    exact nomatch is
  reads := by
    intro levels rest hlevels stops
    obtain ⟨levels, rfl⟩ := Nat.exists_eq_add_of_le' (show 1 ≤ levels by omega)
    refine readExpression_of_readPrimary ?_ stops ?_
    · cases token with
      | number _ | string _ | identifier _ | trueWord | falseWord | nullWord =>
        cases is
        rfl
      | _ => exact nomatch is
    · refine ⟨?_, ?_, ?_⟩ <;> rintro rfl <;> exact nomatch is
  evaluates := fun h ↦ evaluates (by omega)

theorem denotes_negative {text : List Char} {x : Float} (oneLine : '\n' ∉ text)
    (tokens : tokenize text = .ok [.number x]) :
    Denotes host context n ('-' :: text) (.number (-x)) [.minus, .number x]
      (.unary .negate (.number x)) where
  oneLine := by
    rw [List.mem_cons, not_or]
    exact ⟨by decide, oneLine⟩
  tokens := by
    rw [tokenize_minus, tokens]
    rfl
  starts := ⟨_, _, rfl, nofun⟩
  reads := by
    intro levels rest hlevels stops
    obtain ⟨levels, rfl⟩ := Nat.exists_eq_add_of_le' (show 2 ≤ levels by omega)
    have hnumber : readExpression (levels + 1) operandPower (.number x :: rest) =
        .ok (.number x, rest) :=
      readExpression_of_readPrimary rfl stops ⟨nofun, nofun, nofun⟩
    rw [List.cons_append, List.cons_append, List.nil_append, readExpression, readOperand, hnumber,
      ok_bind]
    exact readOperators_stop (stops.ends 0) _ _
  evaluates := by
    intro level h
    rw [value_unary (by omega), value_number (by omega)]
    rfl

theorem exists_denotes_number {x : Float} (finite : x.isFinite = true) (reads : ReadsBack x) :
    ∃ ts e, Denotes host context n (Value.number x).toJson.text (.number (unsignedZero x)) ts
      e := by
  obtain ⟨negative, cs, hnumeral, htext⟩ := exists_numeral finite
  have hline : '\n' ∉ cs := by
    intro hmem
    rcases hnumeral.digit_or_mem _ hmem with h | h
    · exact nomatch h
    · exact absurd h (by decide)
  rw [ReadsBack, htext, number?_numeral negative hnumeral, Option.map_eq_some_iff] at reads
  obtain ⟨y, hy, hvalue⟩ := reads
  have htokens := hnumeral.tokenize hy
  rw [htext, ← hvalue]
  cases negative with
  | true => exact ⟨_, _, denotes_negative host context n hline htokens⟩
  | false => exact ⟨_, _, denotes_literal host context n hline htokens rfl fun h ↦ value_number h y⟩

/-- Where a string is plain, JSON escapes the same characters as a name in quotes, in the same
way. -/
theorem quote_eq_quoteName {s : String} (h : IsPlain s) : Json.quote s = quoteName s.toList := by
  have hescape : ∀ c ∈ s.toList, Json.escapeChar c = escapeName c := by
    intro c hc
    have hplain := h c hc
    unfold Json.escapeChar
    split
    · rfl
    · rfl
    · exact absurd (hplain (by decide)) (by decide)
    · exact absurd (hplain (by decide)) (by decide)
    · rfl
    · rfl
    · rfl
    · next hquote hslash _ _ hnewline hreturn htab =>
      have hlow : ¬c.toNat < 0x20 := fun hlow ↦
        (hplain hlow).elim hnewline fun h ↦ h.elim hreturn htab
      rw [if_neg hlow]
      unfold escapeName
      split <;> first | contradiction | rfl
  rw [Json.quote, quoteName, List.flatMap_congr hescape]

theorem newline_notMem_quoteName (name : List Char) : '\n' ∉ quoteName name := by
  intro hmem
  rw [quoteName, List.mem_cons, List.mem_append, List.mem_flatMap] at hmem
  rcases hmem with h | ⟨c, -, h⟩ | h
  · exact absurd h (by decide)
  · exact (notMem_escapeName c).1 h
  · exact absurd h (by decide)

theorem denotes_string {s : String} (plain : IsPlain s) :
    Denotes host context n (Value.string s).toJson.text (.string s) [.string s] (.string s) := by
  have htext : (Value.string s).toJson.text = quoteName s.toList := by
    rw [← quote_eq_quoteName plain]
    rfl
  have htokens : tokenize (quoteName s.toList) = .ok [.string s] := by
    have hname := tokenize_quoteName s []
    rwa [List.append_nil] at hname
  rw [htext]
  exact denotes_literal host context n (newline_notMem_quoteName _) htokens rfl fun h ↦
    value_string h s

end Scalars

/-! ## Lists of values -/

section Lists

variable {α : Type} {sub : Reader} {as : List α} {expression : α → Expression}
  {tokens : α → List Token}

theorem length_le_length_intercalate (parts : List (List Token)) :
    parts.length ≤ ([Token.comma].intercalate parts).length + 1 := by
  induction parts with
  | nil => exact Nat.zero_le _
  | cons part parts ih =>
    rcases parts with _ | ⟨next, parts⟩
    · exact Nat.le_add_left _ _
    · rw [List.intercalate_cons_cons, List.length_append, List.length_append, List.length_cons,
        List.length_singleton]
      omega

theorem readItems_intercalate {fuel : Nat} {rest : List Token}
    (starts : ∀ a ∈ as, ∃ first more, tokens a = first :: more ∧ first ≠ .closeBracket)
    (reads : ∀ a ∈ as, ∀ {rest : List Token}, Stops rest →
      sub 0 (tokens a ++ rest) = .ok (expression a, rest)) (enough : as.length < fuel) :
    readItems sub .closeBracket fuel
        ([Token.comma].intercalate (as.map tokens) ++ .closeBracket :: rest) =
      .ok (as.map expression, rest) := by
  induction as generalizing fuel with
  | nil =>
    obtain ⟨fuel, rfl⟩ := Nat.exists_eq_succ_of_ne_zero (Nat.ne_of_gt enough)
    rfl
  | cons a as ih =>
    obtain ⟨fuel, rfl⟩ := Nat.exists_eq_succ_of_ne_zero (Nat.ne_zero_of_lt enough)
    obtain ⟨hstart, hstarts⟩ := List.forall_mem_cons.mp starts
    obtain ⟨hread, hreads⟩ := List.forall_mem_cons.mp reads
    obtain ⟨first, more, htokens, hne⟩ := hstart
    have hopen : ∀ rest, (tokens a ++ rest).head? ≠ some .closeBracket := by
      intro rest hhead
      rw [htokens] at hhead
      exact hne (Option.some.inj hhead)
    rcases as with _ | ⟨a', as⟩
    · have hstops : Stops (Token.closeBracket :: rest) := by
        rintro _ ⟨⟩
        exact .closeBracket
      rw [List.map_singleton, List.intercalate_singleton, readItems, if_neg (hopen _),
        hread hstops]
      rfl
    · have hmore := ih hstarts hreads (Nat.lt_of_succ_lt_succ enough)
      have hstops : ∀ rest, Stops (Token.comma :: rest) := by
        rintro rest _ ⟨⟩
        exact .comma
      simp only [List.map_cons] at hmore ⊢
      rw [List.intercalate_cons_cons, List.append_assoc, List.append_assoc, readItems,
        if_neg (hopen _), List.singleton_append, hread (hstops _), ok_bind]
      simp only [hmore, ok_bind]
      rfl

theorem readEntries_intercalate {fuel : Nat} {rest : List Token} (name : α → String)
    (reads : ∀ a ∈ as, ∀ {rest : List Token}, Stops rest →
      sub 0 (tokens a ++ rest) = .ok (expression a, rest)) (enough : as.length < fuel) :
    readEntries sub fuel ([Token.comma].intercalate
        (as.map fun a ↦ .string (name a) :: .colon :: tokens a) ++ .closeBrace :: rest) =
      .ok (as.map fun a ↦ (name a, expression a), rest) := by
  induction as generalizing fuel with
  | nil =>
    obtain ⟨fuel, rfl⟩ := Nat.exists_eq_succ_of_ne_zero (Nat.ne_of_gt enough)
    rfl
  | cons a as ih =>
    obtain ⟨fuel, rfl⟩ := Nat.exists_eq_succ_of_ne_zero (Nat.ne_zero_of_lt enough)
    obtain ⟨hread, hreads⟩ := List.forall_mem_cons.mp reads
    have hname : Token.string (name a) ≠ .closeBrace := nofun
    rcases as with _ | ⟨a', as⟩
    · have hstops : Stops (Token.closeBrace :: rest) := by
        rintro _ ⟨⟩
        exact .closeBrace
      rw [List.map_singleton, List.intercalate_singleton, List.cons_append, List.cons_append,
        readEntries_cons _ hname]
      change (sub 0 (tokens a ++ _) >>= _) = _
      rw [hread hstops]
      rfl
    · have hmore := ih hreads (Nat.lt_of_succ_lt_succ enough)
      have hstops : ∀ rest, Stops (Token.comma :: rest) := by
        rintro rest _ ⟨⟩
        exact .comma
      simp only [List.map_cons] at hmore ⊢
      rw [List.intercalate_cons_cons, List.append_assoc, List.append_assoc, List.cons_append,
        List.cons_append, readEntries_cons _ hname, List.singleton_append]
      change (sub 0 (tokens a ++ _) >>= _) = _
      rw [hread (hstops _), ok_bind]
      simp only [hmore]
      rfl

end Lists

/-! ## Arrays and objects -/

theorem Value.unsignedZerosAll_eq_map (vs : List Value) :
    unsignedZerosAll vs = vs.map unsignedZeros := by
  induction vs with
  | nil => rfl
  | cons v vs ih => rw [unsignedZerosAll, List.map_cons, ih]

theorem Value.unsignedZerosEntries_eq_map (es : List (String × Value)) :
    unsignedZerosEntries es = es.map fun e ↦ (e.1, e.2.unsignedZeros) := by
  induction es with
  | nil => rfl
  | cons e es ih => rw [unsignedZerosEntries, List.map_cons, ih]

theorem Json.texts_eq_map (js : List Json) : texts js = js.map text := by
  induction js with
  | nil => rfl
  | cons j js ih => rw [texts, List.map_cons, ih]

theorem Json.entryTexts_eq_map (es : List (String × Json)) :
    entryTexts es = es.map fun e ↦ quote e.1 ++ ':' :: e.2.text := by
  induction es with
  | nil => rfl
  | cons e es ih => rw [entryTexts, List.map_cons, ih]

theorem text_array (items : List Value) (unordered : Bool) :
    (Value.array items unordered).toJson.text =
      '[' :: ([','].intercalate (items.map fun v ↦ v.toJson.text) ++ [']']) := by
  rw [Value.toJson, Json.text, Json.texts_eq_map, Value.toJsonItems_eq_map, List.map_map]
  rfl

theorem text_object (entries : List (String × Value)) :
    (Value.object entries).toJson.text = '\x7b' ::
      ([','].intercalate (entries.map fun e ↦ Json.quote e.1 ++ ':' :: e.2.toJson.text) ++
        ['\x7d']) := by
  rw [Value.toJson, Json.text, Json.entryTexts_eq_map, Value.toJsonEntries_eq_map, List.map_map]
  rfl

theorem newline_notMem_intercalate {parts : List (List Char)} (h : ∀ part ∈ parts, '\n' ∉ part) :
    '\n' ∉ [','].intercalate parts := by
  intro hmem
  rcases mem_intercalate hmem with hcomma | ⟨part, hpart, hmem⟩
  · exact absurd hcomma (by decide)
  · exact h part hpart hmem

section Containers

variable {host : Host Id} {context : Context} {n : Nat}

theorem denotes_array {items : List Value} {tokens : Value → List Token}
    {expression : Value → Expression}
    (each : ∀ v ∈ items,
      Denotes host context n v.toJson.text v.unsignedZeros (tokens v) (expression v)) :
    Denotes host context (n + 1) (Value.array items false).toJson.text
      (Value.array items false).unsignedZeros
      (.openBracket :: ([Token.comma].intercalate (items.map tokens) ++ [.closeBracket]))
      (.array (items.map expression)) where
  oneLine := by
    rw [text_array, List.mem_cons, List.mem_append, not_or, not_or]
    refine ⟨by decide, newline_notMem_intercalate ?_, by decide⟩
    exact List.forall_mem_map.mpr fun v hv ↦ (each v hv).oneLine
  tokens := by
    rw [text_array]
    exact tokenize_array [] nofun fun v hv ↦ (each v hv).tokens
  starts := ⟨_, _, rfl, nofun⟩
  reads := by
    intro levels rest hlevels stops
    obtain ⟨levels, rfl⟩ := Nat.exists_eq_add_of_le' (show 1 ≤ levels by omega)
    have hlength := length_le_length_intercalate (items.map tokens)
    rw [List.length_map] at hlength
    rw [List.cons_append, List.append_assoc, List.singleton_append]
    refine readExpression_of_readPrimary ?_ stops ⟨nofun, nofun, nofun⟩
    rw [readPrimary,
      readItems_intercalate (fun v hv ↦ (each v hv).starts)
        (fun v hv _ hstops ↦ (each v hv).reads (by omega) hstops)
        (by rw [List.length_append, List.length_cons]; omega)]
    rfl
  evaluates := by
    intro level h
    have hvalues : (items.map expression).mapM (value host context (level + 1)) =
        .ok (items.map Value.unsignedZeros) := by
      rw [List.mapM_map]
      exact mapM_eq_ok_map fun v hv ↦ (each v hv).evaluates (by omega)
    rw [value_array (by omega), hvalues, Value.unsignedZeros, Value.unsignedZerosAll_eq_map]
    rfl

theorem denotes_object {entries : List (String × Value)}
    {tokens : String × Value → List Token} {expression : String × Value → Expression}
    (plain : ∀ e ∈ entries, IsPlain e.1) (distinct : (entries.map Prod.fst).Nodup)
    (each : ∀ e ∈ entries,
      Denotes host context n e.2.toJson.text e.2.unsignedZeros (tokens e) (expression e)) :
    Denotes host context (n + 1) (Value.object entries).toJson.text
      (Value.object entries).unsignedZeros
      (.openBrace :: ([Token.comma].intercalate
        (entries.map fun e ↦ .string e.1 :: .colon :: tokens e) ++ [.closeBrace]))
      (.object (entries.map fun e ↦ (e.1, expression e))) where
  oneLine := by
    rw [text_object, List.mem_cons, List.mem_append, not_or, not_or]
    refine ⟨by decide, newline_notMem_intercalate ?_, by decide⟩
    refine List.forall_mem_map.mpr fun e he ↦ ?_
    rw [quote_eq_quoteName (plain e he), List.mem_append, List.mem_cons, not_or, not_or]
    exact ⟨newline_notMem_quoteName _, by decide, (each e he).oneLine⟩
  tokens := by
    rw [text_object]
    refine tokenize_object [] nofun fun e he ↦ ?_
    rw [quote_eq_quoteName (plain e he)]
    exact tokenize_entry [] nofun e.1 (each e he).tokens
  starts := ⟨_, _, rfl, nofun⟩
  reads := by
    intro levels rest hlevels stops
    obtain ⟨levels, rfl⟩ := Nat.exists_eq_add_of_le' (show 1 ≤ levels by omega)
    have hlength := length_le_length_intercalate
      (entries.map fun e ↦ Token.string e.1 :: .colon :: tokens e)
    rw [List.length_map] at hlength
    rw [List.cons_append, List.append_assoc, List.singleton_append]
    refine readExpression_of_readPrimary ?_ stops ⟨nofun, nofun, nofun⟩
    rw [readPrimary,
      readEntries_intercalate Prod.fst (fun e he _ hstops ↦ (each e he).reads (by omega) hstops)
        (by rw [List.length_append, List.length_cons]; omega)]
    rfl
  evaluates := by
    intro level h
    have hvalues : (entries.map expression).mapM (value host context (level + 1)) =
        .ok (entries.map fun e ↦ e.2.unsignedZeros) := by
      rw [List.mapM_map]
      exact mapM_eq_ok_map fun e he ↦ (each e he).evaluates (by omega)
    have hnames : (entries.map fun e ↦ (e.1, e.2.unsignedZeros)).map Prod.fst =
        entries.map Prod.fst := by
      rw [List.map_map]
      rfl
    rw [value_object (by omega), List.map_map, List.map_map]
    change (fun values ↦ Value.object (Entries.ofList ((entries.map Prod.fst).zip values))) <$>
      (entries.map expression).mapM (value host context (level + 1)) = _
    rw [hvalues, Value.unsignedZeros, Value.unsignedZerosEntries_eq_map]
    change Except.ok (Value.object (Entries.ofList ((entries.map Prod.fst).zip
      (entries.map fun e ↦ e.2.unsignedZeros)))) = _
    rw [List.zip_map', Entries.ofList_eq_self (by rw [hnames]; exact distinct)]

end Containers

/-- **The JSON text of a datum is an expression of its value**, cut, read and evaluated without
going too deep. By induction on the datum. -/
theorem Value.IsDatum.exists_denotes (host : Host Id) (context : Context) {n : Nat} {v : Value}
    (h : IsDatum n v) :
    ∃ ts e, Denotes host context n v.toJson.text v.unsignedZeros ts e := by
  induction h with
  | null n =>
    have htokens : tokenize Value.null.toJson.text = .ok [.nullWord] := rfl
    exact ⟨_, _, denotes_literal host context n (by decide) htokens rfl value_null⟩
  | boolean n b =>
    have htokens : tokenize (Value.boolean b).toJson.text =
        .ok [if b then .trueWord else .falseWord] := by
      cases b <;> rfl
    have hline : '\n' ∉ (Value.boolean b).toJson.text := by
      cases b <;> decide
    exact ⟨_, .boolean b, denotes_literal host context n hline htokens (by cases b <;> rfl)
      fun h ↦ value_boolean h b⟩
  | number n finite reads => exact exists_denotes_number host context n finite reads
  | string n plain => exact ⟨_, _, denotes_string host context n plain⟩
  | array _ ih =>
    choose! tokens expression each using ih
    exact ⟨_, _, denotes_array each⟩
  | object plain distinct _ ih =>
    choose! tokens expression each using ih
    exact ⟨_, _, denotes_object plain distinct each⟩

end DataOutline
