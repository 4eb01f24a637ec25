import DataOutline.Proofs.Expression.Depth
import DataOutline.Proofs.Expression.Tokens
import DataOutline.Proofs.Program.Compilation

/-!
# Values as literals

An array or an object can be written over lines, as a value block, or in one expression, as a
literal. The one is compiled and run part by part; the other is cut into tokens, parsed and
evaluated as a whole. Both come to the same: cutting and parsing go part by part as well, since each
part of a literal ends in front of a comma or a bracket, and a part that is evaluated on its own has
the value that it has inside, where it is only deeper.
-/

namespace DataOutline

open Expression Program

variable {U : Type}

/-! ## Literals -/

namespace ValueTree

mutual

/-- A value as the text of an expression. -/
def literal : ValueTree U → List Char
  | .array _ _ elements => '[' :: ([',', ' '].intercalate (literals elements) ++ [']'])
  | .object _ entries => '\x7b' :: ([',', ' '].intercalate (entryLiterals entries) ++ ['\x7d'])
  | .expression _ code => code.toList
  | .mixin .. | .compiled .. => []

def literals : List (ValueTree U) → List (List Char)
  | [] => []
  | t :: ts => literal t :: literals ts

/-- The texts of entries, their names in quotes. -/
def entryLiterals : List (String × ValueTree U) → List (List Char)
  | [] => []
  | (k, t) :: es => (quoteName k.toList ++ ':' :: ' ' :: literal t) :: entryLiterals es

end

/-- A value that is made of ordered arrays, objects and expressions, with codes that can be
parsed. -/
inductive IsLiteral : ValueTree U → Prop
  | array (block : Block) {elements : List (ValueTree U)} (each : ∀ t ∈ elements, IsLiteral t) :
      IsLiteral (.array block false elements)
  | object (block : Block) {entries : List (String × ValueTree U)}
      (each : ∀ e ∈ entries, IsLiteral e.2) : IsLiteral (.object block entries)
  | expression (block : Block) {code : String} {e : Expression} (parses : parse code = .ok e) :
      IsLiteral (.expression block code)

theorem literals_eq_map (ts : List (ValueTree U)) : literals ts = ts.map literal := by
  induction ts with
  | nil => rfl
  | cons t ts ih => rw [literals, List.map_cons, ih]

theorem entryLiterals_eq_map (es : List (String × ValueTree U)) :
    entryLiterals es = es.map fun e ↦ quoteName e.1.toList ++ ':' :: ' ' :: literal e.2 := by
  induction es with
  | nil => rfl
  | cons e es ih => rw [entryLiterals, List.map_cons, ih]

end ValueTree

open ValueTree

/-! ## The phrase of a list -/

section Phrases

variable {α : Type} {as : List α} {expression : α → Expression} {tokens : α → List Token}
  (each : ∀ a ∈ as, Derives (.expression .conditional (expression a)) (tokens a))
include each

theorem derives_items :
    Derives (.items (as.map expression)) ([Token.comma].intercalate (as.map tokens)) := by
  induction as with
  | nil => exact .noItem
  | cons a as ih =>
    obtain ⟨hfirst, hmore⟩ := List.forall_mem_cons.mp each
    rcases as with _ | ⟨a', as⟩
    · rw [List.map_singleton, List.map_singleton, List.intercalate_singleton]
      exact .lastItem hfirst
    · have hitems := ih hmore
      simp only [List.map_cons] at hitems ⊢
      rw [List.intercalate_cons_cons, List.append_assoc]
      exact .consItem hfirst hitems

theorem derives_entries (name : α → String) :
    Derives (.entries (as.map fun a ↦ (name a, expression a)))
      ([Token.comma].intercalate (as.map fun a ↦ .string (name a) :: .colon :: tokens a)) := by
  induction as with
  | nil => exact .noEntry
  | cons a as ih =>
    obtain ⟨hfirst, hmore⟩ := List.forall_mem_cons.mp each
    have hentry := Derives.pair (.string (name a)) hfirst
    rcases as with _ | ⟨a', as⟩
    · rw [List.map_singleton, List.map_singleton, List.intercalate_singleton]
      exact .lastEntry hentry
    · have hentries := ih hmore
      simp only [List.map_cons] at hentries ⊢
      rw [List.intercalate_cons_cons, List.append_assoc]
      exact .consEntry hentry hentries

end Phrases

/-! ## One value, both ways -/

section Results

variable (host : Host Id) (context : Context)

def Program.result (p : Program) : Except RunError Value :=
  (outcome (evaluateText host) context p).mapError Failure.error

variable {host context}

theorem result_array (unordered : Bool) (elements : List Program) :
    result host context (.array unordered elements) =
      (Value.array · unordered) <$> elements.mapM (result host context) := by
  rw [result, outcome_array]
  unfold result
  rw [← mapError_mapM]
  cases elements.mapM (outcome (evaluateText host) context) <;> rfl

theorem result_object (entries : List (String × Program)) :
    result host context (.object entries) =
      (fun values ↦ Value.object (Entries.ofList ((entries.map Prod.fst).zip values))) <$>
        (entries.map Prod.snd).mapM (result host context) := by
  rw [result, outcome_object]
  unfold result
  rw [← mapError_mapM]
  cases (entries.map Prod.snd).mapM (outcome (evaluateText host) context) <;> rfl

theorem result_expression (span : Span) (code : String) :
    result host context (.expression span code) =
      DataOutline.settled (evaluateText host code context) := by
  rw [result, outcome_expression]
  cases DataOutline.settled (evaluateText host code context) <;> rfl

end Results

/-- `Matches host context t p e ts`: the program of a value and the expression that its literal is,
cut into these tokens, come to the same. -/
structure Matches (host : Host Id) (context : Context) (t : ValueTree U) (p : Program)
    (e : Expression) (ts : List Token) : Prop where
  compiles : compile t = .ok p
  tokens : tokenize t.literal = .ok ts
  derives : Derives (.expression .conditional e) ts
  agrees : ∀ level, Yields True (value host context level e) (result host context p)

variable {host : Host Id} {context : Context}

theorem matches_expression (block : Block) {code : String} {e : Expression}
    (parses : parse code = .ok e) :
    ∃ ts, Matches host context (.expression block code : ValueTree U)
      (.expression block.span code) e ts := by
  obtain ⟨ts, htokens, hof⟩ := exists_tokens_of_parse parses
  refine ⟨ts, rfl, htokens, ofTokens_sound hof, fun level ↦ ?_⟩
  rw [result_expression, settled_evaluateText, parses]
  exact value_yields e (Nat.zero_le level)

theorem Matches.mapM_value {α : Type} {as : List α} {tree : α → ValueTree U} {program : α → Program}
    {expression : α → Expression} {tokens : α → List Token}
    (each : ∀ a ∈ as, Matches host context (tree a) (program a) (expression a) (tokens a))
    (level : Nat) :
    Yields True ((as.map expression).mapM (value host context level))
      ((as.map program).mapM (result host context)) := by
  rw [List.mapM_map, List.mapM_map]
  exact .mapM fun a ha ↦ (each a ha).agrees level

theorem matches_array (block : Block) {elements : List (ValueTree U)}
    {program : ValueTree U → Program} {expression : ValueTree U → Expression}
    {tokens : ValueTree U → List Token}
    (each : ∀ t ∈ elements, Matches host context t (program t) (expression t) (tokens t)) :
    Matches host context (.array block false elements) (.array false (elements.map program))
      (.array (elements.map expression))
      (.openBracket :: ([Token.comma].intercalate (elements.map tokens) ++ [.closeBracket])) where
  compiles := by
    rw [compile, compileAll_eq_mapM, mapM_eq_ok_map fun t ht ↦ (each t ht).compiles]
    rfl
  tokens := by
    rw [literal, literals_eq_map]
    exact tokenize_array [' '] (List.all_eq_true.mp rfl) fun t ht ↦ (each t ht).tokens
  derives := by
    have hitems := derives_items fun t ht ↦ (each t ht).derives
    exact (Derives.array hitems).loosen (by decide)
  agrees := by
    intro level
    refine yields_of_le fun h ↦ ?_
    rw [value_array h, result_array]
    exact (Matches.mapM_value each (level + 1)).map _

theorem matches_object (block : Block) {entries : List (String × ValueTree U)}
    {program : String × ValueTree U → Program} {expression : String × ValueTree U → Expression}
    {tokens : String × ValueTree U → List Token}
    (each : ∀ e ∈ entries, Matches host context e.2 (program e) (expression e) (tokens e)) :
    Matches host context (.object block entries) (.object (entries.map fun e ↦ (e.1, program e)))
      (.object (entries.map fun e ↦ (e.1, expression e)))
      (.openBrace :: ([Token.comma].intercalate
        (entries.map fun e ↦ .string e.1 :: .colon :: tokens e) ++ [.closeBrace])) where
  compiles := by
    have hcompiles : (entries.map Prod.snd).mapM compile = .ok (entries.map program) := by
      rw [List.mapM_map]
      exact mapM_eq_ok_map fun e he ↦ (each e he).compiles
    rw [compile, compileEntries_eq, hcompiles]
    change Except.ok (Program.object ((entries.map Prod.fst).zip (entries.map program))) = _
    rw [List.zip_map']
  tokens := by
    rw [literal, entryLiterals_eq_map]
    have hgap : ∀ c ∈ [' '], isSeparator c = true := List.all_eq_true.mp rfl
    exact tokenize_object [' '] hgap fun e he ↦ tokenize_entry [' '] hgap e.1 (each e he).tokens
  derives := by
    have hentries := derives_entries (fun e he ↦ (each e he).derives) Prod.fst
    exact (Derives.object hentries).loosen (by decide)
  agrees := by
    intro level
    refine yields_of_le fun h ↦ ?_
    rw [value_object h, result_object]
    simp only [List.map_map, Function.comp_def]
    exact (Matches.mapM_value each (level + 1)).map _

/-- By induction on the value: the parts of a literal match, and so does the whole. -/
theorem ValueTree.IsLiteral.exists_matches (host : Host Id) (context : Context) {t : ValueTree U}
    (h : t.IsLiteral) : ∃ p e ts, Matches host context t p e ts := by
  induction h with
  | array block _ ih =>
    choose! program expression tokens each using ih
    exact ⟨_, _, _, matches_array block each⟩
  | object block _ ih =>
    choose! program expression tokens each using ih
    exact ⟨_, _, _, matches_object block each⟩
  | expression block parses =>
    obtain ⟨ts, hmatches⟩ := matches_expression block parses
    exact ⟨_, _, ts, hmatches⟩

/-! ## Value blocks and literals -/

/-- **A value block and its literal come to the same.** Host functions have no effects here. If the
literal is not nested too deeply to be evaluated in one piece, the block compiles, and its run has
the value of the literal or fails with the error of its evaluation. -/
theorem run_eq_literal (host : Host Id) (context : Context) {t : ValueTree U} (h : t.IsLiteral)
    (shallow : DataOutline.settled (evaluateText host (String.ofList t.literal) context) ≠
      .error .tooDeep) :
    ∃ p, compile t = .ok p ∧
      (outcome (evaluateText host) context p).mapError Failure.error =
        DataOutline.settled (evaluateText host (String.ofList t.literal) context) := by
  obtain ⟨p, e, ts, hmatches⟩ := h.exists_matches host context
  refine ⟨p, hmatches.compiles, ?_⟩
  rw [settled_evaluateText, parse_ofList hmatches.tokens] at shallow ⊢
  rcases ofTokens_complete hmatches.derives with hof | ⟨-, hdeep⟩
  · rw [hof, ok_bind] at shallow ⊢
    rcases hmatches.agrees 0 with hagree | ⟨-, hdeep⟩
    · exact hagree.symm
    · exact absurd hdeep shallow
  · rw [hdeep] at shallow
    exact absurd rfl shallow

/-- An array with an object in it that names an entry twice. -/
def twice : ValueTree Empty :=
  .array ⟨⟨2, 3⟩, ""⟩ false [.expression ⟨⟨2, 1⟩, ""⟩ "a", .object ⟨⟨3, 2⟩, ""⟩
    [("k", .expression ⟨⟨3, 1⟩, ""⟩ "a"), ("k", .expression ⟨⟨4, 1⟩, ""⟩ "b")]]

theorem isLiteral_twice : twice.IsLiteral := by
  have ha : ∀ block, IsLiteral (.expression block "a" : ValueTree Empty) :=
    fun block ↦ .expression block (e := .identifier "a") rfl
  have hb : ∀ block, IsLiteral (.expression block "b" : ValueTree Empty) :=
    fun block ↦ .expression block (e := .identifier "b") rfl
  refine .array _ (List.forall_mem_cons.mpr ⟨ha _, List.forall_mem_singleton.mpr ?_⟩)
  exact .object _ (List.forall_mem_cons.mpr ⟨ha _, List.forall_mem_singleton.mpr (hb _)⟩)

/-- The later one of two entries counts, in the block and in the literal. -/
theorem run_eq_literal_twice :
    ∃ p, compile twice = .ok p ∧
      (outcome (evaluateText ⟨fun f _ ↦ throw (.notCallable f.name)⟩)
        ⟨[("a", .boolean true), ("b", .null)]⟩ p).mapError Failure.error =
          .ok (.array [.boolean true, .object [("k", .null)]] false) := by
  have hvalue : DataOutline.settled (evaluateText ⟨fun f _ ↦ throw (.notCallable f.name)⟩
      (String.ofList twice.literal) ⟨[("a", .boolean true), ("b", .null)]⟩) =
        .ok (.array [.boolean true, .object [("k", .null)]] false) := by
    rw [settled_evaluateText, parse, String.toList_ofList]
    rfl
  rw [← hvalue]
  exact run_eq_literal _ _ isLiteral_twice (by rw [hvalue]; rintro ⟨⟩)

end DataOutline
