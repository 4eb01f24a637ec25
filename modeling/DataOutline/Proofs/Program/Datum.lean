import DataOutline.Proofs.Expression.Datum
import DataOutline.Proofs.Grammar.Recovery

/-!
# JSON data as documents

The compact JSON text of a datum stands on one line, so it can be the whole of a value block. None
of the beginnings that decide what a block is occur in it: a word or a number holds neither a colon
nor a blank, a string ends where its closing quote stands, and no key and no mixin begins with a
bracket. So the block is an expression, and a run of it gives the datum back.
-/

namespace DataOutline

open Expression Grammar Text

/-! ## Lines that begin nothing -/

theorem key?_eq_none_of_notMem {form : KeyForm} {line : Line} (hquote : line.head? ≠ some '"')
    (hcolon : ':' ∉ line) : key? form line = none := by
  have hrest : ':' ∉ (pathPart line).2 := by
    rw [pathPart, List.span_eq_takeWhile_dropWhile]
    exact fun hmem ↦ hcolon ((List.dropWhile_suffix _).subset hmem)
  cases hname : keyName? form line with
  | none => rw [key?, hname]
  | some found =>
    obtain ⟨name, rest⟩ := found
    have hno : ':' ∉ rest := by
      rw [keyName?_of_head_ne hquote] at hname
      split at hname
      · split at hname
        · next heq =>
          cases hname
          rw [heq] at hrest
          exact fun hmem ↦ hrest (List.mem_cons_of_mem _ hmem)
        · cases hname
          exact hrest
      · cases hname
    rw [key?.eq_def, hname]
    split
    · next heq =>
      cases heq
      exact absurd List.mem_cons_self hno
    · next heq =>
      cases heq
      exact absurd List.mem_cons_self hno
    · rfl

theorem mixin?_eq_none_of_noBlank {line : Line} (h : ∀ c ∈ line, isBlank c = false) :
    mixin? line = none := by
  have hblank : ∀ n, ((line.drop n).head?.any isBlank) = false := by
    intro n
    cases hhead : (line.drop n).head? with
    | none => rfl
    | some c => exact h c (List.mem_of_mem_drop (List.mem_of_mem_head? hhead))
  simp only [mixin?, hblank, Bool.and_false, Bool.false_eq_true, if_false]

theorem mixin?_eq_none_of_head {c : Char} {line : Line} (h : isPathChar c = false) :
    mixin? (c :: line) = none := by
  have hpart : pathPart ([] ++ c :: line) = ([], c :: line) :=
    pathPart_eq nofun fun d hd ↦ by cases hd; exact h
  rw [List.nil_append] at hpart
  have hpath : isPath [] = false := by
    rw [isPath, List.splitOn_nil]
    rfl
  simp only [mixin?, hpart, hpath, Bool.false_and, Bool.false_eq_true, if_false]

/-! ## The text of a datum as a code -/

/-- Whether a character separates nothing and marks nothing in a line. -/
def isInert (c : Char) : Bool := !isBlank c && !List.contains [':', '/', '*', '@', '"', '\n'] c

theorem isInert_iff {c : Char} :
    isInert c = true ↔ isBlank c = false ∧ c ∉ [':', '/', '*', '@', '"', '\n'] := by
  rw [isInert, Bool.and_eq_true, Bool.not_eq_true', Bool.not_eq_true', List.contains_eq_mem,
    decide_eq_false_iff_not]

theorem isInert_of_isDigit {c : Char} (h : isDigit c = true) : isInert c = true := by
  refine isInert_iff.mpr ⟨isBlank_of_isPathChar ?_, fun hmem ↦ ?_⟩
  · rw [isPathChar, isWordChar, h, Bool.or_true, Bool.true_or, Bool.true_or, Bool.true_or]
  · have hother : ∀ d ∈ [':', '/', '*', '@', '"', '\n'], (!isDigit d) = true :=
      List.all_eq_true.mp rfl
    have hno := hother c hmem
    rw [h] at hno
    exact Bool.false_ne_true hno

theorem isCode_of_isInert {text : Line} (nonempty : text ≠ [])
    (h : ∀ c ∈ text, isInert c = true) : IsCode text := by
  have hblank : ∀ c ∈ text, isBlank c = false := fun c hc ↦ (isInert_iff.mp (h c hc)).1
  have habsent : ∀ c ∈ [':', '/', '*', '@', '"', '\n'], c ∉ text :=
    fun c hc hmem ↦ (isInert_iff.mp (h c hmem)).2 hc
  obtain ⟨first, more, rfl⟩ := List.exists_cons_of_ne_nil nonempty
  have hfirst : ∀ c ∈ [':', '/', '*', '@', '"', '\n'], c ≠ first := by
    rintro c hc rfl
    exact habsent c hc List.mem_cons_self
  exact {
    nonempty := nonempty
    oneLine := habsent '\n' (by decide)
    first := fun c hc ↦ hblank c (List.mem_of_mem_head? hc)
    last := fun c hc ↦ hblank c (List.mem_of_mem_getLast? hc)
    noComment := fun hslashes ↦ habsent '/' (by decide) (hslashes.subset List.mem_cons_self)
    noMarker := marker?_eq_none (hfirst '*' (by decide)).symm (hfirst '@' (by decide)).symm
    noKey := key?_eq_none_of_notMem
      (fun hhead ↦ hfirst '"' (by decide) (Option.some.inj hhead).symm)
      (habsent ':' (by decide))
    noMixin := mixin?_eq_none_of_noBlank hblank }

theorem isCode_of_brackets {opening closing : Char} {body : Line} (oneLine : '\n' ∉ body)
    (isPair : opening = '[' ∧ closing = ']' ∨ opening = '\x7b' ∧ closing = '\x7d') :
    IsCode (opening :: (body ++ [closing])) := by
  obtain ⟨hblank, hpath, hother⟩ : isBlank opening = false ∧ isPathChar opening = false ∧
      opening ∉ ['/', '*', '@', '"', '\n'] := by
    rcases isPair with ⟨rfl, -⟩ | ⟨rfl, -⟩ <;> decide
  obtain ⟨hend, hnewline⟩ : isBlank closing = false ∧ closing ≠ '\n' := by
    rcases isPair with ⟨-, rfl⟩ | ⟨-, rfl⟩ <;> decide
  have hne : ∀ c ∈ ['/', '*', '@', '"', '\n'], opening ≠ c := by
    rintro c hc rfl
    exact hother hc
  exact {
    nonempty := List.cons_ne_nil _ _
    oneLine := by
      rw [List.mem_cons, List.mem_append, List.mem_singleton, not_or, not_or]
      exact ⟨(hne '\n' (by decide)).symm, oneLine, hnewline.symm⟩
    first := fun c hc ↦ by
      cases hc
      exact hblank
    last := fun c hc ↦ by
      rw [← List.cons_append, List.getLast?_concat] at hc
      cases hc
      exact hend
    noComment := fun hslashes ↦ hne '/' (by decide) (List.cons_prefix_cons.mp hslashes).1.symm
    noMarker := marker?_eq_none (hne '*' (by decide)) (hne '@' (by decide))
    noKey := key?_eq_none (hne '"' (by decide)) hpath
    noMixin := mixin?_eq_none_of_head hpath }

theorem isCode_quoteName (name : List Char) : IsCode (quoteName name) where
  nonempty := List.cons_ne_nil _ _
  oneLine := newline_notMem_quoteName name
  first := fun c hc ↦ by
    cases hc
    rfl
  last := fun c hc ↦ by
    rw [quoteName, ← List.cons_append, List.getLast?_concat] at hc
    cases hc
    rfl
  noComment := fun hslashes ↦ absurd (List.cons_prefix_cons.mp hslashes).1 (by decide)
  noMarker := marker?_eq_none (by decide) (by decide)
  noKey := by
    rw [quoteName, key?, keyName?, quotedBody_flatMap_escapeName]
  noMixin := mixin?_eq_none_of_head rfl

theorem Value.IsDatum.isCode {n : Nat} {v : Value} (h : IsDatum n v)
    (oneLine : '\n' ∉ v.toJson.text) : IsCode v.toJson.text := by
  cases h with
  | null => exact isCode_of_isInert (by decide) (List.all_eq_true.mp rfl)
  | boolean _ b =>
    cases b
    · exact isCode_of_isInert (by decide) (List.all_eq_true.mp rfl)
    · exact isCode_of_isInert (by decide) (List.all_eq_true.mp rfl)
  | number _ finite _ =>
    obtain ⟨negative, cs, hnumeral, htext⟩ := exists_numeral finite
    obtain ⟨first, more, hcons, -⟩ := hnumeral.exists_cons
    have hother : ∀ c ∈ ['.', 'e', '+', '-'], isInert c = true := List.all_eq_true.mp rfl
    rw [htext]
    refine isCode_of_isInert ?_ (List.forall_mem_append.mpr ⟨fun c hc ↦ hother c ?_, fun c hc ↦ ?_⟩)
    · rw [hcons]
      exact List.append_ne_nil_of_right_ne_nil _ (List.cons_ne_nil _ _)
    · cases negative with
      | false => exact absurd hc List.not_mem_nil
      | true =>
        rw [List.mem_singleton.mp hc]
        decide
    · exact (hnumeral.digit_or_mem c hc).elim isInert_of_isDigit (hother c)
  | @string _ s plain =>
    change IsCode (Json.quote s)
    rw [quote_eq_quoteName plain]
    exact isCode_quoteName s.toList
  | array =>
    rw [text_array] at oneLine ⊢
    rw [List.mem_cons, List.mem_append, not_or, not_or] at oneLine
    exact isCode_of_brackets oneLine.2.1 (Or.inl ⟨rfl, rfl⟩)
  | object =>
    rw [text_object] at oneLine ⊢
    rw [List.mem_cons, List.mem_append, not_or, not_or] at oneLine
    exact isCode_of_brackets oneLine.2.1 (Or.inr ⟨rfl, rfl⟩)

/-! ## Documents of one code -/

variable {U : Type}

theorem Document.parse_code {code : Line} (isCode : IsCode code) :
    ∃ block, Document.parse ("#\n\t" ++ String.ofList code) =
      .ok ⟨headerAt 1 1 [] ['#'],
        [.value (.expression block (String.ofList code) : ValueTree U)]⟩ := by
  have expressible : Expressible (.expression Block.none (String.ofList code) : ValueTree U) :=
    .expression _ (by rwa [String.toList_ofList])
  have hspells : Spells (.expression Block.none (String.ofList code) : ValueTree U) [code] := by
    have hspells := Spells.expression (U := U) Block.none (String.ofList code)
    rwa [String.toList_ofList] at hspells
  have hshows : (⟨⟨2, code⟩, []⟩ : Passage).Shows [code] := Or.inl rfl
  obtain ⟨t, hread, hbare⟩ := ValueTree.read_spelled expressible hspells hshows
  obtain ⟨block, rfl⟩ : ∃ block, t = .expression block (String.ofList code) := by
    cases t with
    | expression block code' =>
      rw [ValueTree.bare, ValueTree.bare] at hbare
      cases hbare
      exact ⟨block, rfl⟩
    | array | object | mixin | compiled =>
      rw [ValueTree.bare, ValueTree.bare] at hbare
      cases hbare
  have htext : "#\n\t" ++ String.ofList code =
      String.ofList (unlines (['#'] :: [code].map indent)) := by
    rw [← String.ofList_toList (s := "#\n\t"), ← String.ofList_append, List.map_singleton,
      unlines_cons_cons, unlines_singleton]
    rfl
  rw [htext]
  refine ⟨⟨block.span, String.ofList (unlines ([code].map indent))⟩,
    parse_block (hspells.isSpelled expressible) (List.cons_ne_nil _ _) ?_⟩
  exact bind_eq_ok_iff.mpr ⟨_, hread, rfl⟩

/-- **Every JSON datum is a document.** Behind a header, its compact text is a block with one value,
an expression, which compiles, and whatever the host and the context are, a run of it gives the
datum back, with the entries of its objects in their order. There may be as many levels as a parser
with 256 of them can take. -/
theorem Value.IsDatum.run_document {v : Value} (h : IsDatum 254 v) (host : Host Id)
    (context : Context) :
    ∃ block p,
      Document.parse ("#\n\t" ++ String.ofList v.toJson.text) =
        .ok ⟨Document.headerAt 1 1 [] ['#'],
          [.value (.expression block (String.ofList v.toJson.text) : ValueTree U)]⟩ ∧
      Program.compile (.expression block (String.ofList v.toJson.text) : ValueTree U) = .ok p ∧
      Program.outcome (evaluateText host) context p = .ok v.unsignedZeros := by
  obtain ⟨ts, e, hdenotes⟩ := h.exists_denotes host context
  obtain ⟨block, hparse⟩ := Document.parse_code (U := U) (h.isCode hdenotes.oneLine)
  refine ⟨block, _, hparse, rfl, ?_⟩
  have hof : ofTokens ts = .ok e := by
    have hread : readExpression levelLimit 0 (ts ++ []) = .ok (e, []) :=
      hdenotes.reads (by decide) nofun
    rw [List.append_nil] at hread
    rw [ofTokens, hread]
    rfl
  have hvalue : DataOutline.settled (evaluateText host (String.ofList v.toJson.text) context) =
      .ok v.unsignedZeros := by
    rw [settled_evaluateText, parse_ofList hdenotes.tokens, hof, ok_bind]
    exact hdenotes.evaluates (by decide)
  rw [Program.outcome_expression, hvalue]
  rfl

/-- An object with a negative number, a zero with a sign, and a line break in a name. -/
def readings : Value :=
  .object [("a\n", .array [.number (-2.5), .number (-0.0), .null] false), ("", .string "\"")]

theorem isDatum_readings : Value.IsDatum 254 readings := by
  have hplain : IsPlain "a\n" ∧ IsPlain "" ∧ IsPlain "\"" := by
    simp [IsPlain]
  have hnumber : ∀ x ∈ [(-2.5 : Float), -0.0], x.isFinite = true ∧ ReadsBack x := by
    unfold ReadsBack
    decide +kernel
  have hitems : Value.IsDatum 253 (.array [.number (-2.5), .number (-0.0), .null] false) := by
    refine .array (List.forall_mem_cons.mpr ⟨?_, List.forall_mem_cons.mpr ⟨?_, ?_⟩⟩)
    · exact .number _ (hnumber _ (by simp)).1 (hnumber _ (by simp)).2
    · exact .number _ (hnumber _ (by simp)).1 (hnumber _ (by simp)).2
    · exact List.forall_mem_singleton.mpr (.null _)
  refine .object ?_ (by decide) (List.forall_mem_cons.mpr ⟨hitems, ?_⟩)
  · exact List.forall_mem_cons.mpr ⟨hplain.1, List.forall_mem_singleton.mpr hplain.2.1⟩
  · exact List.forall_mem_singleton.mpr (.string _ hplain.2.2)

/-- The sign of the zero is lost; all else is as it was. -/
theorem Value.IsDatum.run_document_readings :
    IsDatum 254 readings ∧ ∃ block p,
      Document.parse "#\n\t\x7b\"a\\n\":[-2.5,0,null],\"\":\"\\\"\"\x7d" =
        .ok ⟨Document.headerAt 1 1 [] ['#'], [.value (.expression block
          "\x7b\"a\\n\":[-2.5,0,null],\"\":\"\\\"\"\x7d" : ValueTree Empty)]⟩ ∧
      Program.compile (.expression block
        "\x7b\"a\\n\":[-2.5,0,null],\"\":\"\\\"\"\x7d" : ValueTree Empty) = .ok p ∧
      Program.outcome (evaluateText ⟨fun f _ ↦ throw (.notCallable f.name)⟩) .empty p =
        .ok (.object [("a\n", .array [.number (-2.5), .number 0, .null] false),
          ("", .string "\"")]) := by
  have htext : String.ofList readings.toJson.text =
      "\x7b\"a\\n\":[-2.5,0,null],\"\":\"\\\"\"\x7d" := by
    decide +kernel
  have hvalue : readings.unsignedZeros =
      .object [("a\n", .array [.number (-2.5), .number 0, .null] false), ("", .string "\"")] := by
    have hnumber : unsignedZero (-2.5) = -2.5 ∧ unsignedZero (-0.0) = 0 := by
      decide +kernel
    simp [readings, unsignedZeros, unsignedZerosEntries, unsignedZerosAll, hnumber]
  obtain ⟨block, p, hparse, hcompile, hrun⟩ := isDatum_readings.run_document (U := Empty)
    ⟨fun f _ ↦ throw (.notCallable f.name)⟩ .empty
  rw [htext] at hparse hcompile
  rw [hvalue] at hrun
  exact ⟨isDatum_readings, block, p, hparse, hcompile, hrun⟩

end DataOutline
