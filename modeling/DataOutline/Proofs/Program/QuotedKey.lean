import Mathlib.Data.List.Forall2
import DataOutline.Proofs.Document.Relocation
import DataOutline.Proofs.Expression.Depth
import DataOutline.Proofs.Grammar.Cutting
import DataOutline.Proofs.Mixin.Addition
import DataOutline.Proofs.Mixin.Dotted
import DataOutline.Proofs.Program.Meaning

/-!
# Quoted keys

A key in quotes is any text, and it is read alike in an object and behind the word of a clause. In
an object it is the name of an entry. In a clause it is the text of a path, and the quotes are gone
when the text is cut at its dots: `"a.b"` leads into the value of `a`, and `"0"` is an index, which
no object has. So the two places agree on the keys that are no more than one name.
-/

namespace DataOutline

open Text Grammar
open Mixin (Path Segment)

variable {U : Type}

/-! ## Lines with a quoted key -/

/-- A line with a key in quotes, and what follows the colon behind it. -/
structure QuotedEntry (k : String) (code entry : Line) : Prop where
  quote : entry.head? = some '"'
  key : key? .word entry = some (k, code)

theorem quotedEntry_quoteName (k : String) (code : Line) :
    QuotedEntry k code (quoteName k.toList ++ [':'] ++ ([' '] ++ code)) :=
  ⟨rfl, key?_spelled (.quoted _) (Or.inl rfl)⟩

namespace QuotedEntry

variable {k : String} {code entry : Line}

theorem key_eq (h : QuotedEntry k code entry) (form : KeyForm) :
    key? form entry = some (k, code) := by
  obtain ⟨rest, rfl⟩ := List.head?_eq_some_iff.mp h.quote
  exact h.key

theorem first (h : QuotedEntry k code entry) : ∀ c ∈ entry.head?, isBlank c = false := by
  intro c hc
  rw [h.quote] at hc
  cases hc
  rfl

theorem notBlank (h : QuotedEntry k code entry) : allBlank entry = false := by
  obtain ⟨rest, rfl⟩ := List.head?_eq_some_iff.mp h.quote
  rfl

theorem notComment (h : QuotedEntry k code entry) : Passage.isComment entry = false := by
  obtain ⟨rest, rfl⟩ := List.head?_eq_some_iff.mp h.quote
  rfl

end QuotedEntry

/-! ## Lines that are read as entries -/

namespace Passage

theorem content_append (first : NumberedLine) (more : List NumberedLine) {l : NumberedLine}
    (counts : isComment l.text = false) :
    Passage.content ⟨first, more ++ [l]⟩ = Passage.content ⟨first, more⟩ ++ [l] := by
  have hlast : [l].filter (fun l ↦ !isComment l.text) = [l] := by
    rw [List.filter_singleton, counts]
    rfl
  rw [content, content]
  split
  · rw [List.filter_append, hlast]
  · rw [lines, lines, ← List.cons_append, List.filter_append, hlast]

theorem content_singleton {l : NumberedLine} (notBlank : allBlank l.text = false)
    (notComment : isComment l.text = false) : Passage.content ⟨l, []⟩ = [l] := by
  rw [content, notBlank, if_neg Bool.false_ne_true, lines, List.filter_singleton, notComment]
  rfl

theorem span_singleton (l : NumberedLine) : Passage.span ⟨l, []⟩ = ⟨l.number, 1⟩ := by
  rw [span, lastNumber]
  simp only [List.head?_nil, List.getLast?_nil, Option.getD_none, ite_self]
  rw [Nat.add_sub_cancel_left, Nat.max_self]

end Passage

namespace ValueTree

theorem entries_append {form : KeyForm} {within : Bool} {ls below : List NumberedLine}
    {named : List (String × Passage)} (cut : entries form within ls = .ok (below, named))
    {l : NumberedLine} {name : String} {text : Line} (key : key? form l.text = some (name, text)) :
    entries form within (ls ++ [l]) = .ok (below, named ++ [(name, ⟨{ l with text }, []⟩)]) := by
  induction ls generalizing within below named with
  | nil =>
    cases cut
    exact entries_key key (by rw [entries])
  | cons l' ls ih =>
    -- The line above does what it did, be it that it opens an entry or belongs to the open one.
    unfold entries at cut
    rw [List.cons_append]
    unfold entries
    split at cut
    · next name' text' hkey =>
      obtain ⟨⟨below', named'⟩, hmore, ⟨⟩⟩ := bind_eq_ok_iff.mp cut
      simp only [ih hmore]
      rfl
    · next text' hkey htab =>
      obtain ⟨⟨below', named'⟩, hmore, ⟨⟩⟩ := bind_eq_ok_iff.mp cut
      simp only [ih hmore]
      rfl
    · cases cut

theorem exists_key_of_entries {form : KeyForm} {head : NumberedLine} {rest : List NumberedLine}
    {r : List NumberedLine × List (String × Passage)}
    (cut : entries form false (head :: rest) = .ok r) : ∃ key, key? form head.text = some key := by
  unfold entries at cut
  split at cut
  · next name text hkey => exact ⟨_, hkey⟩
  · next hwithin => exact nomatch hwithin
  · exact nomatch cut

theorem read_object_iff {p : Passage} {block : Block} {es : List (String × ValueTree U)} :
    read p = .ok (.object block es) ↔ block = blockOf p ∧ p.content ≠ [] ∧
      ∃ below named, entries .word false p.content = .ok (below, named) ∧
        List.Forall₂ ReadsNamed named es := by
  rw [read_eq_ok_iff]
  constructor
  · rintro (_ | ⟨content, _, _, cut, parts⟩)
    rw [content]
    exact ⟨rfl, List.cons_ne_nil _ _, _, _, cut, parts⟩
  · rintro ⟨rfl, nonempty, below, named, cut, parts⟩
    obtain ⟨head, rest, content⟩ := List.exists_cons_of_ne_nil nonempty
    rw [content] at cut
    obtain ⟨key, hkey⟩ := exists_key_of_entries cut
    exact .object content (marker?_eq_none_of_key hkey) hkey cut parts

theorem read_object_singleton {l : NumberedLine} (notBlank : allBlank l.text = false)
    (notComment : Passage.isComment l.text = false) {k : String} {text : Line}
    (key : key? .word l.text = some (k, text)) {t : ValueTree U}
    (part : read ⟨{ l with text }, []⟩ = .ok t) :
    read ⟨l, []⟩ = .ok (.object (blockOf ⟨l, []⟩) [(k, t)]) := by
  have hcontent := Passage.content_singleton notBlank notComment
  have hcut : entries .word false [l] = .ok ([], [(k, ⟨{ l with text }, []⟩)]) :=
    entries_key key (by rw [entries])
  refine read_object_iff.mpr ⟨rfl, ?_, [], [(k, ⟨{ l with text }, []⟩)], ?_,
    .cons ⟨rfl, part⟩ .nil⟩
  · rw [hcontent]
    exact List.cons_ne_nil _ _
  · rw [hcontent, hcut]

theorem read_object_append {first : NumberedLine} {more : List NumberedLine} {block : Block}
    {es : List (String × ValueTree U)} (h : read ⟨first, more⟩ = .ok (.object block es))
    {l : NumberedLine} (notComment : Passage.isComment l.text = false) {k : String} {text : Line}
    (key : key? .word l.text = some (k, text)) {t : ValueTree U}
    (part : read ⟨{ l with text }, []⟩ = .ok t) :
    read ⟨first, more ++ [l]⟩ =
      .ok (.object (blockOf ⟨first, more ++ [l]⟩) (es ++ [(k, t)])) := by
  obtain ⟨-, -, below, named, hcut, hparts⟩ := read_object_iff.mp h
  have hcontent := Passage.content_append first more notComment
  refine read_object_iff.mpr ⟨rfl, ?_, below, named ++ [(k, ⟨{ l with text }, []⟩)], ?_,
    List.rel_append hparts (.cons ⟨rfl, part⟩ .nil)⟩
  · rw [hcontent]
    exact List.append_ne_nil_of_right_ne_nil _ (List.cons_ne_nil _ _)
  · rw [hcontent, entries_append hcut key]

/-- One line that is read as an expression is read as the same code wherever it stands. -/
theorem read_expression_line {number : Nat} {line : Line} {block : Block} {code : String}
    (h : read (U := U) ⟨⟨number, line⟩, []⟩ = .ok (.expression block code)) (number' : Nat) :
    ∃ block', read (U := U) ⟨⟨number', line⟩, []⟩ = .ok (.expression block' code) := by
  have halike : Passage.Resembles (fun _ _ ↦ True) ⟨⟨number, line⟩, []⟩ ⟨⟨number', line⟩, []⟩ :=
    ⟨⟨trivial, rfl⟩, .nil⟩
  have hread := corresponds_read (U := U) halike
  rw [h] at hread
  obtain ⟨t', ht', hresembles⟩ := hread.exists_of_left
  cases hresembles with
  | expression => exact ⟨_, ht'⟩

theorem additions_quoted {k : String} {entry code : Line} (h : QuotedEntry k code entry)
    (number : Nat) : additions number entry [] = .ok [(k, ⟨⟨number, code⟩, []⟩)] := by
  have hcontent : Passage.content ⟨⟨number, entry⟩, []⟩ = [⟨number, entry⟩] :=
    Passage.content_singleton h.notBlank h.notComment
  have hcut : entries .path false [⟨number, entry⟩] = .ok ([], [(k, ⟨⟨number, code⟩, []⟩)]) :=
    entries_key (h.key_eq .path) (by rw [entries])
  unfold additions
  rw [unindentAll, ok_bind]
  simp only [hcontent, h.key_eq .path, hcut, Option.isNone_some, Bool.false_eq_true, if_false]
  rfl

theorem read_adding {b k : String} {entry code : Line} {number : Nat} {t : ValueTree U}
    (isBase : IsBase b.toList) (h : QuotedEntry k code entry)
    (part : read ⟨⟨number, code⟩, []⟩ = .ok t) {p : Passage}
    (hp : p = ⟨⟨number, addingHeader b ++ ' ' :: entry⟩, []⟩) :
    read p = .ok (.mixin (blockOf p) b [] [(k, t)]) := by
  have hcounts := (isLead_addingHeader isBase).counts (' ' :: entry)
  have hcontent : p.content = [⟨number, addingHeader b ++ ' ' :: entry⟩] :=
    hp ▸ Passage.content_singleton hcounts.1 hcounts.2
  have hheader : addingHeader b ++ ' ' :: entry =
      b.toList ++ ' ' :: (clauseWord .adding ++ ' ' :: entry) := by
    rw [addingHeader, List.append_assoc, List.cons_append]
  rw [hheader] at hcontent
  have hparts : mixinParts .adding number entry [] = .ok ([], [(k, ⟨⟨number, code⟩, []⟩)]) := by
    rw [mixinParts, additions_quoted h]
    rfl
  exact read_eq_ok_iff.mpr (.mixin hcontent (header_eq_none isBase _).1 (header_eq_none isBase _).2
    (mixin?_header isBase (.space h.first)) hparts (.cons ⟨rfl, part⟩ .nil))

end ValueTree

/-! ## Programs of objects -/

namespace Program

variable {evaluator : Evaluator Id} {context : Context}

theorem compileEntries_append {es : List (String × ValueTree U)} {qs : List (String × Program)}
    {k : String} {t : ValueTree U} {q : Program} (h : compileEntries es = .ok qs)
    (ht : compile t = .ok q) : compileEntries (es ++ [(k, t)]) = .ok (qs ++ [(k, q)]) := by
  induction es generalizing qs with
  | nil =>
    cases h
    simp only [List.nil_append, compileEntries, ht]
    rfl
  | cons e es ih =>
    rw [compileEntries] at h
    obtain ⟨p, hp, h⟩ := bind_eq_ok_iff.mp h
    obtain ⟨ps, hps, ⟨⟩⟩ := bind_eq_ok_iff.mp h
    rw [List.cons_append, compileEntries, hp, ih hps]
    rfl

/-- An object with one more entry has the value of it under its name, in its place if the name was
there before. -/
theorem outcome_object_append {es : List (String × Program)} {o : Entries Value} {k : String}
    {p : Program} {x : Value} (h : outcome evaluator context (.object es) = .ok (.object o))
    (hp : outcome evaluator context p = .ok x) :
    outcome evaluator context (.object (es ++ [(k, p)])) = .ok (.object (o.insert k x)) := by
  rw [outcome_object] at h
  obtain ⟨values, hvalues, hobject⟩ := map_eq_ok_iff.mp h
  have hlength : (es.map Prod.fst).length = values.length := by
    rw [← (mapM_eq_ok_iff.mp hvalues).length_eq, List.length_map, List.length_map]
  have hall : ((es ++ [(k, p)]).map Prod.snd).mapM (outcome evaluator context) =
      .ok (values ++ [x]) := by
    rw [List.map_append, List.map_singleton]
    exact mapM_eq_ok_iff.mpr (List.rel_append (mapM_eq_ok_iff.mp hvalues) (.cons hp .nil))
  have hzip : ((es ++ [(k, p)]).map Prod.fst).zip (values ++ [x]) =
      (es.map Prod.fst).zip values ++ [(k, x)] := by
    rw [List.map_append, List.zip_append hlength]
    rfl
  have hinsert := Entries.ofList_append_singleton ((es.map Prod.fst).zip values) (k, x)
  rw [← hzip] at hinsert
  rw [outcome_object, hall, ← Value.object.inj hobject]
  exact congrArg (fun entries ↦ Except.ok (Value.object entries)) hinsert

theorem outcome_adding {span : Span} {b : String} {o : Entries Value} {path : Path} {p : Program}
    {x : Value} (single : '.' ∉ b.toList) (bound : context.get? b = some (.object o))
    (hp : outcome evaluator context p = .ok x) :
    outcome evaluator context (.mixin span b [] [(path, p)]) =
      (Mixin.add x (.object o) path).mapError fun e ↦ ⟨.mixin e, span⟩ := by
  have hvalues : [p].mapM (outcome evaluator context) = .ok [x] :=
    mapM_eq_ok_iff.mpr (.cons hp .nil)
  have hbase : Mixin.resolveBase context b = .ok (.object o) := by
    rw [Mixin.resolveBase, dotted_eq_singleton single]
    simp only [bound]
    rfl
  have happly : Mixin.apply (.object o) [] [(path, x)] = Mixin.add x (.object o) path := by
    have hstructured : (Value.object o).isStructured = true := rfl
    rw [apply_eq, if_pos hstructured]
    exact bind_pure (m := Except MixinError) _
  rw [outcome_mixin, List.map_singleton, hvalues, ok_bind, List.map_singleton, List.zip_cons_cons,
    List.zip_nil_left, mix, hbase, ok_bind, happly]
  cases Mixin.add x (.object o) path <;> rfl

end Program

/-! ## Results of value blocks -/

namespace Document

/-- What the lines of a value block come to in a context, if they can be read and compiled. -/
def resultOf (evaluator : Evaluator Id) (context : Context) (line : Nat) (ls : List Line) :
    Option (Except Failure Value) := do
  let tree ← (readValue (U := Empty) line ls).toOption
  let p ← (Program.compile tree).toOption
  return Program.outcome evaluator context p

variable {evaluator : Evaluator Id} {context : Context} {line : Nat}

theorem resultOf_eq {ls : List Line} {tree : ValueTree Empty} {p : Program}
    (hread : readValue line ls = .ok tree) (hcompile : Program.compile tree = .ok p) :
    resultOf evaluator context line ls = some (Program.outcome evaluator context p) := by
  rw [resultOf, hread, Except.toOption, Option.bind_eq_bind, Option.bind_some, hcompile]
  rfl

theorem exists_compile_of_resultOf {ls : List Line} {tree : ValueTree Empty}
    {r : Except Failure Value} (hread : readValue line ls = .ok tree)
    (h : resultOf evaluator context line ls = some r) :
    ∃ p, Program.compile tree = .ok p ∧ Program.outcome evaluator context p = r := by
  cases hcompile : Program.compile tree with
  | error e =>
    rw [resultOf, hread, Except.toOption, Option.bind_eq_bind, Option.bind_some, hcompile] at h
    cases h
  | ok p =>
    rw [resultOf_eq hread hcompile] at h
    exact ⟨p, rfl, Option.some.inj h⟩

theorem readValue_eq {ls : List Line} {first : NumberedLine} {more : List NumberedLine}
    (hnumbered : numbered line ls = first :: more) {tree : ValueTree U}
    (h : ValueTree.read ⟨first, more⟩ = .ok tree) :
    readValue line ls =
      .ok (tree.withBlock ⟨tree.block.span, String.ofList (unlines ls)⟩) := by
  rw [readValue, hnumbered]
  exact bind_eq_ok_iff.mpr ⟨tree, h, rfl⟩

theorem numbered_singleton (text : Line) : numbered line [indent text] = [⟨line, text⟩] := rfl

theorem numbered_append (ls : List Line) (text : Line) :
    numbered line (ls ++ [indent text]) = numbered line ls ++ [⟨line + ls.length, text⟩] := by
  rw [numbered, List.zipIdx_append, List.map_append]
  simp [numbered, indent, unindent?]

section Keys

variable {k : String} {entry code : Line} {number : Nat} {block : Block} {text : String} {x : Value}

/-- An object with one more entry comes to the object without it, with a value for the key. -/
theorem resultOf_object_append {ls : List Line} {block' : Block}
    {es : List (String × ValueTree Empty)} {qs : List (String × Program)} {o : Entries Value}
    (hread : readValue line ls = .ok (.object block' (es ++ [(k, .expression block text)])))
    (hcompile : Program.compileEntries es = .ok qs)
    (houtcome : Program.outcome evaluator context (.object qs) = .ok (.object o))
    (evaluates : settled (evaluator text context) = .ok x) :
    resultOf evaluator context line ls = some (.ok (.object (o.insert k x))) := by
  have hvalue : Program.outcome evaluator context (.expression block.span text) = .ok x := by
    rw [Program.outcome_expression, evaluates]
    rfl
  have hall : Program.compile (.object block' (es ++ [(k, .expression block text)])) =
      .ok (.object (qs ++ [(k, .expression block.span text)])) := by
    rw [Program.compile, Program.compileEntries_append hcompile rfl]
    rfl
  rw [resultOf_eq hread hall, Program.outcome_object_append houtcome hvalue]

variable (entered : QuotedEntry k code entry)
  (reads : ValueTree.read (U := Empty) ⟨⟨number, code⟩, []⟩ = .ok (.expression block text))
  (evaluates : settled (evaluator text context) = .ok x)
include entered reads evaluates

theorem resultOf_entry_below {ls : List Line} {block' : Block}
    {es : List (String × ValueTree Empty)} {o : Entries Value}
    (hread : readValue line ls = .ok (.object block' es))
    (h : resultOf evaluator context line ls = some (.ok (.object o))) :
    resultOf evaluator context line (ls ++ [indent entry]) =
      some (.ok (.object (o.insert k x))) := by
  obtain ⟨p, hcompile, houtcome⟩ := exists_compile_of_resultOf hread h
  obtain ⟨qs, hqs, rfl⟩ := map_eq_ok_iff.mp hcompile
  obtain ⟨first, more, tree, hnumbered, htree, hblock⟩ := exists_read_of_readValue hread
  obtain ⟨own, rfl⟩ : ∃ own, tree = .object own es := by
    cases tree <;> cases hblock
    exact ⟨_, rfl⟩
  -- The code was read at some line; here it stands right below the others.
  obtain ⟨inner, hpart⟩ := ValueTree.read_expression_line reads (line + ls.length)
  have hall := ValueTree.read_object_append (l := ⟨line + ls.length, entry⟩) htree
    entered.notComment
    entered.key hpart
  have hlines : numbered line (ls ++ [indent entry]) =
      first :: (more ++ [⟨line + ls.length, entry⟩]) := by
    rw [numbered_append, hnumbered, List.cons_append]
  exact resultOf_object_append (readValue_eq hlines hall) hqs houtcome evaluates

theorem resultOf_entry :
    resultOf evaluator context line [indent entry] = some (.ok (.object [(k, x)])) := by
  obtain ⟨inner, hpart⟩ := ValueTree.read_expression_line reads line
  have hread := ValueTree.read_object_singleton (l := ⟨line, entry⟩) entered.notBlank
    entered.notComment entered.key hpart
  have hvalue := readValue_eq (numbered_singleton _) hread
  rw [ValueTree.withBlock, ← List.nil_append [(k, _)]] at hvalue
  exact resultOf_object_append hvalue rfl rfl evaluates

/-- In a clause the key is the text of a path. -/
theorem resultOf_adding {b : String} {o : Entries Value} (isBase : IsBase b.toList)
    (single : '.' ∉ b.toList) (bound : context.get? b = some (.object o)) :
    resultOf evaluator context line [indent (addingHeader b ++ ' ' :: entry)] =
      some ((Mixin.add x (.object o) (Path.ofText k)).mapError fun e ↦ ⟨.mixin e, ⟨line, 1⟩⟩) := by
  obtain ⟨inner, hpart⟩ := ValueTree.read_expression_line reads line
  have hread := readValue_eq (numbered_singleton _) (ValueTree.read_adding isBase entered hpart rfl)
  have hadded : Program.outcome evaluator context (.expression inner.span text) = .ok x := by
    rw [Program.outcome_expression, evaluates]
    rfl
  have hspan := Passage.span_singleton ⟨line, addingHeader b ++ ' ' :: entry⟩
  rw [resultOf_eq hread rfl, ← hspan]
  exact congrArg some (Program.outcome_adding single bound hadded)

end Keys

/-- **A quoted key is one key where it is one name.** Any key can be written in quotes, and however
it is written, in an object it is given its value, in its place or behind the others. In a clause it
is the text of a path at which the value is added; unless the text has dots or is an index, this
comes to the same. -/
theorem resultOf_quotedKey (k : String) {code : Line} {number : Nat} {block : Block} {text : String}
    (reads : ValueTree.read (U := Empty) ⟨⟨number, code⟩, []⟩ = .ok (.expression block text))
    {x : Value} (evaluates : settled (evaluator text context) = .ok x) {b : String}
    {o : Entries Value} (isBase : IsBase b.toList) (single : '.' ∉ b.toList)
    (bound : context.get? b = some (.object o)) (line : Nat) :
    (∃ entry, QuotedEntry k code entry) ∧ ∀ entry, QuotedEntry k code entry →
      (resultOf evaluator context line [indent entry] = some (.ok (.object [(k, x)])) ∧
        ∀ {ls block' es o'}, readValue (U := Empty) line ls = .ok (.object block' es) →
          resultOf evaluator context line ls = some (.ok (.object o')) →
          resultOf evaluator context line (ls ++ [indent entry]) =
            some (.ok (.object (Entries.insert k x o')))) ∧
      resultOf evaluator context line [indent (addingHeader b ++ ' ' :: entry)] =
        some ((Mixin.add x (.object o) (Path.ofText k)).mapError fun e ↦ ⟨.mixin e, ⟨line, 1⟩⟩) ∧
      ('.' ∉ k.toList → Decimal.digitsIndex? k.toList = none →
        resultOf evaluator context line [indent (addingHeader b ++ ' ' :: entry)] =
          some (.ok (.object (o.insert k x)))) := by
  refine ⟨⟨_, quotedEntry_quoteName k code⟩, fun entry entered ↦ ?_⟩
  have hadding : resultOf evaluator context line [indent (addingHeader b ++ ' ' :: entry)] = _ :=
    resultOf_adding entered reads evaluates isBase single bound
  refine ⟨⟨resultOf_entry entered reads evaluates, resultOf_entry_below entered reads evaluates⟩,
    hadding, fun undotted name ↦ ?_⟩
  rw [hadding, Mixin.ofText_key undotted name, Mixin.add_key]
  rfl

private theorem true_reads (host : Host Id) (context : Context) :
    (∃ block, ValueTree.read (U := Empty) ⟨⟨2, "true".toList⟩, []⟩ =
      .ok (.expression block "true")) ∧
    settled (Expression.evaluateText host "true" context) = .ok (.boolean true) := by
  have hcontent : Passage.content ⟨⟨2, "true".toList⟩, []⟩ = [⟨2, "true".toList⟩] := rfl
  have hreads := ValueTree.ReadsAs.expression (U := Empty) hcontent rfl rfl rfl
  have htrim : String.ofList (trim "true".toList) = "true" := rfl
  rw [htrim] at hreads
  refine ⟨⟨_, ValueTree.read_eq_ok_iff.mpr hreads⟩, ?_⟩
  have htokens : Expression.tokenize "true".toList = .ok [.trueWord] := by decide +kernel
  have hparse : Expression.parse "true" = .ok (.boolean true) :=
    Expression.parse_ofList htokens
  rw [Expression.settled_evaluateText, hparse, ok_bind, Expression.value_boolean (Nat.zero_le _)]

theorem resultOf_quotedKey_space :
    let evaluator := Expression.evaluateText ⟨fun _ _ ↦ pure .null⟩
    let context : Context := ⟨[("user", .object [("x y", .null), ("z", .null)])]⟩
    QuotedEntry "x y" "true".toList "\"x y\": true".toList ∧ IsBase "user".toList ∧
      resultOf evaluator context 2 ["\t\"x y\": true".toList] =
        some (.ok (.object [("x y", .boolean true)])) ∧
      resultOf evaluator context 2 ["\tuser with \"x y\": true".toList] =
        some (.ok (.object [("x y", .boolean true), ("z", .null)])) := by
  intro evaluator context
  obtain ⟨⟨block, hread⟩, hvalue⟩ := true_reads ⟨fun _ _ ↦ pure .null⟩ context
  have hentry : QuotedEntry "x y" "true".toList "\"x y\": true".toList :=
    ⟨by decide, by decide +kernel⟩
  have hbase : IsBase "user".toList := ⟨rfl, fun c hc ↦ by cases hc; rfl⟩
  have hbound : context.get? "user" = some (.object [("x y", .null), ("z", .null)]) := rfl
  have hlines : "\t\"x y\": true".toList = indent "\"x y\": true".toList ∧
      "\tuser with \"x y\": true".toList =
        indent (addingHeader "user" ++ ' ' :: "\"x y\": true".toList) := by
    decide +kernel
  rw [hlines.1, hlines.2]
  obtain ⟨⟨halone, -⟩, -, hadding⟩ :=
    (resultOf_quotedKey "x y" hread hvalue hbase (by decide) hbound 2).2 _ hentry
  exact ⟨hentry, hbase, halone, hadding (by decide) rfl⟩

/-- A key with a dot is one key in an object and a path in a clause. -/
theorem resultOf_dottedKey :
    let evaluator := Expression.evaluateText ⟨fun _ _ ↦ pure .null⟩
    let context : Context := ⟨[("b", .object [])]⟩
    QuotedEntry "a.b" "true".toList "\"a.b\": true".toList ∧
      settled (evaluator "true" context) = .ok (.boolean true) ∧
      resultOf evaluator context 2 ["\t\"a.b\": true".toList] =
        some (.ok (.object [("a.b", .boolean true)])) ∧
      resultOf evaluator context 2 ["\tb with \"a.b\": true".toList] =
        some (.ok (.object [("a", .object [("b", .boolean true)])])) ∧
      resultOf evaluator context 2 ["\tb with \"a.b\": true".toList] ≠
        some (.ok (.object (Entries.insert "a.b" (.boolean true) []))) := by
  intro evaluator context
  obtain ⟨⟨block, hread⟩, hvalue⟩ := true_reads ⟨fun _ _ ↦ pure .null⟩ context
  have hentry : QuotedEntry "a.b" "true".toList "\"a.b\": true".toList :=
    ⟨by decide, by decide +kernel⟩
  have hbase : IsBase "b".toList := ⟨rfl, fun c hc ↦ by cases hc; rfl⟩
  have hbound : context.get? "b" = some (.object []) := rfl
  have hpath : Path.ofText "a.b" = [.key "a", .key "b"] := by decide +kernel
  have hadd : Mixin.add (.boolean true) (.object []) [.key "a", .key "b"] =
      .ok (.object [("a", .object [("b", .boolean true)])]) := by
    unfold Mixin.add
    rfl
  have hlines : "\t\"a.b\": true".toList = indent "\"a.b\": true".toList ∧
      "\tb with \"a.b\": true".toList =
        indent (addingHeader "b" ++ ' ' :: "\"a.b\": true".toList) := by
    decide +kernel
  rw [hlines.1, hlines.2, resultOf_adding hentry hread hvalue hbase (by decide) hbound, hpath, hadd]
  have hother : Value.object [("a", .object [("b", .boolean true)])] ≠
      .object (Entries.insert "a.b" (.boolean true) []) := by
    simp [Entries.insert]
  exact ⟨hentry, hvalue, resultOf_entry hentry hread hvalue, rfl,
    fun h ↦ hother (Except.ok.inj (Option.some.inj h))⟩

end Document

end DataOutline
