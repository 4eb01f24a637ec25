import DataOutline.Proofs.Grammar.Reading

/-!
# Line numbers are carried along

The reader of values looks at how lines begin, and hands on what follows. So it respects every
relation between lines that begin alike if it holds again between what follows: two passages of
related lines are both read as values, which are related if what is kept of related lines is, or
both end in the same error, with spans that go from one line to another of the passages.

In particular the reader never looks at the numbers of lines, which it carries along to the spans of
values and of errors. What relation holds between the numbers does not matter to it, and it is
chosen by those who ask: lines that have moved, lines in a range, or lines with any number at all.
-/

namespace DataOutline

open Text Grammar

/-- Whether a fault is one of the shape of a document. -/
def Fault.isStructural : Fault → Bool
  | .emptyDocument | .noRootHeader | .levelJump _ _ | .secondRoot | .strayIndentation
  | .unterminatedCode => true
  | .missingValue | .mixedMarkers | .missingMarker | .missingKey | .missingRemovals
  | .invalidPath _ | .missingWith | .linesAfterWithout | .unindentedAddition
  | .missingAdditionKey | .missingAdditions | .malformedValue => false

/-- From one line to another, and one line at least. -/
def Span.upTo (first last : Nat) : Span := ⟨first, max 1 (last + 1 - first)⟩

theorem Span.upTo_self (line : Nat) : Span.upTo line line = ⟨line, 1⟩ := by
  rw [upTo, Nat.add_sub_cancel_left, Nat.max_self]

variable {U : Type}

/-! ## What is alike but for the numbers of lines -/

section Resemblance

variable (N : Nat → Nat → Prop)

/-- The same text, and numbers that are related. -/
structure NumberedLine.Resembles (l l' : NumberedLine) : Prop where
  number : N l.number l'.number
  text : l.text = l'.text

/-- Spans that begin and end at lines whose numbers are related. -/
def Span.Resembles (s s' : Span) : Prop :=
  ∃ first last first' last', N first first' ∧ N last last' ∧
    s = upTo first last ∧ s' = upTo first' last'

/-- The same lines under numbers that are related. -/
structure Passage.Resembles (p p' : Passage) : Prop where
  first : p.first.Resembles N p'.first
  more : List.Forall₂ (NumberedLine.Resembles N) p.more p'.more

/-- The same fault of a value. -/
structure SyntaxError.Resembles (e e' : SyntaxError) : Prop where
  fault : e.fault = e'.fault
  ofValue : e.fault.isStructural = false
  span : e.span.Resembles N e'.span

/-- The same text over spans that are alike. -/
structure Block.Resembles (b b' : Block) : Prop where
  span : b.span.Resembles N b'.span
  content : b.content = b'.content

/-- Values that say the same thing, none of their parts a compiled unit. -/
inductive ValueTree.Resembles : ValueTree U → ValueTree U → Prop
  | array {b b' : Block} (block : b.Resembles N b') (unordered : Bool)
      {elements elements' : List (ValueTree U)}
      (parts : List.Forall₂ ValueTree.Resembles elements elements') :
      ValueTree.Resembles (.array b unordered elements) (.array b' unordered elements')
  | object {b b' : Block} (block : b.Resembles N b')
      {entries entries' : List (String × ValueTree U)}
      (names : entries.map Prod.fst = entries'.map Prod.fst)
      (parts : List.Forall₂ ValueTree.Resembles (entries.map Prod.snd) (entries'.map Prod.snd)) :
      ValueTree.Resembles (.object b entries) (.object b' entries')
  | mixin {b b' : Block} (block : b.Resembles N b') (base : String) (removals : List String)
      {additions additions' : List (String × ValueTree U)}
      (names : additions.map Prod.fst = additions'.map Prod.fst)
      (parts : List.Forall₂ ValueTree.Resembles (additions.map Prod.snd)
        (additions'.map Prod.snd)) :
      ValueTree.Resembles (.mixin b base removals additions) (.mixin b' base removals additions')
  | expression {b b' : Block} (block : b.Resembles N b') (code : String) :
      ValueTree.Resembles (.expression b code) (.expression b' code)

end Resemblance

variable {N : Nat → Nat → Prop}

theorem Span.resembles_line {n n' : Nat} (h : N n n') : Span.Resembles N ⟨n, 1⟩ ⟨n', 1⟩ :=
  ⟨n, n, n', n', h, h, (upTo_self n).symm, (upTo_self n').symm⟩

/-! ## What the reader of values looks at -/

/-- Passages of related lines, one by one. -/
structure Passage.Alike (L : NumberedLine → NumberedLine → Prop) (p p' : Passage) : Prop where
  first : L p.first p'.first
  more : List.Forall₂ L p.more p'.more

/-- The same name, and passages of related lines. -/
structure NamedAlike (L : NumberedLine → NumberedLine → Prop) (e e' : String × Passage) : Prop where
  name : e.1 = e'.1
  passage : e.2.Alike L e'.2

namespace ValueTree

/-- What stands behind the semicolon that ends a list of paths. -/
def behindList (text : Line) : Option Line :=
  (text.drop (text.takeWhile (· ≠ ';')).length).tail?

/-- A relation between lines that the reader respects: their numbers are related, they begin alike,
and what follows is related again. -/
structure RespectsLines (N : Nat → Nat → Prop) (L : NumberedLine → NumberedLine → Prop) : Prop where
  number : ∀ {l l'}, L l l' → N l.number l'.number
  blank : ∀ {l l'}, L l l' → allBlank l.text = allBlank l'.text
  comment : ∀ {l l'}, L l l' → Passage.isComment l.text = Passage.isComment l'.text
  code : ∀ {l l'}, L l l' → trim l.text = trim l'.text
  marker : ∀ {l l'}, L l l' →
    Option.Rel (fun m m' ↦ m.1 = m'.1 ∧ L { l with text := m.2 } { l' with text := m'.2 })
      (marker? l.text) (marker? l'.text)
  tab : ∀ {l l'}, L l l' →
    Option.Rel (fun text text' ↦ L { l with text } { l' with text := text' })
      (unindent? l.text) (unindent? l'.text)
  key : ∀ form {l l'}, L l l' →
    Option.Rel (fun k k' ↦ k.1 = k'.1 ∧ L { l with text := k.2 } { l' with text := k'.2 })
      (key? form l.text) (key? form l'.text)
  mixin : ∀ {l l'}, L l l' →
    Option.Rel (fun m m' ↦ m.1 = m'.1 ∧ m.2.1 = m'.2.1 ∧
      L { l with text := m.2.2 } { l' with text := m'.2.2 }) (mixin? l.text) (mixin? l'.text)
  paths : ∀ {l l'}, L l l' → ∀ n,
    removals n (l.text.takeWhile (· ≠ ';')) = removals n (l'.text.takeWhile (· ≠ ';'))
  clause : ∀ {l l'}, L l l' →
    Option.Rel (fun tail tail' ↦
      Option.Rel (fun text text' ↦ L { l with text } { l' with text := text' })
        (additions? tail) (additions? tail')) (behindList l.text) (behindList l'.text)

/-- A relation between values that holds if it holds between their parts, what is kept of related
lines being related. -/
structure RespectsValues (N : Nat → Nat → Prop) (L : NumberedLine → NumberedLine → Prop)
    (V : ValueTree U → ValueTree U → Prop) : Prop where
  array : ∀ {s s' ls ls'}, Span.Resembles N s s' → List.Forall₂ L ls ls' →
    ∀ unordered {ts ts'}, List.Forall₂ V ts ts' →
      V (.array ⟨s, String.ofList (unlines (ls.map (·.text)))⟩ unordered ts)
        (.array ⟨s', String.ofList (unlines (ls'.map (·.text)))⟩ unordered ts')
  object : ∀ {s s' ls ls'}, Span.Resembles N s s' → List.Forall₂ L ls ls' →
    ∀ {es es' : List (String × ValueTree U)}, es.map Prod.fst = es'.map Prod.fst →
      List.Forall₂ V (es.map Prod.snd) (es'.map Prod.snd) →
        V (.object ⟨s, String.ofList (unlines (ls.map (·.text)))⟩ es)
          (.object ⟨s', String.ofList (unlines (ls'.map (·.text)))⟩ es')
  mixin : ∀ {s s' ls ls'}, Span.Resembles N s s' → List.Forall₂ L ls ls' →
    ∀ base removals {es es' : List (String × ValueTree U)}, es.map Prod.fst = es'.map Prod.fst →
      List.Forall₂ V (es.map Prod.snd) (es'.map Prod.snd) →
        V (.mixin ⟨s, String.ofList (unlines (ls.map (·.text)))⟩ base removals es)
          (.mixin ⟨s', String.ofList (unlines (ls'.map (·.text)))⟩ base removals es')
  expression : ∀ {s s' ls ls'}, Span.Resembles N s s' → List.Forall₂ L ls ls' →
    ∀ code, V (.expression ⟨s, String.ofList (unlines (ls.map (·.text)))⟩ code)
      (.expression ⟨s', String.ofList (unlines (ls'.map (·.text)))⟩ code)

end ValueTree

section Reading

open ValueTree

variable {L : NumberedLine → NumberedLine → Prop}

/-! ### Passages -/

namespace Passage.Alike

variable {p p' : Passage}

theorem lines (h : p.Alike L p') : List.Forall₂ L p.lines p'.lines := .cons h.first h.more

private theorem getLast? {ls ls' : List NumberedLine} {l l' : NumberedLine} (hl : L l l')
    (h : List.Forall₂ L ls ls') : L (ls.getLast?.getD l) (ls'.getLast?.getD l') := by
  induction h generalizing l l' with
  | nil => exact hl
  | cons hhead _ ih =>
    rw [List.getLast?_cons, List.getLast?_cons]
    exact ih hhead

variable (hL : RespectsLines N L)
include hL

theorem lastNumber (h : p.Alike L p') : N p.lastNumber p'.lastNumber :=
  hL.number (getLast? h.first h.more)

theorem span (h : p.Alike L p') : p.span.Resembles N p'.span := by
  obtain ⟨first, more⟩ := p
  obtain ⟨first', more'⟩ := p'
  have hhead : N (more.head?.getD first).number (more'.head?.getD first').number := by
    cases h.more with
    | nil => exact hL.number h.first
    | cons hhead _ => exact hL.number hhead
  have hline : N (if allBlank first.text then (more.head?.getD first).number else first.number)
      (if allBlank first'.text then (more'.head?.getD first').number else first'.number) := by
    rw [← hL.blank h.first]
    split
    · exact hhead
    · exact hL.number h.first
  exact ⟨_, _, _, _, hline, lastNumber hL h, rfl, rfl⟩

theorem content (h : p.Alike L p') : List.Forall₂ L p.content p'.content := by
  have hfilter : ∀ {ls ls' : List NumberedLine}, List.Forall₂ L ls ls' →
      List.Forall₂ L (ls.filter fun l ↦ !isComment l.text)
        (ls'.filter fun l ↦ !isComment l.text) := by
    intro ls ls' hls
    refine List.rel_filter (fun l l' hl ↦ ?_) hls
    simp only [hL.comment hl]
  rw [Passage.content, Passage.content, ← hL.blank h.first]
  split
  · exact hfilter h.more
  · exact hfilter h.lines

end Passage.Alike

namespace ValueTree

/-! ### The parts of a passage -/

section Parts

variable {α β : Type} {R : α → β → Prop}

private theorem corresponds_faultAt {fault : Fault} {n n' : Nat}
    (ofValue : fault.isStructural = false) (h : N n n') :
    Corresponds (SyntaxError.Resembles N) R (faultAt fault n) (faultAt fault n') :=
  .error ⟨rfl, ofValue, Span.resembles_line h⟩

variable (hL : RespectsLines N L)
include hL

private theorem corresponds_elements (kind : Option Bool) {ls ls' : List NumberedLine}
    (h : List.Forall₂ L ls ls') :
    Corresponds (SyntaxError.Resembles N)
      (fun r r' ↦ List.Forall₂ L r.1 r'.1 ∧ List.Forall₂ (Passage.Alike L) r.2 r'.2)
      (elements kind ls) (elements kind ls') := by
  induction h generalizing kind with
  | nil => exact .ok ⟨.nil, .nil⟩
  | @cons l l' ls ls' hl _ ih =>
    have hmarker := hL.marker hl
    have htab := hL.tab hl
    have hnumber := hL.number hl
    unfold elements
    generalize marker? l.text = marker at hmarker
    generalize marker? l'.text = marker' at hmarker
    generalize unindent? l.text = tab at htab
    generalize unindent? l'.text = tab' at htab
    cases hmarker with
    | @some m m' hm =>
      simp only [← hm.1]
      split
      · exact corresponds_faultAt rfl hnumber
      · exact (ih _).bind fun r r' hr ↦ .ok ⟨.nil, .cons ⟨hm.2, hr.1⟩ hr.2⟩
    | none =>
      cases htab with
      | none => exact corresponds_faultAt rfl hnumber
      | some htext =>
        cases kind with
        | none => exact corresponds_faultAt rfl hnumber
        | some unordered =>
          exact (ih _).bind fun r r' hr ↦ .ok ⟨.cons htext hr.1, hr.2⟩

private theorem corresponds_entries (form : KeyForm) (within : Bool) {ls ls' : List NumberedLine}
    (h : List.Forall₂ L ls ls') :
    Corresponds (SyntaxError.Resembles N)
      (fun r r' ↦ List.Forall₂ L r.1 r'.1 ∧ List.Forall₂ (NamedAlike L) r.2 r'.2)
      (entries form within ls) (entries form within ls') := by
  induction h generalizing within with
  | nil => exact .ok ⟨.nil, .nil⟩
  | @cons l l' ls ls' hl _ ih =>
    have hkey := hL.key form hl
    have htab := hL.tab hl
    have hnumber := hL.number hl
    unfold entries
    generalize key? form l.text = key at hkey
    generalize key? form l'.text = key' at hkey
    generalize unindent? l.text = tab at htab
    generalize unindent? l'.text = tab' at htab
    cases hkey with
    | @some k k' hk =>
      exact (ih _).bind fun r r' hr ↦ .ok ⟨.nil, .cons ⟨hk.1, hk.2, hr.1⟩ hr.2⟩
    | none =>
      cases htab with
      | none => exact corresponds_faultAt rfl hnumber
      | some htext =>
        cases within with
        | false => exact corresponds_faultAt rfl hnumber
        | true => exact (ih _).bind fun r r' hr ↦ .ok ⟨.cons htext hr.1, hr.2⟩

private theorem corresponds_unindentAll {ls ls' : List NumberedLine} (h : List.Forall₂ L ls ls') :
    Corresponds (SyntaxError.Resembles N) (List.Forall₂ L) (unindentAll ls) (unindentAll ls') := by
  induction h with
  | nil => exact .ok .nil
  | @cons l l' ls ls' hl _ ih =>
    have htab := hL.tab hl
    have hnumber := hL.number hl
    unfold unindentAll
    generalize unindent? l.text = tab at htab
    generalize unindent? l'.text = tab' at htab
    cases htab with
    | none => exact corresponds_faultAt rfl hnumber
    | some htext => exact ih.bind fun r r' hr ↦ .ok (.cons htext hr)

omit hL in
private theorem corresponds_removals {n n' : Nat} (h : N n n') (list : Line) :
    Corresponds (SyntaxError.Resembles N) Eq (removals n list) (removals n' list) := by
  have hfold : ∀ (paths : List Line) (found : List String),
      Corresponds (SyntaxError.Resembles N) Eq
        (paths.foldlM (fun found path ↦
          if !isPath path then faultAt (.invalidPath (String.ofList path)) n
          else
            let path := String.ofList path
            return if path ∈ found then found else found ++ [path]) found)
        (paths.foldlM (fun found path ↦
          if !isPath path then faultAt (.invalidPath (String.ofList path)) n'
          else
            let path := String.ofList path
            return if path ∈ found then found else found ++ [path]) found) := by
    intro paths
    induction paths with
    | nil => exact fun _ ↦ .ok rfl
    | cons path paths ih =>
      intro found
      rw [List.foldlM_cons, List.foldlM_cons]
      split
      · exact corresponds_faultAt rfl h
      · exact ih _
  rw [removals, removals]
  split
  · exact corresponds_faultAt rfl h
  · exact hfold _ _

private theorem corresponds_additions {l l' : NumberedLine} (hl : L l l')
    {below below' : List NumberedLine} (hbelow : List.Forall₂ L below below') :
    Corresponds (SyntaxError.Resembles N) (List.Forall₂ (NamedAlike L))
      (additions l.number l.text below) (additions l'.number l'.text below') := by
  rw [additions, additions]
  refine (corresponds_unindentAll hL hbelow).bind fun ls ls' hls ↦ ?_
  have hpassage : Passage.Alike L ⟨l, ls⟩ ⟨l', ls'⟩ := ⟨hl, hls⟩
  have hspan := hpassage.span hL
  have hcontent := hpassage.content hL
  simp only
  generalize Passage.content ⟨l, ls⟩ = content at hcontent
  generalize Passage.content ⟨l', ls'⟩ = content' at hcontent
  cases hcontent with
  | nil => exact .error ⟨rfl, rfl, hspan⟩
  | @cons head head' rest rest' hhead hrest =>
    have hkey := hL.key .path hhead
    simp only
    generalize key? .path head.text = key at hkey
    generalize key? .path head'.text = key' at hkey
    cases hkey with
    | none => exact corresponds_faultAt rfl (hL.number hhead)
    | some _ =>
      exact (corresponds_entries hL _ _ (.cons hhead hrest)).bind fun r r' hr ↦ .ok hr.2

private theorem corresponds_mixinParts (clause : Clause) {l l' : NumberedLine} (hl : L l l')
    {below below' : List NumberedLine} (hbelow : List.Forall₂ L below below') :
    Corresponds (SyntaxError.Resembles N)
      (fun r r' ↦ r.1 = r'.1 ∧ List.Forall₂ (NamedAlike L) r.2 r'.2)
      (mixinParts clause l.number l.text below) (mixinParts clause l'.number l'.text below') := by
  have hnumber := hL.number hl
  cases clause with
  | adding =>
    rw [mixinParts, mixinParts]
    exact (corresponds_additions hL hl hbelow).bind fun _ _ hr ↦ .ok ⟨rfl, hr⟩
  | removing =>
    have htail := hL.clause hl
    rw [behindList, behindList] at htail
    rw [mixinParts, mixinParts, ← hL.paths hl]
    refine (corresponds_removals hnumber _).bind fun removals removals' heq ↦ ?_
    subst heq
    simp only
    generalize l.text.drop _ = behind at htail
    generalize l'.text.drop _ = behind' at htail
    rcases behind with _ | ⟨c, tail⟩ <;> rcases behind' with _ | ⟨c', tail'⟩
    · cases hbelow with
      | nil => exact .ok ⟨rfl, .nil⟩
      | @cons extra extra' more more' hextra hmore =>
        have hlast := hL.number (Passage.Alike.getLast? hextra hmore)
        have hspan : ∀ first last : Nat,
            (⟨first, last - first + 1⟩ : Span) = Span.upTo first last := by
          intro first last
          rw [Span.upTo]
          congr 1
          omega
        refine .error ⟨rfl, rfl, _, _, _, _, hL.number hextra, hlast, hspan _ _, hspan _ _⟩
    · exact nomatch htail
    · exact nomatch htail
    · cases htail with
      | some hclause =>
        simp only
        generalize additions? tail = text at hclause
        generalize additions? tail' = text' at hclause
        cases hclause with
        | none => exact corresponds_faultAt rfl hnumber
        | some htext =>
          exact (corresponds_additions hL htext hbelow).bind fun _ _ hr ↦ .ok ⟨rfl, hr⟩

end Parts

/-! ### Values -/

private theorem corresponds_named {V : ValueTree U → ValueTree U → Prop}
    {part part' : Passage → Except SyntaxError (ValueTree U)}
    (hpart : ∀ q q', q.Alike L q' → Corresponds (SyntaxError.Resembles N) V (part q) (part' q'))
    {named named' : List (String × Passage)} (h : List.Forall₂ (NamedAlike L) named named') :
    Corresponds (SyntaxError.Resembles N)
      (fun es es' : List (String × ValueTree U) ↦ es.map Prod.fst = es'.map Prod.fst ∧
        List.Forall₂ V (es.map Prod.snd) (es'.map Prod.snd))
      (named.mapM fun (name, q) ↦ do return (name, ← part q))
      (named'.mapM fun (name, q) ↦ do return (name, ← part' q)) := by
  induction h with
  | nil => exact .ok ⟨rfl, .nil⟩
  | cons he _ ih =>
    rw [List.mapM_cons, List.mapM_cons]
    simp only [bind_assoc, pure_bind]
    refine (hpart _ _ he.passage).bind fun t t' ht ↦ ih.bind fun es es' hes ↦ .ok ⟨?_, ?_⟩
    · rw [List.map_cons, List.map_cons, hes.1, he.name]
    · exact .cons ht hes.2

variable {V : ValueTree U → ValueTree U → Prop} (hL : RespectsLines N L)
  (hV : RespectsValues N L V)
include hL hV

/-- One level of a value is read alike if its parts are. The kind of the value is settled by its
first line, and related lines begin alike. -/
theorem corresponds_readWith {part part' : Passage → Except SyntaxError (ValueTree U)}
    (hpart : ∀ q q', q.Alike L q' → Corresponds (SyntaxError.Resembles N) V (part q) (part' q'))
    {p p' : Passage} (span : p.span.Resembles N p'.span)
    (content : List.Forall₂ L p.content p'.content) :
    Corresponds (SyntaxError.Resembles N) V (readWith part p) (readWith part' p') := by
  rw [readWith, readWith]
  generalize p.content = ls at content
  generalize p'.content = ls' at content
  cases content with
  | nil => exact .error ⟨rfl, rfl, span⟩
  | @cons head head' rest rest' hhead hrest =>
    have hlines : List.Forall₂ L (head :: rest) (head' :: rest') := .cons hhead hrest
    have hmarker := hL.marker hhead
    have hkey := hL.key .word hhead
    have hmixin := hL.mixin hhead
    simp only
    generalize marker? head.text = marker at hmarker
    generalize marker? head'.text = marker' at hmarker
    generalize key? .word head.text = key at hkey
    generalize key? .word head'.text = key' at hkey
    generalize mixin? head.text = mixin at hmixin
    generalize mixin? head'.text = mixin' at hmixin
    cases hmarker with
    | @some m m' hm =>
      simp only [← hm.1]
      exact (corresponds_elements hL none hlines).bind fun r r' hr ↦
        (Corresponds.mapM hr.2 hpart).bind fun ts ts' hts ↦ .ok (hV.array span hlines _ hts)
    | none =>
      cases hkey with
      | some _ =>
        exact (corresponds_entries hL .word false hlines).bind fun r r' hr ↦
          (corresponds_named hpart hr.2).bind fun es es' hes ↦
            .ok (hV.object span hlines hes.1 hes.2)
      | none =>
        cases hmixin with
        | @some m m' hm =>
          obtain ⟨base, clause, text⟩ := m
          obtain ⟨base', clause', text'⟩ := m'
          obtain ⟨rfl, rfl, htext⟩ := hm
          refine (corresponds_mixinParts hL clause htext hrest).bind fun r r' hr ↦ ?_
          obtain ⟨removals, named⟩ := r
          obtain ⟨removals', named'⟩ := r'
          obtain ⟨rfl, hnamed⟩ := hr
          exact (corresponds_named hpart hnamed).bind fun es es' hes ↦
            .ok (hV.mixin span hlines base removals hes.1 hes.2)
        | none =>
          cases hrest with
          | nil =>
            refine .ok ?_
            rw [← hL.code hhead]
            exact hV.expression span hlines _
          | cons => exact .error ⟨rfl, rfl, span⟩

theorem corresponds_readFrom (fuel : Nat) {p p' : Passage} (h : p.Alike L p') :
    Corresponds (SyntaxError.Resembles N) V (readFrom fuel p) (readFrom fuel p') := by
  induction fuel generalizing p p' with
  | zero => exact .error ⟨rfl, rfl, h.span hL⟩
  | succ fuel ih =>
    rw [readFrom_succ, readFrom_succ]
    exact corresponds_readWith hL hV (fun q q' ↦ ih) (h.span hL) (h.content hL)

theorem corresponds_read_of_alike {p p' : Passage} (h : p.Alike L p') :
    Corresponds (SyntaxError.Resembles N) V (read p) (read p') := by
  -- Related passages need not be of one size, so the bound is one that is enough for both.
  have hfuel : p.size < max p.size p'.size + 1 := Nat.lt_succ_of_le (Nat.le_max_left _ _)
  have hfuel' : p'.size < max p.size p'.size + 1 := Nat.lt_succ_of_le (Nat.le_max_right _ _)
  rw [read, read, readFrom_eq_readFrom (Nat.lt_succ_self _) hfuel,
    readFrom_eq_readFrom (Nat.lt_succ_self _) hfuel']
  exact corresponds_readFrom hL hV _ h

/-- **Passages are read alike if related lines count of them.** -/
theorem corresponds_read_of_counts {p p' : Passage} (span : p.span.Resembles N p'.span)
    (content : List.Forall₂ L p.content p'.content) :
    Corresponds (SyntaxError.Resembles N) V (read p) (read p') := by
  rw [read_eq_readWith, read_eq_readWith]
  exact corresponds_readWith hL hV (fun _ _ ↦ corresponds_read_of_alike hL hV) span content

end ValueTree

end Reading

/-! ## The same lines under other numbers -/

namespace ValueTree

theorem respectsLines_resembles : RespectsLines N (NumberedLine.Resembles N) := by
  have hrel : ∀ {α : Type} {S : α → α → Prop} (o : Option α), (∀ a, S a a) → Option.Rel S o o := by
    intro α S o h
    cases o with
    | none => exact .none
    | some a => exact .some (h a)
  constructor
  · exact fun h ↦ h.number
  · exact fun h ↦ congrArg _ h.text
  · exact fun h ↦ congrArg _ h.text
  · exact fun h ↦ congrArg _ h.text
  · intro l l' h
    rw [← h.text]
    exact hrel _ fun m ↦ ⟨rfl, h.number, rfl⟩
  · intro l l' h
    rw [← h.text]
    exact hrel _ fun text ↦ ⟨h.number, rfl⟩
  · intro form l l' h
    rw [← h.text]
    exact hrel _ fun k ↦ ⟨rfl, h.number, rfl⟩
  · intro l l' h
    rw [← h.text]
    exact hrel _ fun m ↦ ⟨rfl, rfl, h.number, rfl⟩
  · intro l l' h n
    rw [← h.text]
  · intro l l' h
    rw [← h.text]
    exact hrel _ fun tail ↦ hrel _ fun text ↦ ⟨h.number, rfl⟩

theorem respectsValues_resembles :
    RespectsValues N (NumberedLine.Resembles N) (ValueTree.Resembles (U := U) N) := by
  have hblock : ∀ {s s' : Span} {ls ls' : List NumberedLine}, s.Resembles N s' →
      List.Forall₂ (NumberedLine.Resembles N) ls ls' →
      Block.Resembles N ⟨s, String.ofList (unlines (ls.map (·.text)))⟩
        ⟨s', String.ofList (unlines (ls'.map (·.text)))⟩ := by
    intro s s' ls ls' hspan hls
    have htexts : ls.map (·.text) = ls'.map (·.text) :=
      map_eq_map_of_forall₂ hls fun _ _ _ hl ↦ hl.text
    exact ⟨hspan, by rw [htexts]⟩
  constructor
  · exact fun hspan hls unordered _ _ hparts ↦ .array (hblock hspan hls) unordered hparts
  · exact fun hspan hls _ _ hnames hparts ↦ .object (hblock hspan hls) hnames hparts
  · exact fun hspan hls base removals _ _ hnames hparts ↦
      .mixin (hblock hspan hls) base removals hnames hparts
  · exact fun hspan hls code ↦ .expression (hblock hspan hls) code

/-- **Passages that say the same thing are read alike.** -/
theorem corresponds_read {p p' : Passage} (h : p.Resembles N p') :
    Corresponds (SyntaxError.Resembles N) (ValueTree.Resembles (U := U) N) (read p) (read p') :=
  corresponds_read_of_alike respectsLines_resembles respectsValues_resembles ⟨h.first, h.more⟩

theorem corresponds_read_of_content {p p' : Passage} (span : p.span.Resembles N p'.span)
    (content : List.Forall₂ (NumberedLine.Resembles N) p.content p'.content) :
    Corresponds (SyntaxError.Resembles N) (ValueTree.Resembles (U := U) N) (read p) (read p') :=
  corresponds_read_of_counts respectsLines_resembles respectsValues_resembles span content

end ValueTree

end DataOutline
