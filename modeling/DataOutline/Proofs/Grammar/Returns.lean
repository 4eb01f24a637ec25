import Mathlib.Data.List.TakeWhile
import DataOutline.Proofs.Document.Span
import DataOutline.Proofs.Grammar.Beginning
import DataOutline.Proofs.Grammar.Numbering

/-!
# Carriage returns at the ends of lines

A carriage return is a blank, and no word, name or path holds one. So those at the end of a line are
handed on with what follows the beginning of the line, until they are trimmed away. The reader of
values respects them: with them or without, the same value is read, and the same errors are found.
Only the text that is kept of the lines has them or has them not.
-/

namespace DataOutline

open Text Grammar

/-- A text of carriage returns alone. -/
def IsReturns (cs : Line) : Prop := ∀ c ∈ cs, c = '\r'

namespace IsReturns

variable {rs : Line}

theorem nil : IsReturns [] := fun _ h ↦ absurd h List.not_mem_nil

theorem cases_eq (h : IsReturns rs) : rs = [] ∨ ∃ more, rs = '\r' :: more ∧ IsReturns more := by
  rcases rs with _ | ⟨c, more⟩
  · exact Or.inl rfl
  · obtain ⟨rfl, hmore⟩ := List.forall_mem_cons.mp h
    exact Or.inr ⟨more, rfl, hmore⟩

theorem append (h : IsReturns rs) {rs' : Line} (h' : IsReturns rs') : IsReturns (rs ++ rs') :=
  fun c hc ↦ (List.mem_append.mp hc).elim (h c) (h' c)

/-- A beginning without carriage returns is not made of those behind it. -/
theorem exists_of_append_eq (h : IsReturns rs) {l text : Line} (front : Line)
    (free : '\r' ∉ front) (heq : l ++ rs = front ++ text) :
    ∃ tail, l = front ++ tail ∧ text = tail ++ rs := by
  rcases List.append_eq_append_iff.mp heq with ⟨_ | ⟨c, more⟩, rfl, rfl⟩ | ⟨tail, hl, htext⟩
  · exact ⟨[], by rw [List.append_nil, List.append_nil], rfl⟩
  · cases h c List.mem_cons_self
    exact absurd (List.mem_append_right l List.mem_cons_self) free
  · exact ⟨tail, hl, htext⟩

/-! ## Blanks -/

theorem isBlank (h : IsReturns rs) : ∀ c ∈ rs, isBlank c = true := by
  intro c hc
  rw [h c hc]
  rfl

theorem allBlank_append (h : IsReturns rs) (l : Line) : allBlank (l ++ rs) = allBlank l := by
  rw [allBlank, List.all_append, List.all_eq_true.mpr h.isBlank, Bool.and_true, allBlank]

/-- Carriage returns behind something that is not blank stay; behind blanks they go with these. -/
theorem exists_trimStart_append (h : IsReturns rs) (l : Line) :
    ∃ rs', IsReturns rs' ∧ trimStart (l ++ rs) = trimStart l ++ rs' := by
  induction l with
  | nil =>
    refine ⟨[], .nil, ?_⟩
    rw [List.nil_append, List.append_nil]
    exact List.dropWhile_eq_nil_iff.mpr h.isBlank
  | cons c l ih =>
    rw [List.cons_append, trimStart, trimStart, List.dropWhile_cons, List.dropWhile_cons]
    cases Text.isBlank c with
    | true => exact ih
    | false => exact ⟨rs, h, rfl⟩

theorem trimEnd_append (h : IsReturns rs) (l : Line) : trimEnd (l ++ rs) = trimEnd l := by
  have hrev : ∀ c ∈ rs.reverse, Text.isBlank c = true :=
    fun c hc ↦ h.isBlank c (List.mem_reverse.mp hc)
  rw [trimEnd, List.reverse_append, List.dropWhile_append_of_pos hrev, ← trimEnd]

theorem trim_append (h : IsReturns rs) (l : Line) : trim (l ++ rs) = trim l := by
  obtain ⟨rs', h', htrim⟩ := h.exists_trimStart_append l
  rw [trim, htrim, h'.trimEnd_append, ← trim]

theorem takeWhile_append (h : IsReturns rs) {p : Char → Bool} (stop : p '\r' = false) (l : Line) :
    (l ++ rs).takeWhile p = l.takeWhile p ∧ (l ++ rs).dropWhile p = l.dropWhile p ++ rs := by
  induction l with
  | nil =>
    rcases h.cases_eq with rfl | ⟨more, rfl, -⟩
    · exact ⟨rfl, rfl⟩
    · rw [List.nil_append, List.takeWhile_cons, List.dropWhile_cons, stop]
      exact ⟨rfl, rfl⟩
  | cons c l ih =>
    rw [List.cons_append, List.takeWhile_cons, List.dropWhile_cons, List.takeWhile_cons,
      List.dropWhile_cons]
    cases p c with
    | true => exact ⟨congrArg _ ih.1, ih.2⟩
    | false => exact ⟨rfl, rfl⟩

theorem exists_firstWord_append (h : IsReturns rs) (l : Line) :
    ∃ rs', IsReturns rs' ∧ firstWord (l ++ rs) = ((firstWord l).1, (firstWord l).2 ++ rs') := by
  obtain ⟨htake, hdrop⟩ := h.takeWhile_append (p := fun c ↦ !Text.isBlank c) rfl l
  obtain ⟨rs', h', htrim⟩ := h.exists_trimStart_append (l.dropWhile fun c ↦ !Text.isBlank c)
  exact ⟨rs', h', by rw [firstWord, htake, hdrop, htrim, firstWord]⟩

theorem isComment_append (h : IsReturns rs) (l : Line) :
    Passage.isComment (l ++ rs) = Passage.isComment l := by
  obtain ⟨rs', h', htrim⟩ := h.exists_trimStart_append l
  rw [Passage.isComment, Passage.isComment, htrim, Bool.eq_iff_iff, List.isPrefixOf_iff_prefix,
    List.isPrefixOf_iff_prefix]
  constructor
  · rintro ⟨text, htext⟩
    obtain ⟨tail, htail, -⟩ := h'.exists_of_append_eq _ (by decide) htext.symm
    exact ⟨tail, htail.symm⟩
  · exact fun hslashes ↦ hslashes.trans (List.prefix_append _ _)

/-! ## Beginnings of lines -/

theorem marker?_append (h : IsReturns rs) (l : Line) :
    marker? (l ++ rs) = (marker? l).map fun m ↦ (m.1, m.2 ++ rs) := by
  cases hmarker : marker? l with
  | some m =>
    obtain ⟨unordered, text⟩ := m
    rw [Option.map_some, marker?_eq_some_iff, marker?_eq_some_iff.mp hmarker]
    rfl
  | none =>
    rw [Option.map_none, Option.eq_none_iff_forall_ne_some]
    rintro ⟨unordered, text⟩ hlong
    obtain ⟨tail, htail, -⟩ := h.exists_of_append_eq (markerOf unordered)
      (by cases unordered <;> decide) (marker?_eq_some_iff.mp hlong)
    exact nomatch hmarker.symm.trans (marker?_eq_some_iff.mpr htail)

theorem unindent?_append (h : IsReturns rs) (l : Line) :
    unindent? (l ++ rs) = (unindent? l).map (· ++ rs) := by
  cases htab : unindent? l with
  | some text =>
    rw [Option.map_some, unindent?_eq_some_iff, unindent?_eq_some_iff.mp htab]
    rfl
  | none =>
    rw [Option.map_none, Option.eq_none_iff_forall_ne_some]
    intro text hlong
    obtain ⟨tail, htail, -⟩ := h.exists_of_append_eq ['\t'] (by decide)
      (unindent?_eq_some_iff.mp hlong)
    exact nomatch htab.symm.trans (unindent?_eq_some_iff.mpr htail)

theorem quotedBody_eq_none (h : IsReturns rs) : quotedBody rs = none := by
  induction rs with
  | nil => rfl
  | cons c rs ih =>
    obtain ⟨rfl, hmore⟩ := List.forall_mem_cons.mp h
    rw [quotedBody, ih hmore]
    · rfl
    · decide
    · decide

theorem quotedBody_append (h : IsReturns rs) (l : Line) :
    quotedBody (l ++ rs) = (quotedBody l).map fun b ↦ (b.1, b.2 ++ rs) := by
  induction l using quotedBody.induct with
  | case1 => exact h.quotedBody_eq_none
  | case2 rest => rfl
  | case3 =>
    rcases h.cases_eq with rfl | ⟨more, rfl, hmore⟩
    · rfl
    · have hescape : quotedBody ('\\' :: '\r' :: more) =
          (quotedBody more).map fun b ↦ (unescape '\r' :: b.1, b.2) := by
        rw [quotedBody.eq_def]
        rfl
      rw [List.singleton_append, hescape, hmore.quotedBody_eq_none]
      rfl
  | case4 c rest ih =>
    rw [List.cons_append, List.cons_append, quotedBody, quotedBody, ih, Option.map_map,
      Option.map_map]
    rfl
  | case5 c rest hquote hslash ih =>
    have hcons : ∀ l : Line, quotedBody (c :: l) =
        (quotedBody l).map fun b ↦ (c :: b.1, b.2) := by
      intro l
      rw [quotedBody]
      · exact hquote
      · exact hslash
    rw [List.cons_append, hcons, hcons, ih, Option.map_map, Option.map_map]
    rfl

theorem pathPart_append_returns (h : IsReturns rs) (l : Line) :
    pathPart (l ++ rs) = ((pathPart l).1, (pathPart l).2 ++ rs) := by
  obtain ⟨htake, hdrop⟩ := h.takeWhile_append (p := isPathChar) rfl l
  rw [pathPart, pathPart, List.span_eq_takeWhile_dropWhile, List.span_eq_takeWhile_dropWhile]
  exact Prod.ext htake hdrop

theorem keyName?_append (h : IsReturns rs) (form : KeyForm) (l : Line) :
    keyName? form (l ++ rs) = (keyName? form l).map fun k ↦ (k.1, k.2 ++ rs) := by
  by_cases hquote : l.head? = some '"'
  · obtain ⟨l, rfl⟩ := List.head?_eq_some_iff.mp hquote
    exact h.quotedBody_append l
  · have hquote' : (l ++ rs).head? ≠ some '"' := by
      intro hhead
      obtain ⟨more, hmore⟩ := List.head?_eq_some_iff.mp hhead
      obtain ⟨tail, rfl, -⟩ := h.exists_of_append_eq ['"'] (by decide) hmore
      exact hquote rfl
    rw [keyName?_of_head_ne hquote, keyName?_of_head_ne hquote', h.pathPart_append_returns]
    dsimp only
    split
    · rcases (pathPart l).2 with _ | ⟨c, rest⟩
      · rcases h.cases_eq with rfl | ⟨more, rfl, -⟩
        · rfl
        · rfl
      · by_cases hc : c = '?'
        · subst hc
          rfl
        · simp [hc]
    · rfl

theorem key?_append (h : IsReturns rs) (form : KeyForm) (l : Line) :
    key? form (l ++ rs) = (key? form l).map fun k ↦ (k.1, k.2 ++ rs) := by
  rw [key?, key?, h.keyName?_append]
  rcases keyName? form l with _ | ⟨name, _ | ⟨a, _ | ⟨b, rest⟩⟩⟩
  · rfl
  · rcases h.cases_eq with rfl | ⟨more, rfl, -⟩
    · rfl
    · rfl
  · by_cases ha : a = ':'
    · subst ha
      rcases h.cases_eq with rfl | ⟨more, rfl, -⟩
      · rfl
      · rfl
    · simp [ha]
  · by_cases ha : a = ':'
    · subst ha
      by_cases hb : b = ' '
      · subst hb
        rfl
      · simp [hb]
    · simp [ha]

theorem exists_mixin?_append (h : IsReturns rs) (l : Line) :
    ∃ rs', IsReturns rs' ∧ mixin? (l ++ rs) =
      (mixin? l).map fun m ↦ (m.1, m.2.1, m.2.2 ++ rs') := by
  obtain ⟨rs₁, h₁, htrim⟩ := h.exists_trimStart_append (pathPart l).2
  obtain ⟨rs₂, h₂, hword⟩ := h₁.exists_firstWord_append (trimStart (pathPart l).2)
  refine ⟨rs₂, h₂, ?_⟩
  have hbehind : ∀ rs, (l ++ rs).drop (pathPart l).1.length = (pathPart l).2 ++ rs := by
    intro rs
    have hsplit : l ++ rs = (pathPart l).1 ++ ((pathPart l).2 ++ rs) := by
      rw [← List.append_assoc, pathPart_append]
    rw [hsplit, List.drop_left]
  have hbehind' := hbehind []
  rw [List.append_nil, List.append_nil] at hbehind'
  rw [mixin?, mixin?, h.pathPart_append_returns]
  dsimp only
  rw [htrim, hword, hbehind, hbehind']
  rcases (pathPart l).2 with _ | ⟨c, rest⟩
  · -- Behind a path that is all of the line no clause begins, blanks or not.
    have hnone : Clause.ofWord? (firstWord (trimStart [])).1 = none := rfl
    simp [hnone]
  · rw [List.cons_append, List.head?_cons, List.head?_cons]
    split
    · rw [Option.map_map]
      rfl
    · rfl

theorem exists_additions?_append (h : IsReturns rs) (l : Line) :
    ∃ rs', IsReturns rs' ∧ additions? (l ++ rs) = (additions? l).map (· ++ rs') := by
  obtain ⟨rs₁, h₁, htrim⟩ := h.exists_trimStart_append l
  obtain ⟨rs₂, h₂, hword⟩ := h₁.exists_firstWord_append (trimStart l)
  refine ⟨rs₂, h₂, ?_⟩
  rw [additions?, additions?, htrim, hword]
  dsimp only
  split
  · rfl
  · rfl

/-! ## Lists of paths -/

theorem exists_splitOn_append (h : IsReturns rs) (l : Line) :
    ∃ front last, l.splitOn ',' = front ++ [last] ∧
      (l ++ rs).splitOn ',' = front ++ [last ++ rs] := by
  induction l with
  | nil =>
    have hcomma : ',' ∉ rs := fun hmem ↦ absurd (h ',' hmem) (by decide)
    exact ⟨[], [], List.splitOn_nil _, List.splitOn_eq_singleton hcomma⟩
  | cons c l ih =>
    obtain ⟨front, last, hl, hlong⟩ := ih
    rw [List.cons_append, List.splitOn_cons_eq_if_modifyHead, List.splitOn_cons_eq_if_modifyHead,
      hl, hlong]
    split
    · exact ⟨[] :: front, last, rfl, rfl⟩
    · rcases front with _ | ⟨part, front⟩
      · exact ⟨[], c :: last, rfl, rfl⟩
      · exact ⟨(c :: part) :: front, last, rfl, rfl⟩

theorem removals_append (h : IsReturns rs) (n : Nat) (l : Line) :
    ValueTree.removals n (l ++ rs) = ValueTree.removals n l := by
  obtain ⟨front, last, hl, hlong⟩ := h.exists_splitOn_append l
  have hpaths : ((l ++ rs).splitOn ',').map trim = (l.splitOn ',').map trim := by
    rw [hl, hlong, List.map_append, List.map_append, List.map_singleton, List.map_singleton,
      h.trim_append]
  rw [ValueTree.removals, ValueTree.removals, h.allBlank_append, hpaths]

/-- Carriage returns belong to the list of paths, if no semicolon ends it, and else to what is
behind it. -/
theorem list_append (h : IsReturns rs) (l : Line) :
    ((l ++ rs).takeWhile (· ≠ ';') = l.takeWhile (· ≠ ';') ++ rs ∧
        ValueTree.behindList (l ++ rs) = none ∧ ValueTree.behindList l = none) ∨
      (l ++ rs).takeWhile (· ≠ ';') = l.takeWhile (· ≠ ';') ∧
        ∃ tail, ValueTree.behindList l = some tail ∧
          ValueTree.behindList (l ++ rs) = some (tail ++ rs) := by
  induction l with
  | nil =>
    have hlist : rs.takeWhile (· ≠ ';') = rs :=
      List.takeWhile_eq_self_iff.mpr fun c hc ↦ by rw [h c hc]; rfl
    refine Or.inl ⟨hlist, ?_, rfl⟩
    rw [List.nil_append, ValueTree.behindList, hlist, List.drop_length]
    rfl
  | cons c l ih =>
    by_cases hc : c = ';'
    · subst hc
      exact Or.inr ⟨rfl, l, rfl, rfl⟩
    · have htake : ∀ l : Line, (c :: l).takeWhile (· ≠ ';') = c :: l.takeWhile (· ≠ ';') :=
        fun l ↦ List.takeWhile_cons_of_pos (decide_eq_true hc)
      have hbehind : ∀ l, ValueTree.behindList (c :: l) = ValueTree.behindList l := by
        intro l
        rw [ValueTree.behindList, htake, List.length_cons, List.drop_succ_cons,
          ← ValueTree.behindList]
      rw [List.cons_append, htake, htake, hbehind, hbehind]
      exact ih.imp (fun h ↦ ⟨congrArg (c :: ·) h.1, h.2⟩) fun h ↦ ⟨congrArg (c :: ·) h.1, h.2⟩

end IsReturns

/-! ## Lines and values -/

/-- The same line with carriage returns at its end, or with none. -/
def WithReturns (l l' : Line) : Prop := ∃ rs, IsReturns rs ∧ l' = l ++ rs

namespace WithReturns

variable {l l' l'' : Line}

theorem refl (l : Line) : WithReturns l l := ⟨[], .nil, (List.append_nil l).symm⟩

theorem trans (h : WithReturns l l') (h' : WithReturns l' l'') : WithReturns l l'' := by
  obtain ⟨rs, hrs, rfl⟩ := h
  obtain ⟨rs', hrs', rfl⟩ := h'
  exact ⟨rs ++ rs', hrs.append hrs', List.append_assoc l rs rs'⟩

theorem withoutReturn (line : Line) : WithReturns (withoutReturn line) line := by
  rw [Text.withoutReturn]
  split
  · next hlast =>
    obtain ⟨front, rfl⟩ := List.getLast?_eq_some_iff.mp hlast
    exact ⟨['\r'], List.forall_mem_singleton.mpr rfl, by rw [List.dropLast_concat]⟩
  · exact refl line

theorem allBlank_eq (h : WithReturns l l') : allBlank l = allBlank l' := by
  obtain ⟨rs, hrs, rfl⟩ := h
  rw [hrs.allBlank_append]

theorem isComment_eq (h : WithReturns l l') : Passage.isComment l = Passage.isComment l' := by
  obtain ⟨rs, hrs, rfl⟩ := h
  rw [hrs.isComment_append]

theorem subset (h : WithReturns l l') : l ⊆ l' := by
  obtain ⟨rs, -, rfl⟩ := h
  exact List.subset_append_left l rs

end WithReturns

/-- The same line, but for carriage returns at its end and a number that is related. -/
structure NumberedLine.Returned (N : Nat → Nat → Prop) (l l' : NumberedLine) : Prop where
  number : N l.number l'.number
  text : WithReturns l.text l'.text

namespace ValueTree

variable {U : Type} {N : Nat → Nat → Prop}

/-- **The reader of values respects carriage returns at the ends of lines.** -/
theorem respectsLines_returned : RespectsLines N (NumberedLine.Returned N) := by
  have hrel : ∀ {α : Type} {S : α → α → Prop} {g : α → α} (o : Option α), (∀ a, S a (g a)) →
      Option.Rel S o (o.map g) := by
    intro α S g o h
    cases o with
    | none => exact .none
    | some a => exact .some (h a)
  constructor
  · exact fun h ↦ h.number
  · exact fun h ↦ h.text.allBlank_eq
  · exact fun h ↦ h.text.isComment_eq
  · rintro l l' ⟨-, rs, hrs, htext⟩
    rw [htext, hrs.trim_append]
  · rintro l l' ⟨hnumber, rs, hrs, htext⟩
    rw [htext, hrs.marker?_append]
    exact hrel _ fun m ↦ ⟨rfl, hnumber, rs, hrs, rfl⟩
  · rintro l l' ⟨hnumber, rs, hrs, htext⟩
    rw [htext, hrs.unindent?_append]
    exact hrel _ fun text ↦ ⟨hnumber, rs, hrs, rfl⟩
  · rintro form l l' ⟨hnumber, rs, hrs, htext⟩
    rw [htext, hrs.key?_append]
    exact hrel _ fun k ↦ ⟨rfl, hnumber, rs, hrs, rfl⟩
  · rintro l l' ⟨hnumber, rs, hrs, htext⟩
    obtain ⟨rs', hrs', hmixin⟩ := hrs.exists_mixin?_append l.text
    rw [htext, hmixin]
    exact hrel _ fun m ↦ ⟨rfl, rfl, hnumber, rs', hrs', rfl⟩
  · rintro l l' ⟨-, rs, hrs, htext⟩ n
    rw [htext]
    rcases hrs.list_append l.text with ⟨hlist, -⟩ | ⟨hlist, -⟩
    · rw [hlist, hrs.removals_append]
    · rw [hlist]
  · rintro l l' ⟨hnumber, rs, hrs, htext⟩
    rw [htext]
    rcases hrs.list_append l.text with ⟨-, hlong, hshort⟩ | ⟨-, tail, hshort, hlong⟩
    · rw [hlong, hshort]
      exact .none
    · obtain ⟨rs', hrs', hadditions⟩ := hrs.exists_additions?_append tail
      rw [hlong, hshort]
      refine .some ?_
      rw [hadditions]
      exact hrel _ fun text ↦ ⟨hnumber, rs', hrs', rfl⟩

/-- What is kept of lines is no part of what a value says. -/
theorem respectsValues_bare (L : NumberedLine → NumberedLine → Prop) :
    RespectsValues N L fun t t' : ValueTree U ↦ t.bare = t'.bare := by
  have heach : ∀ {ts ts' : List (ValueTree U)}, List.Forall₂ (fun t t' ↦ t.bare = t'.bare) ts ts' →
      ts.map bare = ts'.map bare := fun h ↦ map_eq_map_of_forall₂ h fun _ _ _ ht ↦ ht
  constructor
  · intro s s' ls ls' _ _ unordered ts ts' hparts
    rw [bare, bare, bareAll_eq_map, bareAll_eq_map, heach hparts]
  · intro s s' ls ls' _ _ es es' hnames hparts
    rw [bare, bare, bareEntries_eq_zip, bareEntries_eq_zip, hnames, heach hparts]
  · intro s s' ls ls' _ _ base removals es es' hnames hparts
    rw [bare, bare, bareEntries_eq_zip, bareEntries_eq_zip, hnames, heach hparts]
  · intro s s' ls ls' _ _ code
    rw [bare, bare]

/-- **Carriage returns at the ends of lines, and the numbers of lines, say nothing.** -/
theorem exists_read_of_returned {p p' : Passage}
    (content : List.Forall₂ (NumberedLine.Returned fun _ _ ↦ True) p.content p'.content)
    {t' : ValueTree U} (h : read p' = .ok t') : ∃ t, read p = .ok t ∧ t.bare = t'.bare := by
  have hspan : p.span.Resembles (fun _ _ ↦ True) p'.span :=
    ⟨_, _, _, _, trivial, trivial, rfl, rfl⟩
  have hread := corresponds_read_of_counts (U := U) respectsLines_returned (respectsValues_bare _)
    hspan content
  rw [h] at hread
  exact hread.exists_of_right

end ValueTree

end DataOutline
