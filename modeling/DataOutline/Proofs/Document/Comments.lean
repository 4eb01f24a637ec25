import Mathlib.Logic.Relation
import DataOutline.Proofs.Document.Outline

/-!
# Comments say nothing

A comment beside a line of a value block is a line of the block, and it counts for nothing there. So
comments can be put into a source and taken out again without a change to what the source says: what
stands below a comment has moved down by a line, each block still begins where it did or one line
above, and the lines of each value block that count are the same. Both sources are the same document
but for lines, or they have the same fault.
-/

namespace DataOutline.Document

open Text

/-! ## Comments in value blocks -/

/-- A tab, blanks or none, two slashes, and any text. -/
def IsCommentLine (line : Line) : Prop :=
  ∃ blanks text, line = '\t' :: (blanks ++ '/' :: '/' :: text) ∧ ∀ c ∈ blanks, isBlank c = true

namespace IsCommentLine

variable {line : Line}

theorem isComment (h : IsCommentLine line) : Passage.isComment line = true := by
  obtain ⟨blanks, text, rfl, hblanks⟩ := h
  have htab : isBlank '\t' = true := rfl
  have hslash : isBlank '/' = false := rfl
  rw [Passage.isComment, trimStart, List.dropWhile_cons_of_pos htab,
    List.dropWhile_append_of_pos hblanks, List.dropWhile_cons, hslash]
  rfl

theorem isValueLine (h : IsCommentLine line) : IsValueLine line := by
  obtain ⟨blanks, text, rfl, -⟩ := h
  have hslash : isBlank '/' = false := rfl
  refine ⟨rfl, ?_⟩
  rw [allBlank, List.all_eq_false]
  exact ⟨'/', by simp, Bool.eq_false_iff.mp hslash⟩

/-- The carriage return of a line break belongs to no comment. -/
theorem withoutReturn (h : IsCommentLine line) : IsCommentLine (withoutReturn line) := by
  obtain ⟨blanks, text, rfl, hblanks⟩ := h
  rw [Text.withoutReturn]
  by_cases hreturn : ('\t' :: (blanks ++ '/' :: '/' :: text)).getLast? = some '\r'
  · rw [if_pos hreturn]
    rcases text with _ | ⟨c, text⟩
    · rw [List.getLast?_cons, List.getLast?_append_cons] at hreturn
      exact absurd (Option.some.inj hreturn) (by decide)
    · refine ⟨blanks, (c :: text).dropLast, ?_, hblanks⟩
      rw [List.dropLast_cons_of_ne_nil (by simp), List.dropLast_append_of_ne_nil (by simp)]
      rfl
  · rw [if_neg hreturn]
    exact ⟨blanks, text, rfl, hblanks⟩

end IsCommentLine

/-- The lines of a value block that are no comments. -/
def withoutComments (ls : List Line) : List Line := ls.filter fun l ↦ !Passage.isComment l

theorem withoutComments_cons_comment {comment : Line} (h : IsCommentLine comment) (ls : List Line) :
    withoutComments (comment :: ls) = withoutComments ls := by
  rw [withoutComments, List.filter_cons, h.isComment]
  rfl

theorem withoutComments_cons_congr {ls ls' : List Line}
    (h : withoutComments ls = withoutComments ls') (line : Line) :
    withoutComments (line :: ls) = withoutComments (line :: ls') := by
  rw [withoutComments, withoutComments, List.filter_cons, List.filter_cons, ← withoutComments,
    ← withoutComments, h]

/-- Lines, and the same with comments beside the value lines among them, none or any number. -/
inductive Commented : List Line → List Line → Prop
  | nil : Commented [] []
  | line {line : Line} {rest rest' : List Line} (outside : ¬fence <+: line)
      (more : Commented rest rest') : Commented (line :: rest) (line :: rest')
  | code (language : Line) {ls rest rest' : List Line} (within : ∀ l ∈ ls, l ≠ fence)
      (more : Commented rest rest') :
      Commented ((fence ++ language) :: (ls ++ fence :: rest))
        ((fence ++ language) :: (ls ++ fence :: rest'))
  | unclosed (language : Line) {rest : List Line} (never : fence ∉ rest) :
      Commented ((fence ++ language) :: rest) ((fence ++ language) :: rest)
  | before {comment line : Line} {rest rest' : List Line} (isComment : IsCommentLine comment)
      (value : IsValueLine line) (more : Commented (line :: rest) rest') :
      Commented (line :: rest) (comment :: rest')
  | after {comment line : Line} {rest rest' : List Line} (isComment : IsCommentLine comment)
      (value : IsValueLine line) (more : Commented rest rest') :
      Commented (line :: rest) (line :: comment :: rest')

theorem Commented.refl (ls : List Line) : Commented ls ls := by
  induction (0 : Nat), ls using scan_induction with
  | nil => exact .nil
  | line _ _ _ outside more => exact .line outside more
  | code _ language _ _ within more => exact .code language within more
  | unclosed _ language _ never => exact .unclosed language never

theorem Commented.of_met {n : Nat} {ls above below : List Line} {comment : Line} {m : Met}
    (isComment : IsCommentLine comment) (met : m ∈ scan false n ls) (value : IsValueLine m.line)
    (split : ls = above ++ below)
    (beside : above.length + n = m.number ∨ above.length + n = m.number + 1) :
    Commented ls (above ++ comment :: below) := by
  have hfence : ¬fence <+: m.line := by
    rw [fence_prefix_iff, isValueLine_iff.mp value]
    nofun
  induction n, ls using scan_induction generalizing above with
  | nil n =>
    rw [scan] at met
    exact absurd met List.not_mem_nil
  | line n line rest outside ih =>
    rw [scan_line n rest outside, List.mem_cons] at met
    rcases met with rfl | met
    · rcases above with _ | ⟨x, _ | ⟨y, above⟩⟩
      · subst split
        exact .before isComment value (.refl _)
      · cases split
        exact .after isComment value (.refl _)
      · simp only [List.length_cons] at beside
        omega
    · have hle := le_number_of_mem_scan met
      rcases above with _ | ⟨x, above⟩
      · rw [List.length_nil] at beside
        omega
      · cases split
        rw [List.length_cons] at beside
        exact .line outside (ih met rfl (by omega))
  | code n language ls rest within ih =>
    have hnumber : n + 1 + ls.length + 1 = n + ls.length + 2 := by omega
    rw [scan_fence, scan_inside _ rest within, hnumber, List.mem_cons] at met
    rcases met with rfl | met
    · exact absurd (List.prefix_append fence language) hfence
    · have hle := le_number_of_mem_scan met
      -- The lines of the code are among those above the comment.
      have hcode : ((fence ++ language) :: (ls ++ [fence])) <+: above := by
        have hwhole : ((fence ++ language) :: (ls ++ [fence]))
            <+: ((fence ++ language) :: (ls ++ fence :: rest)) := ⟨rest, by simp⟩
        refine List.prefix_of_prefix_length_le hwhole ⟨below, split.symm⟩ ?_
        rw [List.length_cons, List.length_append, List.length_singleton]
        omega
      obtain ⟨above, rfl⟩ := hcode
      simp only [List.cons_append, List.append_assoc, List.nil_append, List.cons.injEq,
        List.append_cancel_left_eq, true_and] at split ⊢
      simp only [List.length_append, List.length_cons, List.length_nil] at beside
      exact .code language within (ih met split (by omega))
  | unclosed n language rest never =>
    rw [scan_fence, scan_unclosed _ never, List.mem_singleton] at met
    subst met
    exact absurd (List.prefix_append fence language) hfence

/-! ## The items of a source with comments -/

/-- Items that say the same thing, whatever lines they stand on. -/
inductive SaysSame : Item → Item → Prop
  | header {h h' : Header} (same : h.forgetLine = h'.forgetLine) :
      SaysSame (.header h) (.header h')
  | text (n n' : Nat) (ls : List Line) : SaysSame (.text n ls) (.text n' ls)
  | value (n n' : Nat) {ls ls' : List Line} (same : withoutComments ls = withoutComments ls') :
      SaysSame (.value n ls) (.value n' ls')
  | code (n n' : Nat) (language : Line) (ls : List Line) :
      SaysSame (.code n language ls) (.code n' language ls)

/-- Whether the first of some items stands on line `n`. -/
def StartsAt (n : Nat) (items : List Item) : Prop := ∃ item ∈ items.head?, item.line = n

theorem not_startsAt_nil (n : Nat) : ¬StartsAt n [] := by
  rintro ⟨item, hitem, -⟩
  cases hitem

theorem startsAt_cons {n : Nat} {item : Item} {items : List Item} :
    StartsAt n (item :: items) ↔ item.line = n := by
  simp [StartsAt]

/-- Items from line `n` on, and items from line `n'` on that say the same thing. Either both begin
at once or neither does, which is what decides whether a run takes in the line above. -/
structure Alike (n n' : Nat) (items items' : List Item) : Prop where
  same : List.Forall₂ SaysSame items items'
  starts : StartsAt n items ↔ StartsAt n' items'

namespace Alike

variable {n n' : Nat} {items items' : List Item}

theorem below {n n' : Nat} (h : Alike (n + 1) (n' + 1) items items')
    (hle : ∀ item ∈ items, n + 1 ≤ item.line) (hle' : ∀ item ∈ items', n' + 1 ≤ item.line) :
    Alike n n' items items' := by
  have hnot : ∀ {k : Nat} {items : List Item}, (∀ item ∈ items, k + 1 ≤ item.line) →
      ¬StartsAt k items := by
    rintro k items hle ⟨item, hitem, rfl⟩
    exact absurd (hle item (List.mem_of_mem_head? hitem)) (Nat.not_succ_le_self _)
  exact ⟨h.same, iff_of_false (hnot hle) (hnot hle')⟩

theorem cons {item item' : Item} (same : SaysSame item item')
    (more : List.Forall₂ SaysSame items items') :
    Alike item.line item'.line (item :: items) (item' :: items') :=
  ⟨.cons same more, iff_of_true (startsAt_cons.mpr rfl) (startsAt_cons.mpr rfl)⟩

end Alike

/-- The lines of a run that begins on line `n` in front of some items, and the items behind it. The
first argument says which items are runs of this kind. -/
def takeRun (lines? : Item → Option (List Line)) (n : Nat) : List Item → List Line × List Item
  | [] => ([], [])
  | item :: rest =>
    match lines? item with
    | some ls => if item.line = n then (ls, rest) else ([], item :: rest)
    | none => ([], item :: rest)

/-- The lines of a run of value lines. -/
def valueLines? : Item → Option (List Line)
  | .value _ ls => some ls
  | _ => none

/-- The lines of a run of text lines. -/
def textLines? : Item → Option (List Line)
  | .text _ ls => some ls
  | _ => none

theorem takeRun_value (n : Nat) (ls : List Line) (rest : List Item) :
    takeRun valueLines? n (.value n ls :: rest) = (ls, rest) := by
  rw [takeRun, valueLines?]
  exact if_pos rfl

theorem consValue_eq (n : Nat) (line : Line) (items : List Item) :
    consValue n line items = .value n (line :: (takeRun valueLines? (n + 1) items).1)
      :: (takeRun valueLines? (n + 1) items).2 := by
  rcases items with _ | ⟨_ | _ | ⟨below, ls⟩ | _, rest⟩
  case cons.value =>
    rw [consValue, takeRun, valueLines?, Item.line]
    by_cases hbelow : below = n + 1
    · simp only [if_pos hbelow]
    · simp only [if_neg hbelow]
  all_goals rfl

theorem consText_eq (n : Nat) (line : Line) (items : List Item) :
    consText n line items = .text n (line :: (takeRun textLines? (n + 1) items).1)
      :: (takeRun textLines? (n + 1) items).2 := by
  rcases items with _ | ⟨_ | ⟨below, ls⟩ | _ | _, rest⟩
  case cons.text =>
    rw [consText, takeRun, textLines?, Item.line]
    by_cases hbelow : below = n + 1
    · simp only [if_pos hbelow]
    · simp only [if_neg hbelow]
  all_goals rfl

theorem Alike.takeRun (lines? : Item → Option (List Line)) {f : List Line → List Line}
    (lines : ∀ {item item'}, SaysSame item item' → (lines? item).map f = (lines? item').map f)
    {n n' : Nat} {items items' : List Item} (h : Alike n n' items items') :
    f (takeRun lines? n items).1 = f (takeRun lines? n' items').1 ∧
      List.Forall₂ SaysSame (takeRun lines? n items).2 (takeRun lines? n' items').2 := by
  obtain ⟨same, starts⟩ := h
  cases same with
  | nil => exact ⟨rfl, .nil⟩
  | @cons item item' rest rest' hitem hrest =>
    rw [startsAt_cons, startsAt_cons] at starts
    have hlines := lines hitem
    rw [Document.takeRun, Document.takeRun]
    cases h : lines? item with
    | none =>
      rw [h, Option.map_none, eq_comm, Option.map_eq_none_iff] at hlines
      rw [hlines]
      exact ⟨rfl, .cons hitem hrest⟩
    | some ls =>
      rw [h, Option.map_some, eq_comm, Option.map_eq_some_iff] at hlines
      obtain ⟨ls', h', hls⟩ := hlines
      rw [h']
      by_cases hline : item.line = n
      · simp only [if_pos hline, if_pos (starts.mp hline)]
        exact ⟨hls.symm, hrest⟩
      · simp only [if_neg hline, if_neg fun h ↦ hline (starts.mpr h)]
        exact ⟨trivial, .cons hitem hrest⟩

namespace Alike

variable {n n' : Nat} {items items' : List Item}

theorem valueRun (h : Alike n n' items items') :
    withoutComments (Document.takeRun valueLines? n items).1
        = withoutComments (Document.takeRun valueLines? n' items').1 ∧
      List.Forall₂ SaysSame (Document.takeRun valueLines? n items).2
        (Document.takeRun valueLines? n' items').2 := by
  refine h.takeRun valueLines? fun hitem ↦ ?_
  cases hitem with
  | value _ _ same => exact congrArg some same
  | header | text | code => rfl

theorem consValue (line : Line) (h : Alike (n + 1) (n' + 1) items items') :
    Alike n n' (Document.consValue n line items) (Document.consValue n' line items') := by
  obtain ⟨hls, hrest⟩ := h.valueRun
  rw [consValue_eq, consValue_eq]
  exact .cons (.value n n' (withoutComments_cons_congr hls line)) hrest

theorem consValue_comment {comment : Line} (isComment : IsCommentLine comment) (line : Line)
    (h : Alike (n + 1) (n' + 1 + 1) items items') :
    Alike n n' (Document.consValue n line items)
      (Document.consValue n' line (Document.consValue (n' + 1) comment items')) := by
  obtain ⟨hls, hrest⟩ := h.valueRun
  rw [consValue_eq, consValue_eq, consValue_eq (n' + 1), takeRun_value]
  refine .cons (.value n n' (withoutComments_cons_congr ?_ line)) hrest
  rw [withoutComments_cons_comment isComment]
  exact hls

theorem comment_consValue {comment : Line} (isComment : IsCommentLine comment) {line : Line}
    (h : Alike n (n' + 1) (Document.consValue n line items) items') :
    Alike n n' (Document.consValue n line items) (Document.consValue n' comment items') := by
  obtain ⟨hls, hrest⟩ := h.valueRun
  rw [consValue_eq] at hls hrest ⊢
  rw [takeRun_value] at hls hrest
  rw [consValue_eq n' comment]
  refine .cons (.value n n' ?_) hrest
  rw [withoutComments_cons_comment isComment]
  exact hls

theorem consText (line : Line) (h : Alike (n + 1) (n' + 1) items items') :
    Alike n n' (Document.consText n line items) (Document.consText n' line items') := by
  obtain ⟨hls, hrest⟩ := h.takeRun textLines? (f := id) fun hitem ↦ by
    cases hitem <;> rfl
  rw [consText_eq, consText_eq, show (Document.takeRun textLines? (n + 1) items).1 = _ from hls]
  exact .cons (.text n n' _) hrest

end Alike

/-- The same fault, whatever lines it lies in. -/
def SameFault (e e' : SyntaxError) : Prop := e.fault = e'.fault

/-- **Comments change nothing about what is gathered** but for the lines that the items stand on. -/
theorem gather_commented {ls ls' : List Line} (h : Commented ls ls') : ∀ n n' d : Nat,
    Corresponds SameFault (Alike n n') (gather n d none ls) (gather n' d none ls') := by
  induction h with
  | nil =>
    intro n n' d
    rw [gather, gather]
    exact .ok ⟨.nil, iff_of_false (not_startsAt_nil n) (not_startsAt_nil n')⟩
  | @line line rest rest' outside _ ih =>
    intro n n' d
    rw [gather_none_cons, gather_none_cons]
    cases hkind : lineKind line with
    | fence language => exact absurd (fence_prefix_iff.mpr ⟨language, hkind⟩) outside
    | blank =>
      refine (ih (n + 1) (n' + 1) d).imp (fun _ _ he ↦ he) fun items items' hok hok' h ↦ ?_
      exact h.below (gather_eq_ok_iff.mp hok).tiles.le_line (gather_eq_ok_iff.mp hok').tiles.le_line
    | header level name =>
      simp only
      split
      · exact .error rfl
      · split
        · exact .error rfl
        · have hheader : SaysSame (.header (headerAt n level name line))
              (.header (headerAt n' level name line)) := .header rfl
          exact (ih (n + 1) (n' + 1) level).map fun _ _ h ↦ .cons hheader h.same
    | value => exact (ih (n + 1) (n' + 1) d).map fun _ _ h ↦ h.consValue line
    | stray => exact .error rfl
    | text => exact (ih (n + 1) (n' + 1) d).map fun _ _ h ↦ h.consText line
  | @code language ls rest rest' within _ ih =>
    intro n n' d
    rw [gather_none_cons, gather_none_cons, lineKind_fence_append]
    simp only [gather_some_append within]
    exact (ih _ _ d).map fun _ _ h ↦ .cons (.code n n' language _) h.same
  | unclosed language never =>
    intro n n' d
    rw [gather_none_cons, gather_none_cons, lineKind_fence_append]
    simp only [gather_unclosed never]
    exact .error rfl
  | @before comment line rest rest' isComment value _ ih =>
    intro n n' d
    -- The first line is a value line, so the run that takes the comment in is there.
    have hmore : Corresponds SameFault
        (fun items items' ↦ (∃ more, items = consValue n line more) ∧ Alike n (n' + 1) items items')
        (gather n d none (line :: rest)) (gather (n' + 1) d none rest') := by
      refine (ih n (n' + 1) d).imp (fun _ _ he ↦ he) fun items items' hok _ h ↦ ⟨?_, h⟩
      rw [gather_none_cons, isValueLine_iff.mp value] at hok
      obtain ⟨more, -, rfl⟩ := map_eq_ok_iff.mp hok
      exact ⟨more, rfl⟩
    rw [gather_none_cons n', isValueLine_iff.mp isComment.isValueLine,
      ← id_map (gather n d none (line :: rest))]
    refine hmore.map fun items items' h ↦ ?_
    obtain ⟨⟨more, rfl⟩, h⟩ := h
    exact h.comment_consValue isComment
  | @after comment line rest rest' isComment value _ ih =>
    intro n n' d
    rw [gather_none_cons, isValueLine_iff.mp value, gather_none_cons n', isValueLine_iff.mp value,
      gather_none_cons (n' + 1), isValueLine_iff.mp isComment.isValueLine]
    simp only [Functor.map_map]
    exact (ih _ _ d).map fun _ _ h ↦ h.consValue_comment isComment line

/-! ## Reading a source with comments -/

variable {U : Type}

/-- What counts of a value block is its lines without comments, each without its tab. -/
theorem map_text_content {n : Nat} {ls : List Line} {first : NumberedLine}
    {more : List NumberedLine} (hls : ∀ l ∈ ls, IsValueLine l) (h : numbered n ls = first :: more) :
    (Passage.content ⟨first, more⟩).map (·.text)
      = (withoutComments ls).map fun l ↦ (unindent? l).getD l := by
  have htab : isBlank '\t' = true := rfl
  have hfirst : allBlank first.text = false := by
    have hmem : first.text ∈ (numbered n ls).map (·.text) := by
      rw [h]
      exact List.mem_cons_self
    rw [map_text_numbered, List.mem_map] at hmem
    obtain ⟨l, hl, htext⟩ := hmem
    obtain ⟨hhead, hblank⟩ := hls l hl
    obtain ⟨text, rfl⟩ := List.head?_eq_some_iff.mp hhead
    rw [allBlank, List.all_cons, htab, Bool.true_and] at hblank
    rw [← htext]
    exact hblank
  have hcomment : ∀ l ∈ ls, Passage.isComment ((unindent? l).getD l) = Passage.isComment l := by
    intro l hl
    obtain ⟨text, rfl⟩ := List.head?_eq_some_iff.mp (hls l hl).1
    rw [Passage.isComment, Passage.isComment, trimStart, trimStart,
      List.dropWhile_cons_of_pos htab]
    rfl
  have hfilter : ∀ ls : List NumberedLine,
      (ls.filter fun l ↦ !Passage.isComment l.text).map (·.text)
        = (ls.map (·.text)).filter fun text ↦ !Passage.isComment text := by
    intro ls
    rw [List.filter_map]
    rfl
  rw [Passage.content, hfirst, if_neg Bool.false_ne_true, Passage.lines, ← h, hfilter,
    map_text_numbered, List.filter_map, withoutComments]
  refine congrArg (List.map _) (List.filter_congr fun l hl ↦ ?_)
  rw [Function.comp, hcomment l hl]

theorem readValue_commented (n n' : Nat) {ls ls' : List Line} (hne : ls ≠ []) (hne' : ls' ≠ [])
    (hls : ∀ l ∈ ls, IsValueLine l) (hls' : ∀ l ∈ ls', IsValueLine l)
    (same : withoutComments ls = withoutComments ls') :
    Corresponds SameFault (fun t t' : ValueTree U ↦ t.bare = t'.bare) (readValue n ls)
      (readValue n' ls') := by
  obtain ⟨first, more, hnumbered⟩ : ∃ first more, numbered n ls = first :: more :=
    List.exists_cons_of_length_pos (length_numbered n ls ▸ List.length_pos_iff.mpr hne)
  obtain ⟨first', more', hnumbered'⟩ : ∃ first more, numbered n' ls' = first :: more :=
    List.exists_cons_of_length_pos (length_numbered n' ls' ▸ List.length_pos_iff.mpr hne')
  have htexts : List.Forall₂ Eq ((Passage.content ⟨first, more⟩).map (·.text))
      ((Passage.content ⟨first', more'⟩).map (·.text)) := by
    rw [map_text_content hls hnumbered, map_text_content hls' hnumbered', same,
      List.forall₂_eq_eq_eq]
  rw [List.forall₂_map_left_iff, List.forall₂_map_right_iff] at htexts
  -- The lines may have any numbers.
  have hcontent : List.Forall₂ (NumberedLine.Resembles fun _ _ ↦ True)
      (Passage.content ⟨first, more⟩) (Passage.content ⟨first', more'⟩) :=
    htexts.imp fun _ _ htext ↦ ⟨trivial, htext⟩
  have hread : Corresponds SameFault (fun t t' : ValueTree U ↦ t.bare = t'.bare)
      (ValueTree.read ⟨first, more⟩) (ValueTree.read ⟨first', more'⟩) :=
    (ValueTree.corresponds_read_of_content ⟨_, _, _, _, trivial, trivial, rfl, rfl⟩ hcontent).imp
      (fun _ _ he ↦ he.fault) fun _ _ _ _ ht ↦ ht.bare_eq
  rw [readValue, readValue, hnumbered, hnumbered']
  refine hread.bind fun t t' ht ↦ .ok ?_
  rw [ValueTree.bare_withBlock, ValueTree.bare_withBlock, ht]

def Entry.bare : Entry U → Entry U := Entry.map Header.forgetLine Node.bare

theorem ofItem_commented {item item' : Item} (h : SaysSame item item') (proper : item.IsProper)
    (proper' : item'.IsProper) :
    Corresponds SameFault (fun e e' : Entry U ↦ e.bare = e'.bare) (Entry.ofItem item)
      (Entry.ofItem item') := by
  cases h with
  | header same => exact .ok (congrArg Entry.header same)
  | text n n' ls => exact .ok rfl
  | code n n' language ls => exact .ok rfl
  | value n n' same =>
    have hread := readValue_commented (U := U) n n' proper.1 proper'.1
      (fun l hl ↦ isValueLine_iff.mpr (proper.2 l hl))
      (fun l hl ↦ isValueLine_iff.mpr (proper'.2 l hl)) same
    exact hread.bind fun t t' ht ↦ .ok (congrArg (fun t ↦ Entry.leaf (Node.value t).forgetLines) ht)

theorem bare_nest (header : Header) (entries : List (Entry U)) :
    Section.bare ⟨header, nest entries⟩ = ⟨header.forgetLine, nest (entries.map Entry.bare)⟩ := by
  have hnest : nest (entries.map Entry.bare) = (nest entries).map Node.bare := by
    refine nest_map (g := Header.forgetLine) (fun h children ↦ ?_) (fun _ ↦ rfl) (fun level n ↦ ?_)
      entries
    · rw [Node.bare, Node.mapValues, Node.forgetLines, Node.mapValuesAll_eq_map,
        Node.forgetLinesAll_eq_map, List.map_map]
      rfl
    · cases n <;> rfl
  rw [hnest, Section.bare, Section.mapValues, Section.forgetLines, List.map_map]
  rfl

theorem below_commented {rest rest' : List Line} (h : Commented rest rest') (header : Header) :
    Corresponds SameFault (fun doc doc' : Section U ↦ doc.bare = doc'.bare)
      (gather 2 1 none rest >>= fun items ↦
        items.mapM Entry.ofItem >>= fun entries ↦ .ok ⟨header, nest entries⟩)
      (gather 2 1 none rest' >>= fun items ↦
        items.mapM Entry.ofItem >>= fun entries ↦ .ok ⟨header, nest entries⟩) := by
  have hitems : Corresponds SameFault
      (List.Forall₂ fun item item' ↦ SaysSame item item' ∧ item.IsProper ∧ item'.IsProper)
      (gather 2 1 none rest) (gather 2 1 none rest') := by
    refine (gather_commented h 2 2 1).imp (fun _ _ he ↦ he) fun items items' hok hok' halike ↦ ?_
    have hproper := (gather_eq_ok_iff.mp hok).isProper
    have hproper' := (gather_eq_ok_iff.mp hok').isProper
    refine List.forall₂_iff_zip.mpr ⟨halike.same.length_eq, fun {item item'} hmem ↦ ?_⟩
    obtain ⟨hitem, hitem'⟩ := List.of_mem_zip hmem
    exact ⟨(List.forall₂_iff_zip.mp halike.same).2 hmem, hproper item hitem, hproper' item' hitem'⟩
  refine hitems.bind fun items items' hsame ↦ ?_
  have hentries := Corresponds.mapM hsame fun item item' h ↦
    ofItem_commented (U := U) h.1 h.2.1 h.2.2
  refine hentries.bind fun entries entries' hbare ↦ .ok ?_
  rw [bare_nest, bare_nest, map_eq_map_of_forall₂ hbare fun _ _ _ h ↦ h]

theorem not_isHeader_of_head? {line : Line} {c : Char} (h : line.head? = some c) (hc : c ≠ '#')
    (level : Nat) : ¬IsHeader level line :=
  fun hheader ↦ hc (Option.some.inj (h.symm.trans hheader.head?))

theorem ofLines_commented {ls ls' : List Line} (h : Commented ls ls') :
    Corresponds SameFault (fun doc doc' : Section U ↦ doc.bare = doc'.bare) (ofLines ls)
      (ofLines ls') := by
  -- Comments come behind the first line, or there is no root header with them and without.
  have hneither : ∀ {first first' : Line} {rest rest' : List Line}, ¬IsHeader 1 first →
      ¬IsHeader 1 first' → Corresponds SameFault (fun doc doc' : Section U ↦ doc.bare = doc'.bare)
        (ofLines (first :: rest)) (ofLines (first' :: rest')) := by
    intro first first' rest rest' hfirst hfirst'
    rw [ofLines_of_not_root hfirst, ofLines_of_not_root hfirst']
    exact .error rfl
  have hfence : ∀ language : Line, ¬IsHeader 1 (fence ++ language) :=
    fun language ↦ not_isHeader_of_head? (head?_of_fence (List.prefix_append _ _)) (by decide) 1
  have hvalue : ∀ {line : Line}, IsValueLine line → ¬IsHeader 1 line :=
    fun h ↦ not_isHeader_of_head? h.1 (by decide) 1
  cases h with
  | nil => exact .error rfl
  | @line first rest rest' _ more =>
    by_cases hroot : IsHeader 1 first
    · obtain ⟨name, hname⟩ := exists_header?_of_isHeader hroot
      rw [ofLines, ofLines, hname]
      exact below_commented more (headerAt 1 1 name first)
    · exact hneither hroot hroot
  | code language => exact hneither (hfence language) (hfence language)
  | unclosed language => exact hneither (hfence language) (hfence language)
  | before isComment value => exact hneither (hvalue value) (hvalue isComment.isValueLine)
  | after _ value => exact hneither (hvalue value) (hvalue value)

/-! ## Sources with comments -/

/-- A source, and the same with a comment as one more line, right above or right below a line of one
of its value blocks. -/
inductive InsertsComment : String → String → Prop
  | intro {source source' : String} {above below block : List Line} {comment : Line} {n k : Nat}
      (without : rawLines source.toList = above ++ below)
      (including : rawLines source'.toList = above ++ comment :: below)
      (isComment : IsCommentLine comment)
      (isBlock : ValueBlock (scan false 1 (lines source.toList)) n block)
      (within : n ≤ k ∧ k < n + block.length)
      (beside : above.length + 1 = k ∨ above.length = k) : InsertsComment source source'

namespace InsertsComment

variable {source source' : String}

theorem commented (h : InsertsComment source source') :
    Commented (lines source.toList) (lines source'.toList) := by
  cases h with
  | @intro above below _ comment _ k without including isComment isBlock within beside =>
    obtain ⟨m, hm, rfl, -, hvalue⟩ := isBlock.exists_value within.1 within.2
    have hlines : lines source.toList = above.map withoutReturn ++ below.map withoutReturn := by
      rw [lines, without, List.map_append]
    have hlines' : lines source'.toList
        = above.map withoutReturn ++ withoutReturn comment :: below.map withoutReturn := by
      rw [lines, including, List.map_append, List.map_cons]
    rw [hlines']
    refine .of_met isComment.withoutReturn hm hvalue hlines ?_
    rw [List.length_map]
    omega

theorem ne_empty (h : InsertsComment source source') : source ≠ "" ∧ source' ≠ "" := by
  obtain ⟨-, including, isComment, isBlock, within, -⟩ := h
  constructor
  · rintro rfl
    obtain ⟨m, hm, -, -, hvalue⟩ := isBlock.exists_value within.1 within.2
    cases List.mem_singleton.mp hm
    exact nomatch hvalue.1
  · rintro rfl
    have hcomment := including.symm ▸ List.mem_append_right _ List.mem_cons_self
    cases List.mem_singleton.mp hcomment
    exact nomatch isComment.isValueLine.1

theorem parse (h : InsertsComment source source') :
    Corresponds SameFault (fun doc doc' : Section U ↦ doc.bare = doc'.bare)
      (Document.parse source) (Document.parse source') := by
  rw [Document.parse, Document.parse, if_neg h.ne_empty.1, if_neg h.ne_empty.2]
  exact ofLines_commented h.commented

end InsertsComment

/-- **Comments say nothing.** Put comments into a source, beside lines of its value blocks, or take
some out that are, as often as you like: both sources have the same fault, or they are documents
that say the same. -/
theorem comments_say_nothing {source source' : String}
    (h : Relation.EqvGen InsertsComment source source') :
    Corresponds SameFault (fun doc doc' : Section U ↦ doc.bare = doc'.bare) (parse source)
      (parse source') := by
  have hequivalence : Equivalence
      (Corresponds SameFault fun doc doc' : Section U ↦ doc.bare = doc'.bare) :=
    Corresponds.equivalence ⟨fun _ ↦ rfl, Eq.symm, Eq.trans⟩ ⟨fun _ ↦ rfl, Eq.symm, Eq.trans⟩
  induction h with
  | rel _ _ h => exact h.parse
  | refl => exact hequivalence.refl _
  | symm _ _ _ ih => exact hequivalence.symm ih
  | trans _ _ _ _ _ ih ih' => exact hequivalence.trans ih ih'

/-- A value with a value on the line below. -/
def keyed : String := "# a\n\tkey:\n\t\tinner: 1"

def keyedWithin : String := "# a\n\tkey:\n\t// further out\n\t\tinner: 1"

/-- The same with a comment above both, further in. -/
def keyedAbove : String := "# a\n\t\t\t// further in\n\tkey:\n\t\tinner: 1"

theorem comments_say_nothing_keyed :
    Relation.EqvGen InsertsComment keyedWithin keyedAbove ∧ ∃ doc doc' : Section Empty,
      parse keyedWithin = .ok doc ∧ parse keyedAbove = .ok doc' ∧ doc.bare = doc'.bare := by
  have hblock : ValueBlock (scan false 1 (lines keyed.toList)) 2
      ["\tkey:".toList, "\t\tinner: 1".toList] := by
    have hscan : scan false 1 (lines keyed.toList) =
        [⟨1, "# a".toList, ["\tkey:".toList, "\t\tinner: 1".toList]⟩,
          ⟨2, "\tkey:".toList, ["\t\tinner: 1".toList]⟩, ⟨3, "\t\tinner: 1".toList, []⟩] := by rfl
    rw [hscan]
    refine ⟨nofun, fun i l hl ↦ ?_, fun m hm hnumber hvalue ↦ ?_, fun m hm hnumber ↦ ?_⟩
    · rcases i with _ | _ | i
      · cases hl
        exact ⟨_, .tail _ (.head _), rfl, rfl, rfl, rfl⟩
      · cases hl
        exact ⟨_, .tail _ (.tail _ (.head _)), rfl, rfl, rfl, rfl⟩
      · exact nomatch hl
    · simp only [List.mem_cons, List.not_mem_nil, or_false] at hm
      rcases hm with rfl | rfl | rfl
      · exact nomatch hvalue.1
      · exact nomatch hnumber
      · exact nomatch hnumber
    · simp only [List.mem_cons, List.not_mem_nil, or_false] at hm
      rcases hm with rfl | rfl | rfl <;> exact nomatch hnumber
  have hbelowKey : rawLines keyed.toList
      = ["# a".toList, "\tkey:".toList] ++ ["\t\tinner: 1".toList] := by rfl
  have haboveKey : rawLines keyed.toList
      = ["# a".toList] ++ ["\tkey:".toList, "\t\tinner: 1".toList] := by rfl
  have htabs : ∀ c ∈ ['\t', '\t'], isBlank c = true :=
    List.forall_mem_cons.mpr ⟨rfl, List.forall_mem_singleton.mpr rfl⟩
  have hwithin : InsertsComment keyed keyedWithin :=
    .intro (k := 2) hbelowKey rfl ⟨[], " further out".toList, rfl, nofun⟩ hblock (by decide)
      (.inr rfl)
  have habove : InsertsComment keyed keyedAbove :=
    .intro (k := 2) haboveKey rfl ⟨['\t', '\t'], " further in".toList, rfl, htabs⟩ hblock
      (by decide) (.inl rfl)
  have hboth : Relation.EqvGen InsertsComment keyedWithin keyedAbove :=
    .trans _ keyed _ (.symm _ _ (.rel _ _ hwithin)) (.rel _ _ habove)
  have hread : (parse (U := Empty) keyedWithin).toOption.isSome = true := by decide +kernel
  obtain ⟨doc, hdoc⟩ := Option.isSome_iff_exists.mp hread
  have hdoc := toOption_eq_some_iff.mp hdoc
  have hsame := comments_say_nothing (U := Empty) hboth
  rw [hdoc] at hsame
  generalize parse (U := Empty) keyedAbove = read at hsame ⊢
  cases hsame with
  | ok hbare => exact ⟨hboth, doc, _, hdoc, rfl, hbare⟩

end DataOutline.Document
