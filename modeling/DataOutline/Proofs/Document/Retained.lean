import DataOutline.Proofs.Document.Pointing
import DataOutline.Proofs.Grammar.Recovery

/-!
# What is kept of a value is enough

A value keeps the lines that count of its passage, without the tabs of the levels around it and
without comments. No line of them is blank or a comment or holds a line feed. So if they are
indented by one tab below a root header, they are one value block, all of its lines count again, and
the same value is read of them. Cutting the text into lines may cost a line the carriage return at
its end, which says nothing.

The value of a whole block is another matter: it keeps the lines of the source as they are, with the
tab that makes them a value block.
-/

namespace DataOutline

open Text Document

/-! ## Passages of parts -/

/-- No line but the first is blank, and none holds a line feed. -/
structure Passage.IsWritable (p : Passage) : Prop where
  solid : p.IsSolid
  oneLine : ∀ l ∈ p.lines, '\n' ∉ l.text

namespace ValueTree

variable {U : Type}

theorem PartsOf.isWritable {p : Passage} {passages : List Passage} (h : PartsOf p passages)
    (writable : p.IsWritable) : ∀ q ∈ passages, q.IsWritable := by
  intro q hq
  refine ⟨h.solid writable.solid q hq, fun l hl hnewline ↦ ?_⟩
  obtain ⟨l', hl', hend⟩ := h.lines.exists_of_mem (List.mem_flatMap.mpr ⟨q, hq, hl⟩)
  exact writable.oneLine l' (p.content_sublist.subset hl') (hend.text.subset hnewline)

end ValueTree

namespace Passage

theorem isComment_of_mem_content {p : Passage} {l : NumberedLine} (h : l ∈ p.content) :
    isComment l.text = false := by
  rw [content, List.mem_filter, Bool.not_eq_true'] at h
  exact h.2

theorem content_eq_lines {p q : Passage} {N : Nat → Nat → Prop} (solid : q.IsSolid)
    (h : List.Forall₂ (NumberedLine.Returned N) p.lines q.content) : p.content = p.lines := by
  have heach : ∀ l ∈ p.lines, allBlank l.text = false ∧ isComment l.text = false := by
    intro l hl
    obtain ⟨l', hl', hreturned⟩ := exists_of_forall₂ h hl
    rw [hreturned.text.allBlank_eq, hreturned.text.isComment_eq]
    exact ⟨solid.content l' hl', isComment_of_mem_content hl'⟩
  rw [content, (heach p.first List.mem_cons_self).1, if_neg Bool.false_ne_true]
  refine List.filter_eq_self.mpr fun l hl ↦ ?_
  rw [(heach l hl).2, Bool.not_false]

end Passage

namespace Document

variable {U : Type}

/-! ## A document of kept lines -/

/-- The lines of a passage that count, indented as a value block, are read as its value, with or
without the carriage returns at their ends. -/
theorem exists_readValue_of_read {p : Passage} (solid : p.IsSolid) {t : ValueTree U}
    (h : ValueTree.read p = .ok t) {kept : List Line}
    (hkept : List.Forall₂ (fun l l' ↦ WithReturns l l'.text) kept p.content) (line : Nat) :
    ∃ tree : ValueTree U, readValue line (kept.map indent) = .ok tree ∧ tree.bare = t.bare := by
  have hnumbered : List.Forall₂ (NumberedLine.Returned fun _ _ ↦ True)
      (numbered line (kept.map indent)) p.content := by
    rw [← map_text_numbered_indent line kept, List.forall₂_map_left_iff] at hkept
    exact hkept.imp fun _ _ htext ↦ ⟨trivial, htext⟩
  obtain ⟨head, rest, hcontent⟩ := ValueTree.exists_content_of_read h
  rw [readValue]
  cases hlines : numbered line (kept.map indent) with
  | nil =>
    rw [hlines, hcontent] at hnumbered
    cases hnumbered
  | cons first more =>
    rw [hlines] at hnumbered
    have hall : Passage.content ⟨first, more⟩ = first :: more :=
      Passage.content_eq_lines solid hnumbered
    obtain ⟨tree, hread, hbare⟩ :=
      ValueTree.exists_read_of_returned (p := ⟨first, more⟩) (hall ▸ hnumbered) h
    exact ⟨_, bind_eq_ok_iff.mpr ⟨tree, hread, rfl⟩, by rw [ValueTree.bare_withBlock, hbare]⟩

/-- In a document of their own, below a root header, they are read as the one value that there
is. -/
theorem exists_parse_of_read {p : Passage} (writable : p.IsWritable) {t : ValueTree U}
    (h : ValueTree.read p = .ok t) {kept : List Line}
    (hkept : List.Forall₂ (fun l l' ↦ WithReturns l l'.text) kept p.content) :
    ∃ tree : ValueTree U,
      parse (String.ofList (unlines (['#'] :: kept.map indent)))
        = .ok ⟨headerAt 1 1 [] ['#'], [.value tree]⟩ ∧ tree.bare = t.bare := by
  have hcut : List.Forall₂ (fun l l' ↦ WithReturns l l'.text) (kept.map withoutReturn) p.content :=
    List.forall₂_map_left_iff.mpr (hkept.imp fun l _ hl ↦ (WithReturns.withoutReturn l).trans hl)
  obtain ⟨tree, hread, hbare⟩ := exists_readValue_of_read writable.solid h hcut 2
  refine ⟨tree, parse_indented ?_ ?_ ?_ hread, hbare⟩
  · rintro rfl
    obtain ⟨head, rest, hcontent⟩ := ValueTree.exists_content_of_read h
    rw [hcontent] at hkept
    cases hkept
  · intro l hl
    obtain ⟨l', hl', hreturns⟩ := exists_of_forall₂ hkept hl
    rw [hreturns.allBlank_eq]
    exact writable.solid.content l' hl'
  · intro l hl hnewline
    obtain ⟨l', hl', hreturns⟩ := exists_of_forall₂ hkept hl
    exact writable.oneLine l' (p.content_sublist.subset hl') (hreturns.subset hnewline)

/-! ## Values of a document -/

theorem isWritable_numbered {line : Nat} {ls : List Line} (values : ∀ l ∈ ls, IsValueLine l)
    (oneLine : ∀ l ∈ ls, '\n' ∉ l) {first : NumberedLine} {more : List NumberedLine}
    (h : numbered line ls = first :: more) : Passage.IsWritable ⟨first, more⟩ := by
  have heach : ∀ l ∈ first :: more, allBlank l.text = false ∧ '\n' ∉ l.text := by
    intro l hl
    have hmem : l.text ∈ (numbered line ls).map (·.text) :=
      List.mem_map_of_mem (f := NumberedLine.text) (h ▸ hl)
    rw [map_text_numbered] at hmem
    obtain ⟨raw, hraw, htext⟩ := List.mem_map.mp hmem
    obtain ⟨htab, hblank⟩ := values raw hraw
    obtain ⟨text, rfl⟩ := List.head?_eq_some_iff.mp htab
    rw [← htext]
    exact ⟨hblank, fun hnewline ↦ oneLine _ hraw (List.mem_cons_of_mem _ hnewline)⟩
  exact ⟨fun l hl ↦ (heach l (List.mem_cons_of_mem _ hl)).1, fun l hl ↦ (heach l hl).2⟩

theorem exists_writable_of_mem_parts {source : String} {doc : Section U}
    (h : parse source = .ok doc) {t child part : ValueTree U} (ht : t ∈ doc.values)
    (hchild : child ∈ t.children) (hpart : part ∈ child.parts) :
    ∃ p : Passage, p.IsWritable ∧ ValueTree.read p = .ok part := by
  obtain ⟨items, tiles, reads⟩ := exists_tiles_of_parse h
  obtain ⟨n, block, hblock, hvalue⟩ := (tiles.mem_values_iff reads).mp ht
  obtain ⟨first, more, tree, hnumbered, hread, rfl⟩ := exists_read_of_readValue hvalue
  rw [ValueTree.children_withBlock] at hchild
  have hlines : ∀ l ∈ block, IsValueLine l ∧ '\n' ∉ l := by
    intro l hl
    obtain ⟨i, hi⟩ := List.mem_iff_getElem?.mp hl
    obtain ⟨m, hm, -, rfl, hvalue⟩ := hblock.met i l hi
    exact ⟨hvalue, newline_notMem_of_mem_lines (line_mem_of_mem_scan hm)⟩
  have hwritable : Passage.IsWritable ⟨first, more⟩ :=
    isWritable_numbered (fun l hl ↦ (hlines l hl).1) (fun l hl ↦ (hlines l hl).2) hnumbered
  exact ValueTree.exists_passage_of_mem_parts (fun _ _ hp hparts ↦ hparts.isWritable hp) hwritable
    hread (ValueTree.mem_parts_of_child hchild hpart)

/-- **Retained content is self-sufficient.** Take what is kept of any part of a value, cut it into
lines at its line feeds, with or without the carriage returns in front of them, and indent each line
by one tab below a root header: this is a document of one value, which says the same as the part. -/
theorem content_suffices {source : String} {doc : Section U} (h : parse source = .ok doc)
    {t child part : ValueTree U} (ht : t ∈ doc.values) (hchild : child ∈ t.children)
    (hpart : part ∈ child.parts) :
    ∀ cut ∈ [rawLines, lines], ∃ tree : ValueTree U,
      parse (String.ofList (unlines (['#'] :: (cut part.block.content.toList).map indent)))
        = .ok ⟨headerAt 1 1 [] ['#'], [.value tree]⟩ ∧ tree.bare = part.bare := by
  obtain ⟨p, hwritable, hread⟩ := exists_writable_of_mem_parts h ht hchild hpart
  have hraw : rawLines part.block.content.toList = p.content.map (·.text) := by
    obtain ⟨head, rest, hcontent⟩ := ValueTree.exists_content_of_read hread
    rw [ValueTree.block_of_read hread, ValueTree.blockOf, String.toList_ofList, rawLines_unlines]
    · rw [hcontent]
      exact List.cons_ne_nil _ _
    · intro l hl
      obtain ⟨l, hmem, rfl⟩ := List.mem_map.mp hl
      exact hwritable.oneLine l (p.content_sublist.subset hmem)
  have hsame : List.Forall₂ (fun l l' ↦ WithReturns l l'.text)
      (rawLines part.block.content.toList) p.content := by
    rw [hraw, List.forall₂_map_left_iff]
    exact List.forall₂_same.mpr fun l _ ↦ .refl l.text
  refine List.forall_mem_cons.mpr ⟨exists_parse_of_read hwritable hread hsame,
    List.forall_mem_singleton.mpr (exists_parse_of_read hwritable hread ?_)⟩
  rw [lines, List.forall₂_map_left_iff]
  exact hsame.imp fun l _ hl ↦ (WithReturns.withoutReturn l).trans hl

/-- An object in an array, with a comment in it and a carriage return too many. -/
def shelf : String :=
  "#\n\tlist:\n\t\t*\tk: 1\r\r\n\t\t\t// none\n\t\t\tl: base with\n\t\t\t\t\ta: 2\n\t\t*\tx"

theorem content_suffices_shelf :
    ∃ (doc : Section Empty) (t child part tree : ValueTree Empty), parse shelf = .ok doc ∧
      t ∈ doc.values ∧ child ∈ t.children ∧ part ∈ child.parts ∧
      part.block.content = "k: 1\r\nl: base with\n\t\ta: 2" ∧
      parse "#\n\tk: 1\r\n\tl: base with\n\t\t\ta: 2"
        = .ok ⟨headerAt 1 1 [] ['#'], [.value tree]⟩ ∧ tree.bare = part.bare := by
  have hread : ((parse (U := Empty) shelf).toOption.bind fun doc ↦ doc.values.head?.bind fun t ↦
      t.children.head?.bind fun child ↦ child.children.head?.map fun part ↦ part.block.content)
      = some "k: 1\r\nl: base with\n\t\ta: 2" := by decide +kernel
  obtain ⟨doc, hdoc, hvalue⟩ := Option.bind_eq_some_iff.mp hread
  obtain ⟨t, ht, hchild⟩ := Option.bind_eq_some_iff.mp hvalue
  obtain ⟨child, hchild, hpart⟩ := Option.bind_eq_some_iff.mp hchild
  obtain ⟨part, hpart, hcontent⟩ := Option.map_eq_some_iff.mp hpart
  have hparse := toOption_eq_some_iff.mp hdoc
  have ht := List.mem_of_head? ht
  have hchild := List.mem_of_head? hchild
  have hpart : part ∈ child.parts :=
    ValueTree.mem_parts_of_child (List.mem_of_head? hpart) part.self_mem_parts
  obtain ⟨tree, htree, hbare⟩ :=
    content_suffices hparse ht hchild hpart rawLines List.mem_cons_self
  rw [hcontent] at htree
  have hsource : String.ofList (unlines (['#'] ::
      (rawLines "k: 1\r\nl: base with\n\t\ta: 2".toList).map indent))
      = "#\n\tk: 1\r\n\tl: base with\n\t\t\ta: 2" := by decide +kernel
  rw [hsource] at htree
  exact ⟨doc, t, child, part, tree, hparse, ht, hchild, hpart, hcontent, htree, hbare⟩

end Document

end DataOutline
