import DataOutline.Proofs.Document.Pointing
import DataOutline.Proofs.Grammar.Parting

/-!
# The positions of values nest

The lines of a value stand among those of the value that it is part of, and before the lines of the
next part. Lines that do not count may lie between them: comments, and the lines that a key or a
marker has for itself. What carries this through the levels is that the lines of every passage are
numbered upwards, since no cut changes their order or their numbers.
-/

namespace DataOutline

open Text Document

/-! ## Passages -/

namespace Passage

/-- The lines are numbered upwards. -/
structure Ascends (p : Passage) : Prop where
  positive : ∀ l ∈ p.lines, 1 ≤ l.number
  rising : p.lines.Pairwise fun l l' ↦ l.number < l'.number

theorem exists_last (p : Passage) : ∃ l ∈ p.lines, l.number = p.lastNumber := by
  rw [lastNumber]
  cases hlast : p.more.getLast? with
  | none => exact ⟨p.first, List.mem_cons_self, rfl⟩
  | some l => exact ⟨l, List.mem_cons_of_mem _ (List.mem_of_getLast? hlast), rfl⟩

theorem exists_line (p : Passage) : ∃ l ∈ p.lines, l.number = p.span.line := by
  rw [span]
  dsimp only
  split
  · cases hhead : p.more.head? with
    | none => exact ⟨p.first, List.mem_cons_self, rfl⟩
    | some l => exact ⟨l, List.mem_cons_of_mem _ (List.mem_of_head? hhead), rfl⟩
  · exact ⟨p.first, List.mem_cons_self, rfl⟩

namespace Ascends

variable {p : Passage}

theorem number_le_lastNumber (h : p.Ascends) {l : NumberedLine} (hl : l ∈ p.lines) :
    l.number ≤ p.lastNumber := by
  have hrising := h.rising
  obtain ⟨first, more⟩ := p
  rw [lastNumber]
  -- The last line is taken off at the end of the list.
  induction more using List.reverseRecOn with
  | nil =>
    rw [lines, List.mem_singleton] at hl
    rw [hl]
    exact Nat.le_refl _
  | append_singleton more last _ =>
    rw [lines, ← List.cons_append] at hl hrising
    rw [List.getLast?_concat, Option.getD_some]
    rcases List.mem_append.mp hl with hl | hl
    · exact Nat.le_of_lt ((List.pairwise_append.mp hrising).2.2 l hl last List.mem_cons_self)
    · rw [List.mem_singleton.mp hl]

theorem line_le_number (h : p.Ascends) {l : NumberedLine} (hl : l ∈ p.content) :
    p.span.line ≤ l.number := by
  have hrising := h.rising
  obtain ⟨first, more⟩ := p
  obtain ⟨hfirst, hmore⟩ := List.pairwise_cons.mp hrising
  rw [content] at hl
  rw [span]
  dsimp only at hl ⊢
  split at hl
  · next hblank =>
    rw [if_pos hblank]
    have hmem := List.mem_of_mem_filter hl
    obtain ⟨second, more, rfl⟩ := List.exists_cons_of_ne_nil (List.ne_nil_of_mem hmem)
    rcases List.mem_cons.mp hmem with rfl | hmem
    · exact Nat.le_refl _
    · exact Nat.le_of_lt ((List.pairwise_cons.mp hmore).1 l hmem)
  · next hblank =>
    rw [if_neg hblank]
    rcases List.mem_cons.mp (List.mem_of_mem_filter hl) with rfl | hmem
    · exact Nat.le_refl _
    · exact Nat.le_of_lt (hfirst l hmem)

theorem bound_eq (h : p.Ascends) : p.span.bound = p.lastNumber + 1 := by
  obtain ⟨l, hl, hline⟩ := p.exists_line
  have hle := h.number_le_lastNumber hl
  rw [hline] at hle
  have hsize : p.span.size = max 1 (p.lastNumber + 1 - p.span.line) := rfl
  rw [Span.bound, hsize]
  omega

theorem line_pos (h : p.Ascends) : 1 ≤ p.span.line := by
  obtain ⟨l, hl, hline⟩ := p.exists_line
  rw [← hline]
  exact h.positive l hl

end Ascends

end Passage

namespace ValueTree.PartsOf

variable {p : Passage} {passages : List Passage}

theorem rising (h : PartsOf p passages) (ascends : p.Ascends) :
    (passages.flatMap Passage.lines).Pairwise fun l l' ↦ l.number < l'.number := by
  rw [← List.pairwise_map]
  exact (List.pairwise_map.mpr (ascends.rising.sublist p.content_sublist)).sublist h.lines.numbers

theorem ascends (h : PartsOf p passages) (ascends : p.Ascends) : ∀ q ∈ passages, q.Ascends := by
  intro q hq
  refine ⟨fun l hl ↦ ?_, (List.pairwise_flatMap.mp (h.rising ascends)).1 q hq⟩
  obtain ⟨l', hl', hend⟩ := h.lines.exists_of_mem (List.mem_flatMap.mpr ⟨q, hq, hl⟩)
  rw [hend.number]
  exact ascends.positive l' (p.content_sublist.subset hl')

theorem inside (h : PartsOf p passages) (ascends : p.Ascends) :
    ∀ q ∈ passages, q.span.Inside p.span := by
  intro q hq
  have hbound := ascends.bound_eq
  have hbound' := (h.ascends ascends q hq).bound_eq
  have hends : ∀ l ∈ q.lines, p.span.line ≤ l.number ∧ l.number ≤ p.lastNumber := by
    intro l hl
    obtain ⟨l', hl', hend⟩ := h.lines.exists_of_mem (List.mem_flatMap.mpr ⟨q, hq, hl⟩)
    rw [hend.number]
    exact ⟨ascends.line_le_number hl',
      ascends.number_le_lastNumber (p.content_sublist.subset hl')⟩
  obtain ⟨first, hfirst, hline⟩ := q.exists_line
  obtain ⟨last, hlast, hnumber⟩ := q.exists_last
  rw [Span.bound] at hbound hbound'
  refine ⟨hline ▸ (hends first hfirst).1, Nat.le_max_left 1 _, ?_⟩
  rw [hbound, hbound', ← hnumber]
  exact Nat.succ_le_succ (hends last hlast).2

theorem apart (h : PartsOf p passages) (ascends : p.Ascends) :
    passages.Pairwise fun q q' ↦ q.span.bound ≤ q'.span.line := by
  refine (List.pairwise_flatMap.mp (h.rising ascends)).2.imp_of_mem fun {q q'} hq _ hlt ↦ ?_
  obtain ⟨last, hlast, hnumber⟩ := q.exists_last
  obtain ⟨first, hfirst, hline⟩ := q'.exists_line
  rw [(h.ascends ascends q hq).bound_eq, ← hnumber, ← hline]
  exact hlt last hlast first hfirst

end ValueTree.PartsOf

/-! ## Values -/

variable {U : Type}

namespace ValueTree

/-- A value stands on lines of the source, and its children stand within it, one after the other. -/
structure LaidOut (t : ValueTree U) : Prop where
  line_pos : 1 ≤ t.block.span.line
  size_pos : 1 ≤ t.block.span.size
  within : ∀ child ∈ t.children, child.block.span.Inside t.block.span
  ordered : t.children.Pairwise fun a b ↦ a.block.span.bound ≤ b.block.span.line

theorem laidOut_of_read {p : Passage} {t : ValueTree U} (h : read p = .ok t) (ascends : p.Ascends) :
    t.LaidOut := by
  obtain ⟨passages, hparts, hreads⟩ := exists_parts_of_read h
  have hspan : ∀ {q : Passage} {child : ValueTree U}, read q = .ok child →
      child.block.span = q.span := by
    intro q child hread
    rw [block_of_read hread, blockOf]
  constructor
  · rw [hspan h]
    exact ascends.line_pos
  · rw [hspan h]
    exact Nat.le_max_left 1 _
  · intro child hchild
    obtain ⟨q, hq, hread⟩ := exists_of_forall₂ hreads.flip hchild
    rw [hspan hread, hspan h]
    exact hparts.inside ascends q hq
  · refine pairwise_of_forall₂ hreads (hparts.apart ascends) fun hread hread' hapart ↦ ?_
    rw [hspan hread, hspan hread']
    exact hapart

end ValueTree

/-- What is said of a value and its children does not depend on the text that is kept of it. -/
theorem ValueTree.LaidOut.withBlock {t : ValueTree U} (h : t.LaidOut) {b : Block}
    (hspan : b.span = t.block.span) : (t.withBlock b).LaidOut := by
  constructor
  · rw [block_withBlock, hspan]
    exact h.line_pos
  · rw [block_withBlock, hspan]
    exact h.size_pos
  · rw [block_withBlock, hspan, children_withBlock]
    exact h.within
  · rw [children_withBlock]
    exact h.ordered

namespace Document

theorem map_number_numbered (line : Nat) (ls : List Line) :
    (numbered line ls).map (·.number) = List.range' line ls.length := by
  refine List.ext_getElem? fun i ↦ ?_
  by_cases hi : i < ls.length
  · rw [List.getElem?_map, getElem?_numbered, Option.map_map, List.getElem?_range' hi,
      List.getElem?_eq_getElem hi, Nat.one_mul]
    rfl
  · have hle := Nat.le_of_not_lt hi
    rw [List.getElem?_eq_none (by rwa [List.length_map, length_numbered]),
      List.getElem?_eq_none (by rwa [List.length_range'])]

theorem ascends_numbered {line : Nat} (pos : 1 ≤ line) {ls : List Line} {first : NumberedLine}
    {more : List NumberedLine} (h : numbered line ls = first :: more) :
    Passage.Ascends ⟨first, more⟩ := by
  have hnumbers := map_number_numbered line ls
  rw [h] at hnumbers
  constructor
  · intro l hl
    have hmem : l.number ∈ List.range' line ls.length :=
      hnumbers ▸ List.mem_map_of_mem (f := NumberedLine.number) hl
    exact Nat.le_trans pos (List.mem_range'_1.mp hmem).1
  · rw [← List.pairwise_map]
    exact hnumbers ▸ List.pairwise_lt_range'

/-- **Positions nest in a value block.** -/
theorem laidOut_of_readValue {line : Nat} (pos : 1 ≤ line) {ls : List Line} {t : ValueTree U}
    (h : readValue line ls = .ok t) : ∀ part ∈ t.parts, part.LaidOut := by
  obtain ⟨first, more, tree, hnumbered, hread, rfl⟩ := exists_read_of_readValue h
  have htree : ∀ part ∈ tree.parts, part.LaidOut := by
    intro part hpart
    obtain ⟨q, hascends, hpart⟩ := ValueTree.exists_passage_of_mem_parts
      (fun _ _ hp hparts ↦ hparts.ascends hp) (ascends_numbered pos hnumbered) hread hpart
    exact ValueTree.laidOut_of_read hpart hascends
  intro part hpart
  rw [ValueTree.parts_eq, ValueTree.children_withBlock, List.mem_cons, List.mem_flatMap] at hpart
  rcases hpart with rfl | ⟨child, hchild, hpart⟩
  · exact (htree tree tree.self_mem_parts).withBlock rfl
  · exact htree part (ValueTree.mem_parts_of_child hchild hpart)

/-- **Value positions nest.** A value stands on exactly the lines of its value block. Wherever a
value has parts, each of them stands within the lines of the value, at least one of them, and ends
before the next part begins. -/
theorem positions_nest {source : String} {doc : Section U} (h : parse source = .ok doc) :
    ∀ t ∈ doc.values,
      (∃ n block, ValueBlock (scan false 1 (lines source.toList)) n block ∧
        readValue n block = .ok t ∧ t.block.span = ⟨n, block.length⟩) ∧
      ∀ part ∈ t.parts, part.LaidOut := by
  intro t ht
  obtain ⟨items, tiles, reads⟩ := exists_tiles_of_parse h
  obtain ⟨n, block, hblock, hread⟩ := (tiles.mem_values_iff reads).mp ht
  exact ⟨⟨n, block, hblock, hread, hblock.span_eq hread⟩,
    laidOut_of_readValue hblock.inside.1 hread⟩

/-- A mixin with comments in it, and an array below the name that it is added at. -/
def annotated : String :=
  "#\n\t// one\n\tbase with a.b:\n\t\t\t// two\n\t\t\t*\t1\n" ++
    "\t\t\t*\tk: 2\n\t\t\t\tl:\n\t\t\t\t\t3\n\t\tc: 4"

theorem positions_nest_annotated :
    ∃ (doc : Section Empty) (t : ValueTree Empty), parse annotated = .ok doc ∧ t ∈ doc.values ∧
      t.block.span = ⟨2, 8⟩ ∧
      (t.children.map fun a ↦ (a.block.span, a.children.map fun b ↦ b.block.span)) =
        [(⟨5, 4⟩, [⟨5, 1⟩, ⟨6, 3⟩]), (⟨9, 1⟩, [])] ∧
      ∀ part ∈ t.parts, part.LaidOut := by
  have hread : ((parse (U := Empty) annotated).toOption.bind fun doc ↦ doc.values.head?.map fun t ↦
      (t.block.span, t.children.map fun a ↦ (a.block.span, a.children.map fun b ↦ b.block.span)))
      = some (⟨2, 8⟩, [(⟨5, 4⟩, [⟨5, 1⟩, ⟨6, 3⟩]), (⟨9, 1⟩, [])]) := by decide +kernel
  obtain ⟨doc, hdoc, hvalue⟩ := Option.bind_eq_some_iff.mp hread
  obtain ⟨t, ht, hspans⟩ := Option.map_eq_some_iff.mp hvalue
  have hparse := toOption_eq_some_iff.mp hdoc
  have hmem := List.mem_of_head? ht
  obtain ⟨hspan, hchildren⟩ := Prod.mk.inj hspans
  exact ⟨doc, t, hparse, hmem, hspan, hchildren, (positions_nest hparse t hmem).2⟩

end Document

end DataOutline
