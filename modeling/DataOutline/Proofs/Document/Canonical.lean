import Mathlib.Data.List.Chain
import Mathlib.Data.List.Flatten
import DataOutline.Proofs.Document.Partition

/-!
# Canonical sources

A source can be cut into items in one way only. A blank line is no part of an item; the kind of any
other line says which item begins there; and the item is over at the first line of another kind, or
at the first line that closes the code. So the items that a document was read from are those of its
source, and the lines of the printed document are known from the source: they are the canonical
layout of these items.

A source that has this layout already is printed as it is, and no other source is. What the printer
drops is seen by counting characters: blank lines that are not empty, carriage returns, and empty
lines that are one too many.
-/

namespace DataOutline

open Text

/-- Two lists, each as long as its elements have a property, are the same if they make up the same
with what is behind them. -/
theorem append_eq_append_of_stop {α : Type} {p : α → Prop} {xs ys rest rest' : List α}
    (h : xs ++ rest = ys ++ rest') (hxs : ∀ x ∈ xs, p x) (hys : ∀ y ∈ ys, p y)
    (stop : ∀ x ∈ rest.head?, ¬p x) (stop' : ∀ y ∈ rest'.head?, ¬p y) : xs = ys ∧ rest = rest' := by
  induction xs generalizing ys with
  | nil =>
    rcases ys with _ | ⟨y, ys⟩
    · exact ⟨rfl, h⟩
    · rw [List.nil_append] at h
      exact absurd (hys y List.mem_cons_self) (stop y (h ▸ rfl))
  | cons x xs ih =>
    obtain ⟨hx, hxs⟩ := List.forall_mem_cons.mp hxs
    rcases ys with _ | ⟨y, ys⟩
    · rw [List.nil_append] at h
      exact absurd hx (stop' x (h ▸ rfl))
    · obtain ⟨rfl, hrest⟩ := List.cons.inj h
      obtain ⟨rfl, rfl⟩ := ih hrest hxs fun y hy ↦ hys y (List.mem_cons_of_mem _ hy)
      exact ⟨rfl, rfl⟩

namespace Item

theorem kind_ne_blank (item : Item) : item.kind ≠ .blank := by
  cases item <;> exact nofun

theorem IsProper.exists_first {item : Item} (h : item.IsProper) :
    ∃ first more, item.lines = first :: more ∧ Document.lineKind first = item.kind := by
  have hrun : ∀ {ls : List Line} {kind : Document.LineKind}, ls ≠ [] →
      (∀ l ∈ ls, Document.lineKind l = kind) →
        ∃ first more, ls = first :: more ∧ Document.lineKind first = kind := by
    intro ls kind hne hls
    obtain ⟨first, more, rfl⟩ := List.exists_cons_of_ne_nil hne
    exact ⟨first, more, rfl, hls first List.mem_cons_self⟩
  cases item with
  | header h' => exact ⟨_, _, rfl, h⟩
  | text n ls | value n ls => exact hrun h.1 h.2
  | code n language ls => exact ⟨_, _, rfl, Document.lineKind_fence_append language⟩

/-- Whether the line behind an item is one that the item would not have taken in. -/
def StopsAt (item : Item) (rest : List Line) : Prop :=
  item.kind = .text ∨ item.kind = .value → ∀ l ∈ rest.head?, Document.lineKind l ≠ item.kind

/-- **The item at a line is known from the lines from there on.** -/
theorem eq_of_append_eq {a b : Item} {rest rest' : List Line} (proper : a.IsProper)
    (proper' : b.IsProper) (here : a.line = b.line) (h : a.lines ++ rest = b.lines ++ rest')
    (stop : a.StopsAt rest) (stop' : b.StopsAt rest') : a = b ∧ rest = rest' := by
  have hkind : a.kind = b.kind := by
    obtain ⟨first, more, hlines, hfirst⟩ := proper.exists_first
    obtain ⟨first', more', hlines', hfirst'⟩ := proper'.exists_first
    rw [hlines, hlines'] at h
    rw [← hfirst, ← hfirst', (List.cons.inj h).1]
  cases a with
  | header ha =>
    cases b with
    | header hb =>
      obtain ⟨hcontent, hrest⟩ := List.cons.inj h
      obtain ⟨hlevel, hname⟩ := Document.LineKind.header.inj hkind
      obtain ⟨name, level, line, content⟩ := ha
      obtain ⟨name', level', line', content'⟩ := hb
      cases hlevel
      cases here
      cases String.toList_inj.mp hname
      cases String.toList_inj.mp hcontent
      exact ⟨rfl, hrest⟩
    | text | value | code => exact Document.LineKind.noConfusion hkind
  | text n ls =>
    cases b with
    | text n' ls' =>
      obtain ⟨rfl, rfl⟩ := append_eq_append_of_stop h proper.2 proper'.2 (stop (Or.inl rfl))
        (stop' (Or.inl rfl))
      cases here
      exact ⟨rfl, rfl⟩
    | header | value | code => exact Document.LineKind.noConfusion hkind
  | value n ls =>
    cases b with
    | value n' ls' =>
      obtain ⟨rfl, rfl⟩ := append_eq_append_of_stop h proper.2 proper'.2 (stop (Or.inr rfl))
        (stop' (Or.inr rfl))
      cases here
      exact ⟨rfl, rfl⟩
    | header | text | code => exact Document.LineKind.noConfusion hkind
  | code n language ls =>
    cases b with
    | code n' language' ls' =>
      -- The code is over at the first line that closes it.
      rw [lines, lines, List.cons_append, List.cons_append, List.append_assoc,
        List.append_assoc] at h
      have hfence : ∀ rest : List Line, ∀ l ∈ ([Document.fence] ++ rest).head?,
          ¬l ≠ Document.fence :=
        fun rest l hl hne ↦ hne (Option.some.inj hl).symm
      obtain ⟨rfl, hrest⟩ := append_eq_append_of_stop (List.cons.inj h).2 proper proper'
        (hfence rest) (hfence rest')
      cases Document.LineKind.fence.inj hkind
      cases here
      exact ⟨rfl, List.append_cancel_left hrest⟩
    | header | text | value => exact Document.LineKind.noConfusion hkind

end Item

namespace Document

/-! ## One way to tile a source -/

theorem Tiles.eq_nil {n : Nat} {items : List Item} (h : Tiles n [] items) : items = [] := by
  generalize hls : [] = ls at h
  cases h with
  | nil => rfl
  | blank => exact nomatch hls
  | item _ proper => exact absurd (List.append_eq_nil_iff.mp hls.symm).1 proper.lines_ne_nil

theorem Tiles.of_blank {n : Nat} {line : Line} {rest : List Line} {items : List Item}
    (h : Tiles n (line :: rest) items) (kind : lineKind line = .blank) :
    Tiles (n + 1) rest items := by
  generalize hls : line :: rest = ls at h
  cases h with
  | nil => exact nomatch hls
  | blank _ more =>
    cases hls
    exact more
  | @item _ item _ _ _ proper =>
    obtain ⟨first, more, hlines, hfirst⟩ := proper.exists_first
    rw [hlines] at hls
    rw [← (List.cons.inj hls).1, kind] at hfirst
    exact absurd hfirst.symm item.kind_ne_blank

theorem Tiles.of_ne_blank {n : Nat} {line : Line} {rest : List Line} {items : List Item}
    (h : Tiles n (line :: rest) items) (kind : lineKind line ≠ .blank) :
    ∃ item more, items = item :: more ∧ item.line = n ∧ item.kind = lineKind line := by
  generalize hls : line :: rest = ls at h
  cases h with
  | nil => exact nomatch hls
  | blank kind' =>
    cases hls
    exact absurd kind' kind
  | @item _ item _ more here proper =>
    obtain ⟨first, tail, hlines, hfirst⟩ := proper.exists_first
    rw [hlines] at hls
    refine ⟨item, more, rfl, here, ?_⟩
    rw [← hfirst, (List.cons.inj hls).1]

/-- A run is over at the line behind it, since the next run stands apart. -/
theorem Tiles.stopsAt {item : Item} {rest : List Line} {items : List Item}
    (more : Tiles item.bound rest items)
    (apart : ∀ next ∈ items.head?, item.SameRun next → next.line ≠ item.bound) :
    item.StopsAt rest := by
  intro hrun l hl hkind
  obtain ⟨tail, rfl⟩ := List.head?_eq_some_iff.mp hl
  obtain ⟨next, below, rfl, here, hnext⟩ := more.of_ne_blank (hkind ▸ item.kind_ne_blank)
  exact apart next rfl ⟨(hnext.trans hkind).symm, hrun⟩ here

/-- **A source is tiled in one way only.** -/
theorem Tiles.unique {n : Nat} {ls : List Line} {items items' : List Item} (h : Tiles n ls items)
    (h' : Tiles n ls items') : items = items' := by
  induction h generalizing items' with
  | nil n => exact h'.eq_nil.symm
  | blank kind _ ih => exact ih (h'.of_blank kind)
  | @item n item rest items here proper apart more ih =>
    obtain ⟨first, tail, hlines, hfirst⟩ := proper.exists_first
    have hcons : item.lines ++ rest = first :: (tail ++ rest) := by rw [hlines, List.cons_append]
    obtain ⟨item', below, rfl, here', -⟩ := (hcons ▸ h').of_ne_blank
      (hfirst ▸ item.kind_ne_blank)
    obtain ⟨rest', hrest, proper', apart', more'⟩ := h'.first here'
    obtain ⟨rfl, rfl⟩ := Item.eq_of_append_eq proper proper' (here.trans here'.symm) hrest
      (more.stopsAt apart) (more'.stopsAt apart')
    rw [ih more']

/-! ## Sources that have the canonical layout -/

/-- The items of a source stand in it as they do in their layout: no blank line follows a header,
one empty line follows any other block, and no line follows the last one. -/
structure IsCanonical (ls : List Line) (items : List Item) : Prop where
  between : items.IsChain fun a b ↦ Span.slice ⟨a.bound, b.line - a.bound⟩ ls = a.gap
  last : ∀ item ∈ items.getLast?, item.bound = ls.length + 1

/-- The blank lines in front of the first item, or all lines if there is no item. -/
theorem Tiles.exists_blanks {n : Nat} {ls : List Line} {items : List Item} (h : Tiles n ls items) :
    ∃ blanks rest, ls = blanks ++ rest ∧ (∀ l ∈ blanks, lineKind l = .blank) ∧
      Tiles (n + blanks.length) rest items ∧ (items = [] → rest = []) ∧
        ∀ first ∈ items.head?, first.line = n + blanks.length := by
  induction h with
  | nil n =>
    exact ⟨[], [], rfl, fun _ h ↦ absurd h List.not_mem_nil, .nil n, fun _ ↦ rfl,
      fun _ h ↦ nomatch h⟩
  | @blank n line rest items kind _ ih =>
    obtain ⟨blanks, rest, rfl, hblanks, more, hend, hfirst⟩ := ih
    have hlen : n + (line :: blanks).length = n + 1 + blanks.length := by
      rw [List.length_cons]
      omega
    rw [← hlen] at more hfirst
    exact ⟨line :: blanks, rest, rfl, List.forall_mem_cons.mpr ⟨kind, hblanks⟩, more, hend, hfirst⟩
  | item here proper apart more =>
    refine ⟨[], _, rfl, fun _ h ↦ absurd h List.not_mem_nil, .item here proper apart more,
      (fun h ↦ nomatch h), fun first hfirst ↦ ?_⟩
    cases hfirst
    exact here

theorem head_layout_ne_blank {item : Item} (items : List Item) (proper : item.IsProper) :
    ∀ l ∈ (layout (item :: items)).head?, lineKind l ≠ .blank := by
  intro l hl
  obtain ⟨first, more, hlines, hfirst⟩ := proper.exists_first
  have hhead : (layout (item :: items)).head? = some first := by
    cases items <;> rw [layout, hlines] <;> rfl
  cases hhead.symm.trans hl
  exact hfirst ▸ item.kind_ne_blank

/-- The layout of two items and more begins with the first, and the gap behind it ends where the
next one begins. -/
theorem append_eq_layout_iff {item next : Item} {items : List Item} {blanks rest : List Line}
    (proper : next.IsProper) (hblanks : ∀ l ∈ blanks, lineKind l = .blank)
    (hrest : ∀ l ∈ rest.head?, lineKind l ≠ .blank) :
    item.lines ++ (blanks ++ rest) = layout (item :: next :: items) ↔
      blanks = item.gap ∧ rest = layout (next :: items) := by
  rw [layout, List.append_cancel_left_eq]
  constructor
  · exact fun h ↦ append_eq_append_of_stop h hblanks lineKind_of_mem_gap hrest
      (head_layout_ne_blank items proper)
  · rintro ⟨rfl, rfl⟩
    rfl

theorem isCanonical_cons_cons {ls : List Line} {a b : Item} {items : List Item} :
    IsCanonical ls (a :: b :: items) ↔
      Span.slice ⟨a.bound, b.line - a.bound⟩ ls = a.gap ∧ IsCanonical ls (b :: items) := by
  constructor
  · rintro ⟨between, last⟩
    obtain ⟨hgap, between⟩ := List.isChain_cons_cons.mp between
    exact ⟨hgap, between, last⟩
  · rintro ⟨hgap, between, last⟩
    exact ⟨List.isChain_cons_cons.mpr ⟨hgap, between⟩, last⟩

/-- **Lines are the layout of the items that tile them exactly if they are canonical.** These lines
are those of a source behind the lines `above`. -/
theorem Tiles.eq_layout_iff (above : List Line) {ls : List Line} {item : Item} {items : List Item}
    (h : Tiles (above.length + 1) ls (item :: items)) (here : item.line = above.length + 1) :
    ls = layout (item :: items) ↔ IsCanonical (above ++ ls) (item :: items) := by
  induction items generalizing above ls item with
  | nil =>
    obtain ⟨behind, rfl, -, -, more⟩ := h.first here
    have hlast : (item.bound = (above ++ (item.lines ++ behind)).length + 1) ↔ behind = [] := by
      rw [Item.bound, here, List.length_append, List.length_append, ← List.length_eq_zero_iff]
      omega
    rw [layout, List.append_right_eq_self, ← hlast]
    constructor
    · exact fun hbound ↦ ⟨List.isChain_singleton _, fun last hl ↦ Option.some.inj hl ▸ hbound⟩
    · exact fun h ↦ h.last item rfl
  | cons next items ih =>
    obtain ⟨behind, rfl, -, -, more⟩ := h.first here
    obtain ⟨blanks, rest, rfl, hblanks, below, -, hnext⟩ := more.exists_blanks
    have hline : next.line = item.bound + blanks.length := hnext next rfl
    obtain ⟨tail, hrest, proper, -, -⟩ := below.first hline
    have hstop : ∀ l ∈ rest.head?, lineKind l ≠ .blank := by
      obtain ⟨first, more, hlines, hfirst⟩ := proper.exists_first
      rw [hrest, hlines]
      rintro l ⟨⟩
      exact hfirst ▸ next.kind_ne_blank
    -- The source is cut in front of the blank lines, and in front of the next item.
    have hbound : item.bound = (above ++ item.lines).length + 1 := by
      rw [Item.bound, here, List.length_append, Nat.add_right_comm]
    have hcut : above ++ (item.lines ++ (blanks ++ rest)) =
        above ++ item.lines ++ (blanks ++ rest) :=
      (List.append_assoc _ _ _).symm
    have hslice : Span.slice ⟨item.bound, next.line - item.bound⟩
        (above ++ (item.lines ++ (blanks ++ rest))) = blanks := by
      rw [Span.slice, hline, Nat.add_sub_cancel_left, hbound, Nat.add_sub_cancel, hcut,
        List.drop_left, List.take_left]
    have hlen : (above ++ item.lines ++ blanks).length + 1 = item.bound + blanks.length := by
      rw [List.length_append, hbound, Nat.add_right_comm]
    have hbelow := ih (above ++ item.lines ++ blanks) (hlen.symm ▸ below) (hline.trans hlen.symm)
    rw [append_eq_layout_iff proper hblanks hstop, isCanonical_cons_cons, hslice, hbelow, hcut,
      List.append_assoc (above ++ item.lines)]

/-! ## What the printer drops -/

theorem Tiles.sublist {n : Nat} {ls : List Line} {items : List Item} (h : Tiles n ls items) :
    (items.flatMap Item.lines).Sublist ls := by
  induction h with
  | nil n => exact .slnil
  | blank _ _ ih => exact ih.cons _
  | item _ _ _ _ ih =>
    rw [List.flatMap_cons]
    exact (List.Sublist.refl _).append ih

theorem flatten_layout (items : List Item) :
    (layout items).flatten = (items.flatMap Item.lines).flatten := by
  induction items with
  | nil => rfl
  | cons item items ih =>
    have hgap : item.gap.flatten = [] := by cases item <;> rfl
    rw [List.flatMap_cons, List.flatten_append, ← ih]
    cases items with
    | nil => exact (List.append_nil _).symm
    | cons next rest => rw [layout, List.flatten_append, List.flatten_append, hgap, List.nil_append]

/-- A source whose lines are the layout of its items has no carriage return to lose: its lines have
as many characters with their carriage returns as they have without. -/
theorem Tiles.rawLines_eq_layout_iff {text : List Char} {items : List Item}
    (h : Tiles 1 (lines text) items) :
    rawLines text = layout items ↔
      (∀ line ∈ rawLines text, line.getLast? ≠ some '\r') ∧ lines text = layout items := by
  have hself : (∀ line ∈ rawLines text, line.getLast? ≠ some '\r') → lines text = rawLines text :=
    fun hcr ↦ (List.map_congr_left fun line hline ↦ withoutReturn_eq_self (hcr line hline)).trans
      (List.map_id' _)
  constructor
  · intro hlayout
    have hcr : ∀ line ∈ rawLines text, line.getLast? ≠ some '\r' := by
      refine getLast?_ne_of_length_flatten_le ?_
      calc (rawLines text).flatten.length
          = (items.flatMap Item.lines).flatten.length := by rw [hlayout, flatten_layout]
        _ ≤ (lines text).flatten.length := h.sublist.flatten.length_le
    exact ⟨hcr, (hself hcr).trans hlayout⟩
  · rintro ⟨hcr, hlayout⟩
    exact (hself hcr).symm.trans hlayout

variable {U : Type}

/-- **The lines of a printed document are those of the items of its source**, each without the
carriage return of its line break, with one empty line behind every item but a header and the last.
The items are the only ones that tile the source. A source is printed as it is exactly if it is laid
out like this. -/
theorem print_canonical {source : String} {doc : Section U} (h : parse source = .ok doc) :
    ∃ items, (∀ other, Tiles 1 (lines source.toList) other ↔ other = items) ∧
      List.Forall₂ (fun item entry ↦ Entry.ofItem item = .ok entry) items doc.entries ∧
      rawLines doc.print.toList = layout items ∧
      (doc.print = source ↔ (∀ line ∈ rawLines source.toList, line.getLast? ≠ some '\r') ∧
        IsCanonical (lines source.toList) items) := by
  obtain ⟨root, items, tiles, here, reads, hprint⟩ := exists_items_of_parse h
  have hraw : rawLines doc.print.toList = layout (.header root :: items) := by
    have hne : layout (.header root :: items) ≠ [] := layout_ne_nil (List.cons_ne_nil _ _)
    rw [hprint, String.toList_ofList]
    refine rawLines_unlines hne fun line hline ↦ ?_
    rcases mem_layout hline with rfl | ⟨item, hitem, hline⟩
    · exact List.not_mem_nil
    · exact newline_notMem_of_mem_lines
        (tiles.sublist.subset (List.mem_flatMap.mpr ⟨item, hitem, hline⟩))
  refine ⟨_, fun other ↦ ⟨fun hother ↦ hother.unique tiles, fun h ↦ h ▸ tiles⟩, reads, hraw, ?_⟩
  have hsource : doc.print = source ↔ rawLines source.toList = layout (.header root :: items) := by
    rw [← hraw, ← String.toList_inj, rawLines_inj, eq_comm]
  rw [hsource, tiles.rawLines_eq_layout_iff, Tiles.eq_layout_iff [] tiles here,
    List.nil_append]

/-- Blank lines with blanks in them, too many, and too few, and a code block with one. -/
def uneven : String := "# A\n \ntext\n\t\n\n\t1\n```js\n\n```\n## B\n"

theorem print_canonical_uneven :
    ∃ (doc : Section Empty) (items : List Item), parse uneven = .ok doc ∧
      (∀ other, Tiles 1 (lines uneven.toList) other ↔ other = items) ∧
      List.Forall₂ (fun item entry ↦ Entry.ofItem item = .ok entry) items doc.entries ∧
      rawLines doc.print.toList = layout items ∧
      (doc.print = uneven ↔ (∀ line ∈ rawLines uneven.toList, line.getLast? ≠ some '\r') ∧
        IsCanonical (lines uneven.toList) items) ∧
      doc.print = "# A\ntext\n\n\t1\n\n```js\n\n```\n\n## B" := by
  have hread : ((parse (U := Empty) uneven).toOption.map Section.print)
      = some "# A\ntext\n\n\t1\n\n```js\n\n```\n\n## B" := by decide +kernel
  obtain ⟨doc, hdoc, hprint⟩ := Option.map_eq_some_iff.mp hread
  have hparse := toOption_eq_some_iff.mp hdoc
  obtain ⟨items, hitems, hreads, hraw, hsame⟩ := print_canonical hparse
  exact ⟨doc, items, hparse, hitems, hreads, hraw, hsame, hprint⟩

end Document

end DataOutline
