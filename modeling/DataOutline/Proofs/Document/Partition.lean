import DataOutline.Proofs.Document.RoundTrip
import DataOutline.Proofs.Document.Tiling
import DataOutline.Proofs.Grammar.Reading

/-!
# A document accounts for every line of its source

The headers and blocks of a document, each before those that follow it in the source, stand on runs
of lines that come one after the other. A line that is on none of them is blank and outside of
fenced code, and no other line is left out. Every header and every block keeps the lines that it
stands on. Two runs of text in one section do not touch, and neither do two runs of value lines:
otherwise they would have been one.
-/

namespace DataOutline

open Text

def Span.bound (s : Span) : Nat := s.line + s.size

/-- The lines of a source that a span stands for. -/
def Span.slice (s : Span) (ls : List Line) : List Line := (ls.drop (s.line - 1)).take s.size

def Item.span (item : Item) : Span := ⟨item.line, item.lines.length⟩

variable {U : Type}

mutual

def Node.entries : Node U → List (Document.Entry U)
  | .subsection header children => .header header :: Node.entriesAll children
  | .text block => [.leaf (.text block)]
  | .code language block => [.leaf (.code language block)]
  | .value tree => [.leaf (.value tree)]

def Node.entriesAll : List (Node U) → List (Document.Entry U)
  | [] => []
  | n :: ns => n.entries ++ Node.entriesAll ns

end

mutual

/-- The sections of a child, each before the sections that it holds. -/
def Node.sections : Node U → List (Section U)
  | .subsection header children => ⟨header, children⟩ :: Node.sectionsAll children
  | .text _ | .code _ _ | .value _ => []

def Node.sectionsAll : List (Node U) → List (Section U)
  | [] => []
  | n :: ns => n.sections ++ Node.sectionsAll ns

end

namespace Section

/-- The headers and blocks of a document in preorder. -/
def entries (s : Section U) : List (Document.Entry U) :=
  .header s.header :: Node.entriesAll s.children

/-- The sections of a document in preorder. -/
def sections (s : Section U) : List (Section U) := s :: Node.sectionsAll s.children

end Section

namespace Node

theorem entriesAll_append (ns ms : List (Node U)) :
    entriesAll (ns ++ ms) = entriesAll ns ++ entriesAll ms := by
  induction ns with
  | nil => rfl
  | cons n ns ih => rw [List.cons_append, entriesAll, entriesAll, ih, List.append_assoc]

mutual

/-- The headers and blocks of a section stand together, its own header first. -/
theorem entries_infix_entries {s : Section U} :
    ∀ n : Node U, s ∈ n.sections → s.entries <:+: n.entries
  | .subsection header children, h => by
    rw [sections] at h
    rw [entries]
    rcases List.mem_cons.mp h with rfl | h
    · exact List.infix_rfl
    · exact (entries_infix_entriesAll children h).trans (List.suffix_cons _ _).isInfix
  | .text _, h | .code _ _, h | .value _, h => absurd h List.not_mem_nil

theorem entries_infix_entriesAll {s : Section U} :
    ∀ ns : List (Node U), s ∈ sectionsAll ns → s.entries <:+: entriesAll ns
  | [], h => absurd h List.not_mem_nil
  | n :: ns, h => by
    rw [sectionsAll] at h
    rw [entriesAll]
    rcases List.mem_append.mp h with h | h
    · exact (entries_infix_entries n h).trans (List.prefix_append _ _).isInfix
    · exact (entries_infix_entriesAll ns h).trans (List.suffix_append _ _).isInfix

end

end Node

theorem Section.entries_infix {s doc : Section U} (h : s ∈ doc.sections) :
    s.entries <:+: doc.entries := by
  rcases List.mem_cons.mp h with rfl | h
  · exact List.infix_rfl
  · exact (Node.entries_infix_entriesAll _ h).trans (List.suffix_cons _ _).isInfix

namespace Document

/-! ## Headers and blocks -/

namespace Entry

def span : Entry U → Span
  | .header h => ⟨h.line, 1⟩
  | .leaf (.subsection h _) => ⟨h.line, 1⟩
  | .leaf (.text block) => block.span
  | .leaf (.code _ block) => block.span
  | .leaf (.value tree) => tree.block.span

/-- What is kept of some lines: a header keeps its line, text and values keep the lines as they are,
fenced code keeps the lines between the fences, and its language stands behind the first of them. -/
inductive Keeps : Entry U → List Line → Prop
  | header (h : Header) : Keeps (.header h) [h.content.toList]
  | text (span : Span) (ls : List Line) :
      Keeps (.leaf (.text ⟨span, String.ofList (unlines ls)⟩)) ls
  | value (tree : ValueTree U) (ls : List Line)
      (content : tree.block.content = String.ofList (unlines ls)) : Keeps (.leaf (.value tree)) ls
  | code (language : Line) (span : Span) (ls : List Line) :
      Keeps (.leaf (.code (String.ofList language) ⟨span, String.ofList (unlines ls)⟩))
        ((fence ++ language) :: (ls ++ [fence]))

/-- Two blocks of text, or two values. -/
inductive Alike : Entry U → Entry U → Prop
  | text (a b : Block) : Alike (.leaf (.text a)) (.leaf (.text b))
  | value (a b : ValueTree U) : Alike (.leaf (.value a)) (.leaf (.value b))

end Entry

theorem getElem?_numbered (line : Nat) (ls : List Line) (i : Nat) :
    (numbered line ls)[i]? = ls[i]?.map fun l ↦ ⟨line + i, (unindent? l).getD l⟩ := by
  rw [numbered, List.getElem?_map, List.getElem?_zipIdx, Option.map_map, Nat.zero_add]
  rfl

theorem length_numbered (line : Nat) (ls : List Line) : (numbered line ls).length = ls.length := by
  rw [numbered, List.length_map, List.length_zipIdx]

theorem map_text_numbered (line : Nat) (ls : List Line) :
    (numbered line ls).map (·.text) = ls.map fun l ↦ (unindent? l).getD l := by
  refine List.ext_getElem? fun i ↦ ?_
  rw [List.getElem?_map, getElem?_numbered, List.getElem?_map, Option.map_map]
  rfl

theorem span_readValue {line : Nat} {ls : List Line} {tree : ValueTree U} (hne : ls ≠ [])
    (hls : ∀ l ∈ ls, lineKind l = .value) (h : readValue line ls = .ok tree) :
    tree.block.span = ⟨line, ls.length⟩ := by
  obtain ⟨l, ls, rfl⟩ := List.exists_cons_of_ne_nil hne
  obtain ⟨hhead, hblank⟩ := isValueLine_iff.mpr (hls l List.mem_cons_self)
  obtain ⟨text, rfl⟩ := List.head?_eq_some_iff.mp hhead
  obtain ⟨first, more, t, hnumbered, hread, rfl⟩ := exists_read_of_readValue h
  have hfirst : first = ⟨line, text⟩ := by
    have hget := getElem?_numbered line (('\t' :: text) :: ls) 0
    rw [hnumbered] at hget
    exact Option.some.inj hget
  have hlast : Passage.lastNumber ⟨first, more⟩ = line + ls.length := by
    have hlength := length_numbered line (('\t' :: text) :: ls)
    rw [hnumbered, List.length_cons, List.length_cons, Nat.succ_inj] at hlength
    have hget := getElem?_numbered line (('\t' :: text) :: ls) ls.length
    have hend : (first :: more)[ls.length]? = some (more.getLast?.getD first) := by
      rw [← List.getLast?_cons, List.getLast?_eq_getElem?, List.length_cons, hlength,
        Nat.add_sub_cancel]
    have hsome : ls.length < (('\t' :: text) :: ls).length := Nat.lt_succ_self _
    rw [hnumbered, hend, List.getElem?_eq_getElem hsome] at hget
    rw [Passage.lastNumber, Option.some.inj hget]
  have hnotBlank : allBlank text = false := by
    rw [allBlank, List.all_cons] at hblank
    exact hblank
  rw [ValueTree.block_withBlock, ValueTree.block_of_read hread, ValueTree.blockOf, Passage.span,
    hlast, hfirst, hnotBlank, List.length_cons]
  simp only [Bool.false_eq_true, if_false]
  congr 1
  omega

theorem Entry.ofItem_spec {item : Item} {entry : Entry U} (proper : item.IsProper)
    (h : Entry.ofItem item = .ok entry) : entry.span = item.span ∧ entry.Keeps item.lines := by
  cases item with
  | header h' =>
    cases h
    exact ⟨rfl, .header h'⟩
  | text line ls =>
    cases h
    exact ⟨rfl, .text _ ls⟩
  | code line language ls =>
    cases h
    refine ⟨?_, .code language _ ls⟩
    rw [Item.span, Item.lines, List.length_cons, List.length_append, List.length_singleton]
    rfl
  | value line ls =>
    obtain ⟨tree, hread, ⟨⟩⟩ := bind_eq_ok_iff.mp h
    exact ⟨span_readValue proper.1 proper.2 hread, .value tree ls (content_readValue hread)⟩

theorem Entry.sameRun_of_alike {a b : Item} {a' b' : Entry U} (ha : Entry.ofItem a = .ok a')
    (hb : Entry.ofItem b = .ok b') (h : a'.Alike b') : a.SameRun b := by
  -- Only one kind of item is read as text, and only one as a value.
  have hkind : ∀ {item : Item} {entry : Entry U}, Entry.ofItem item = .ok entry →
      (∀ block, entry = .leaf (.text block) → item.kind = .text) ∧
        ∀ tree, entry = .leaf (.value tree) → item.kind = .value := by
    intro item entry h
    cases item with
    | header h' | code line language ls =>
      cases h
      exact ⟨nofun, nofun⟩
    | text line ls =>
      cases h
      exact ⟨fun _ _ ↦ rfl, nofun⟩
    | value line ls =>
      obtain ⟨tree, -, ⟨⟩⟩ := bind_eq_ok_iff.mp h
      exact ⟨nofun, fun _ _ ↦ rfl⟩
  cases h with
  | text block block' =>
    have htext := (hkind ha).1 block rfl
    exact ⟨htext.trans ((hkind hb).1 block' rfl).symm, Or.inl htext⟩
  | value tree tree' =>
    have hvalue := (hkind ha).2 tree rfl
    exact ⟨hvalue.trans ((hkind hb).2 tree' rfl).symm, Or.inr hvalue⟩

theorem entries_of_ofItem {item : Item} {node : Node U} (h : Entry.ofItem item = .ok (.leaf node)) :
    node.entries = [.leaf node] := by
  cases item with
  | header h' => exact nomatch h
  | text line ls =>
    cases h
    rfl
  | code line language ls =>
    cases h
    rfl
  | value line ls =>
    obtain ⟨tree, -, ⟨⟩⟩ := bind_eq_ok_iff.mp h
    rfl

theorem entriesAll_nest {items : List Item} {entries : List (Entry U)}
    (reads : List.Forall₂ (fun item entry ↦ Entry.ofItem item = .ok entry) items entries) :
    Node.entriesAll (nest entries) = entries := by
  induction reads with
  | nil => rfl
  | @cons item entry items entries hitem _ ih =>
    cases entry with
    | leaf node =>
      change Node.entriesAll (node :: nest entries) = _
      rw [Node.entriesAll, ih, entries_of_ofItem hitem, List.singleton_append]
    | header h =>
      rw [nest_header_cons, Node.entriesAll, Node.entries, List.cons_append,
        ← Node.entriesAll_append, List.takeWhile_append_dropWhile, ih]

/-! ## Every line once -/

/-- Lines and the headers and blocks that stand on them, each line of a block on one of them. -/
structure Accounts (ls : List Line) (doc : Section U) : Prop where
  /-- No header or block is without lines. -/
  proper : ∀ e ∈ doc.entries, 0 < e.span.size
  /-- Each ends before the next one begins. -/
  ordered : doc.entries.Pairwise fun a b ↦ a.span.bound ≤ b.span.line
  /-- No line is left out but those that are blank and outside of fenced code. -/
  covers : ∀ n, (∃ e ∈ doc.entries, e.span.line ≤ n ∧ n < e.span.bound) ↔
    1 ≤ n ∧ n ≤ ls.length ∧ ¬BlankAt (scan false 1 ls) n
  /-- Each keeps the lines that it stands on. -/
  keeps : ∀ e ∈ doc.entries, e.Keeps (e.span.slice ls)
  /-- Text that follows text in a section is behind a blank line, and so is a value that follows a
  value. -/
  maximal : ∀ s ∈ doc.sections, ∀ before a b after, s.children = before ++ a :: b :: after →
    Entry.Alike (.leaf a) (.leaf b) →
      ∃ n, (Entry.leaf a).span.bound ≤ n ∧ n < (Entry.leaf b).span.line ∧
        BlankAt (scan false 1 ls) n

theorem Tiles.slice_span {ls : List Line} {items : List Item} (h : Tiles 1 ls items) {item : Item}
    (hitem : item ∈ items) : item.span.slice ls = item.lines := by
  obtain ⟨before, after, rfl, hline⟩ := h.exists_append item hitem
  rw [Span.slice, Item.span, hline, Nat.add_sub_cancel_left, List.append_assoc, List.drop_left,
    List.take_left]

theorem infix_entries_of_children {doc s : Section U} (hs : s ∈ doc.sections)
    {before after : List (Node U)} {a b : Node U}
    (hchildren : s.children = before ++ a :: b :: after)
    (halike : Entry.Alike (.leaf a) (.leaf b)) : [.leaf a, .leaf b] <:+: doc.entries := by
  have hentries : a.entries = [.leaf a] ∧ b.entries = [.leaf b] := by
    cases halike <;> exact ⟨rfl, rfl⟩
  refine List.IsInfix.trans ?_ (Section.entries_infix hs)
  rw [Section.entries, hchildren, Node.entriesAll_append, Node.entriesAll, Node.entriesAll,
    hentries.1, hentries.2]
  exact ⟨.header s.header :: Node.entriesAll before, Node.entriesAll after, by simp⟩

theorem tiles_root {first name : Line} {rest : List Line} {items : List Item}
    (root : header? first = some (1, name)) (more : Tiles 2 rest items) :
    Tiles 1 (first :: rest) (.header (headerAt 1 1 name first) :: items) := by
  have hkind : lineKind first = .header 1 name := header?_eq_some_iff.mp root
  have hlines : (Item.header (headerAt 1 1 name first)).lines = [first] := by
    rw [Item.lines, headerAt, String.toList_ofList]
  have hproper : (Item.header (headerAt 1 1 name first)).IsProper := by
    rw [Item.IsProper, headerAt, String.toList_ofList, String.toList_ofList]
    exact hkind
  have hbound : (Item.header (headerAt 1 1 name first)).bound = 2 := by
    rw [Item.bound, hlines]
    rfl
  rw [← List.singleton_append, ← hlines]
  exact .item rfl hproper (fun next _ hrun ↦ absurd hrun (Item.not_sameRun_header _ next))
    (hbound ▸ more)

/-- A line is on one of the items that tile a source, unless it is blank and outside of fenced
code. -/
theorem Tiles.exists_item_iff {ls : List Line} {items : List Item} (h : Tiles 1 ls items)
    (n : Nat) :
    (∃ item ∈ items, item.line ≤ n ∧ n < item.bound) ↔
      1 ≤ n ∧ n ≤ ls.length ∧ ¬BlankAt (scan false 1 ls) n := by
  constructor
  · rintro ⟨item, hmem, hle, hlt⟩
    have hfirst := h.le_line item hmem
    have hlast := h.bound_le item hmem
    exact ⟨by omega, by omega,
      (h.covered_iff n (by omega) (by omega)).mp ⟨item, hmem, hle, hlt⟩⟩
  · rintro ⟨hpos, hle, hblank⟩
    exact (h.covered_iff n hpos (by omega)).mpr hblank

/-- The line behind a block is blank if the next block stands further down, since it is on no
block. -/
theorem blankAt_bound {ls : List Line} {entries above below : List (Entry U)} {a b : Entry U}
    (split : above ++ [a, b] ++ below = entries)
    (ordered : entries.Pairwise fun a b ↦ a.span.bound ≤ b.span.line)
    (proper : ∀ e ∈ entries, 0 < e.span.size)
    (covers : ∀ n, (∃ e ∈ entries, e.span.line ≤ n ∧ n < e.span.bound) ↔
      1 ≤ n ∧ n ≤ ls.length ∧ ¬BlankAt (scan false 1 ls) n)
    (apart : a.span.bound < b.span.line) : BlankAt (scan false 1 ls) a.span.bound := by
  subst split
  obtain ⟨hupper, -, hbelow⟩ := List.pairwise_append.mp ordered
  obtain ⟨-, -, habove⟩ := List.pairwise_append.mp hupper
  have hpos := proper a (by simp)
  have hpos' := proper b (by simp)
  have hbound : a.span.bound = a.span.line + a.span.size := rfl
  have hbound' : b.span.bound = b.span.line + b.span.size := rfl
  have hlast := ((covers b.span.line).mp ⟨b, by simp, Nat.le_refl _, by omega⟩).2.1
  by_contra hnot
  obtain ⟨e, he, hle, hlt⟩ := (covers a.span.bound).mpr ⟨by omega, by omega, hnot⟩
  simp only [List.mem_append, List.mem_cons, List.not_mem_nil, or_false] at he
  rcases he with (he | rfl | rfl) | he
  · have := habove e he a List.mem_cons_self
    omega
  · exact Nat.lt_irrefl _ hlt
  · omega
  · have := hbelow b (by simp) e he
    omega

theorem Tiles.accounts {ls : List Line} {items : List Item} {doc : Section U}
    (tiles : Tiles 1 ls items)
    (reads : List.Forall₂ (fun item entry ↦ Entry.ofItem item = .ok entry) items doc.entries) :
    Accounts ls doc := by
  have hreads := (List.forall₂_and_left _ _).mpr ⟨tiles.proper, reads⟩
  have hspan : ∀ {item : Item} {e : Entry U}, item.IsProper ∧ Entry.ofItem item = .ok e →
      e.span = item.span := fun h ↦ (Entry.ofItem_spec h.1 h.2).1
  have hpairs : doc.entries.Pairwise fun a b ↦ a.span.bound ≤ b.span.line ∧
      (a.Alike b → a.span.bound < b.span.line) := by
    refine pairwise_of_forall₂ hreads tiles.precedes fun ha hb hprecedes ↦ ?_
    rw [hspan ha, hspan hb]
    exact ⟨hprecedes.1, fun h ↦ hprecedes.2 (Entry.sameRun_of_alike ha.2 hb.2 h)⟩
  have hordered := hpairs.imp fun h ↦ h.1
  have hproper : ∀ e ∈ doc.entries, 0 < e.span.size := by
    intro e he
    obtain ⟨item, -, hitem⟩ := exists_of_forall₂ hreads.flip he
    rw [hspan hitem]
    exact List.length_pos_iff.mpr hitem.1.lines_ne_nil
  have hcovers : ∀ n, (∃ e ∈ doc.entries, e.span.line ≤ n ∧ n < e.span.bound) ↔
      1 ≤ n ∧ n ≤ ls.length ∧ ¬BlankAt (scan false 1 ls) n := by
    intro n
    rw [← tiles.exists_item_iff n]
    constructor
    · rintro ⟨e, he, hn⟩
      obtain ⟨item, hmem, hitem⟩ := exists_of_forall₂ hreads.flip he
      rw [hspan hitem] at hn
      exact ⟨item, hmem, hn⟩
    · rintro ⟨item, hmem, hn⟩
      obtain ⟨e, he, hitem⟩ := exists_of_forall₂ hreads hmem
      refine ⟨e, he, ?_⟩
      rw [hspan hitem]
      exact hn
  refine ⟨hproper, hordered, hcovers, fun e he ↦ ?_, ?_⟩
  · obtain ⟨item, hmem, hitem⟩ := exists_of_forall₂ hreads.flip he
    rw [hspan hitem, tiles.slice_span hmem]
    exact (Entry.ofItem_spec hitem.1 hitem.2).2
  · intro s hs before a b after hchildren halike
    obtain ⟨above, below, hentries⟩ := infix_entries_of_children hs hchildren halike
    have hlt : (Entry.leaf a).span.bound < (Entry.leaf b).span.line := by
      have hupper := (List.pairwise_append.mp (hentries ▸ hpairs)).1
      have hmiddle := (List.pairwise_append.mp hupper).2.1
      exact ((List.pairwise_cons.mp hmiddle).1 _ List.mem_cons_self).2 halike
    exact ⟨_, Nat.le_refl _, hlt, blankAt_bound hentries hordered hproper hcovers hlt⟩

/-- A document is read from items that tile its source, one for each header and block, and it is
printed as their layout. -/
theorem exists_items_of_parse {source : String} {doc : Section U} (h : parse source = .ok doc) :
    ∃ root items, Tiles 1 (lines source.toList) (.header root :: items) ∧ root.line = 1 ∧
      List.Forall₂ (fun item entry ↦ Entry.ofItem item = .ok entry) (.header root :: items)
        doc.entries ∧
      doc.print = String.ofList (unlines (layout (.header root :: items))) := by
  obtain ⟨first, rest, name, items, entries, hlines, hroot, hgathers, hentries, rfl⟩ :=
    ofLines_eq_ok_iff.mp (parse_eq_ok_iff.mp h)
  refine ⟨headerAt 1 1 name first, items, hlines ▸ tiles_root hroot hgathers.tiles, rfl, ?_, ?_⟩
  · rw [Section.entries, entriesAll_nest hentries]
    exact .cons rfl hentries
  · rw [print_eq_layout first name hgathers.isProper hentries, layout_header_cons, headerAt,
      String.toList_ofList]

theorem exists_tiles_of_parse {source : String} {doc : Section U} (h : parse source = .ok doc) :
    ∃ items, Tiles 1 (lines source.toList) items ∧
      List.Forall₂ (fun item entry ↦ Entry.ofItem item = .ok entry) items doc.entries := by
  obtain ⟨root, items, tiles, -, reads, -⟩ := exists_items_of_parse h
  exact ⟨_, tiles, reads⟩

/-- **No line is lost, and none is claimed twice.** -/
theorem parse_accounts {source : String} {doc : Section U} (h : parse source = .ok doc) :
    Accounts (lines source.toList) doc := by
  obtain ⟨items, tiles, reads⟩ := exists_tiles_of_parse h
  exact tiles.accounts reads

/-- Two blocks of text and two values in a row, and a blank line in fenced code. -/
def paired : String := "#\none\n\ntwo\n\tx\n\n\ty\n```\n\n```\n"

theorem parse_accounts_paired :
    ∃ doc : Section Empty, parse paired = .ok doc ∧
      doc.entries.map Entry.span = [⟨1, 1⟩, ⟨2, 1⟩, ⟨4, 1⟩, ⟨5, 1⟩, ⟨7, 1⟩, ⟨8, 3⟩] ∧
      Accounts (lines paired.toList) doc := by
  have hread : ((parse (U := Empty) paired).toOption.map fun doc ↦ doc.entries.map Entry.span)
      = some [⟨1, 1⟩, ⟨2, 1⟩, ⟨4, 1⟩, ⟨5, 1⟩, ⟨7, 1⟩, ⟨8, 3⟩] := by decide +kernel
  obtain ⟨doc, hdoc, hspans⟩ := Option.map_eq_some_iff.mp hread
  have hparse := toOption_eq_some_iff.mp hdoc
  exact ⟨doc, hparse, hspans, parse_accounts hparse⟩

end Document

end DataOutline
