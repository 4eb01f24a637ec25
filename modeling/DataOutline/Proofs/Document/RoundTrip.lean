import Mathlib.Data.List.TakeDrop
import Mathlib.Data.List.TakeWhile
import DataOutline.Proofs.Document.Layout
import DataOutline.Proofs.Document.Relocation

/-!
# Reading a printed document

The items of a document are nested into sections and come out again, in their order, when the
document is printed; so a printed document is the layout of its items. Reading the layout gathers
the same items at other lines, and where an item stands does not matter to what it says. So the
second document is the first one, but for the numbers of lines.
-/

namespace DataOutline

open Text

variable {U : Type}

theorem Node.piecesAll_append (ns ms : List (Node U)) :
    piecesAll (ns ++ ms) = piecesAll ns ++ piecesAll ms := by
  induction ns with
  | nil => rfl
  | cons n ns ih => rw [List.cons_append, piecesAll, piecesAll, ih, List.append_assoc]

/-- An item as a block of the printed document. -/
def Item.piece (item : Item) : Piece := ⟨String.ofList (unlines item.lines), item.gap.length + 1⟩

namespace Document

/-! ## Nesting -/

theorem nest_header_cons (h : Header) (entries : List (Entry U)) :
    nest (.header h :: entries) =
      .subsection h ((nest entries).takeWhile (belongsBelow h.level)) ::
        (nest entries).dropWhile (belongsBelow h.level) := by
  rw [nest, List.foldr_cons, ← nest]
  simp only [List.span_eq_takeWhile_dropWhile]

namespace Entry

/-- What is printed of an entry, not of the entries that it takes in. -/
def pieces : Entry U → List Piece
  | .header h => [⟨h.content, 1⟩]
  | .leaf node => node.pieces

def map {V : Type} (g : Header → Header) (f : Node U → Node V) : Entry U → Entry V
  | .header h => .header (g h)
  | .leaf node => .leaf (f node)

def forgetLines : Entry U → Entry U
  | .header h => .header h.forgetLine
  | .leaf node => .leaf node.forgetLines

end Entry

theorem piecesAll_nest (entries : List (Entry U)) :
    Node.piecesAll (nest entries) = entries.flatMap Entry.pieces := by
  induction entries with
  | nil => rfl
  | cons entry entries ih =>
    rw [List.flatMap_cons, ← ih]
    cases entry with
    | leaf node => rfl
    | header h =>
      rw [nest_header_cons, Node.piecesAll, Node.pieces, List.cons_append,
        ← Node.piecesAll_append, List.takeWhile_append_dropWhile]
      rfl

/-- A change that leaves sections sections, and their levels as they are, leaves the nesting as it
is. -/
theorem nest_map {V : Type} {g : Header → Header} {f : Node U → Node V}
    (subsection : ∀ h children, f (.subsection h children) = .subsection (g h) (children.map f))
    (level : ∀ h, (g h).level = h.level)
    (below : ∀ level n, belongsBelow level (f n) = belongsBelow level n)
    (entries : List (Entry U)) :
    nest (entries.map (Entry.map g f)) = (nest entries).map f := by
  induction entries with
  | nil => rfl
  | cons entry entries ih =>
    cases entry with
    | leaf node => exact congrArg (f node :: ·) ih
    | header h =>
      -- What belongs below the header does so with or without the change, so the cut is the same.
      have hcut : belongsBelow (g h).level ∘ f = belongsBelow h.level := by
        funext n
        rw [Function.comp, below, level]
      rw [List.map_cons, Entry.map, nest_header_cons, nest_header_cons, List.map_cons, subsection,
        ih, List.takeWhile_map, List.dropWhile_map, hcut]

theorem nest_map_forgetLines (entries : List (Entry U)) :
    nest (entries.map Entry.forgetLines) = (nest entries).map Node.forgetLines := by
  have hmap : Entry.forgetLines (U := U) = Entry.map Header.forgetLine Node.forgetLines := by
    funext entry
    cases entry <;> rfl
  rw [hmap]
  refine nest_map (g := Header.forgetLine) (fun h children ↦ ?_) (fun _ ↦ rfl)
    (fun level n ↦ ?_) entries
  · rw [Node.forgetLines, Node.forgetLinesAll_eq_map]
  · cases n <;> rfl

/-! ## Printing the items of a document -/

private theorem fenced_eq (language : Line) (line : Nat) (ls : List Line) :
    fenced (String.ofList language) ⟨⟨line, ls.length + 2⟩, String.ofList (unlines ls)⟩
      = String.ofList (unlines ((fence ++ language) :: (ls ++ [fence]))) := by
  apply String.toList_inj.mp
  rw [fenced]
  simp only [String.toList_append, String.toList_ofList]
  cases ls with
  | nil =>
    rw [List.nil_append, unlines_cons_cons, unlines_singleton]
    simp [fence]
  | cons l ls =>
    rw [List.cons_append, unlines_cons_cons, ← List.cons_append,
      unlines_append (List.cons_ne_nil _ _) (List.cons_ne_nil _ _), unlines_singleton]
    simp [fence]

theorem pieces_ofItem {item : Item} {entry : Entry U} (h : Entry.ofItem item = .ok entry) :
    entry.pieces = [item.piece] := by
  cases item with
  | header h' =>
    cases h
    rw [Entry.pieces, Item.piece, Item.lines, unlines_singleton, String.ofList_toList]
    rfl
  | text line ls =>
    cases h
    rfl
  | value line ls =>
    obtain ⟨tree, hread, hentry⟩ := bind_eq_ok_iff.mp h
    cases hentry
    rw [Entry.pieces, Node.pieces, content_readValue hread]
    rfl
  | code line language ls =>
    cases h
    rw [Entry.pieces, Node.pieces, fenced_eq]
    rfl

theorem flatMap_pieces {items : List Item} {entries : List (Entry U)}
    (h : List.Forall₂ (fun item entry ↦ Entry.ofItem item = .ok entry) items entries) :
    entries.flatMap Entry.pieces = items.map Item.piece := by
  induction h with
  | nil => rfl
  | cons hentry _ ih => rw [List.flatMap_cons, pieces_ofItem hentry, ih]; rfl

theorem layout_ne_nil {item : Item} {items : List Item} (h : item.lines ≠ []) :
    layout (item :: items) ≠ [] := by
  cases items with
  | nil => exact h
  | cons next rest => exact List.append_ne_nil_of_left_ne_nil h _

theorem toList_pushn (s : String) (c : Char) (n : Nat) :
    (s.pushn c n).toList = s.toList ++ List.replicate n c := by
  rw [String.pushn_eq_repeat_push]
  induction n with
  | zero =>
    rw [List.replicate_zero, List.append_nil]
    rfl
  | succ n ih => rw [Nat.repeat, String.toList_push, ih, List.append_assoc, ← List.replicate_succ']

theorem unlines_gap_append (item : Item) {ls : List Line} (h : ls ≠ []) :
    unlines (item.gap ++ ls) = List.replicate item.gap.length '\n' ++ unlines ls := by
  have hempty : unlines ([[]] ++ ls) = List.replicate 1 '\n' ++ unlines ls := by
    rw [unlines_append (List.cons_ne_nil _ _) h, unlines_singleton]
    rfl
  cases item with
  | header h => rfl
  | text | value | code => exact hempty

theorem render_map_piece {items : List Item} (h : ∀ item ∈ items, item.lines ≠ []) :
    Piece.render (items.map Item.piece) = String.ofList (unlines (layout items)) := by
  induction items with
  | nil => rfl
  | cons item items ih =>
    obtain ⟨hitem, hitems⟩ := List.forall_mem_cons.mp h
    rcases items with _ | ⟨next, rest⟩
    · rfl
    · have hnext : layout (next :: rest) ≠ [] := layout_ne_nil (hitems next List.mem_cons_self)
      have hrender : Piece.render ((item :: next :: rest).map Item.piece)
          = item.piece.content ++ "".pushn '\n' item.piece.breaks
            ++ Piece.render ((next :: rest).map Item.piece) := rfl
      apply String.toList_inj.mp
      rw [hrender, ih hitems, layout,
        unlines_append hitem (List.append_ne_nil_of_right_ne_nil _ hnext),
        unlines_gap_append item hnext, String.toList_append, String.toList_append, toList_pushn,
        Item.piece]
      simp only [String.toList_ofList, List.replicate_succ, String.toList_empty, List.nil_append,
        List.append_assoc, List.cons_append]

/-- **A document prints as the layout of its items.** -/
theorem print_eq_layout (first name : Line) {items : List Item} {entries : List (Entry U)}
    (proper : ∀ item ∈ items, item.IsProper)
    (entered : List.Forall₂ (fun item entry ↦ Entry.ofItem item = .ok entry) items entries) :
    Section.print ⟨headerAt 1 1 name first, nest entries⟩
      = String.ofList (unlines (first :: layout items)) := by
  have hlines : ∀ item ∈ .header (headerAt 1 1 name first) :: items, item.lines ≠ [] :=
    List.forall_mem_cons.mpr ⟨List.cons_ne_nil _ _, fun item h ↦ (proper item h).lines_ne_nil⟩
  have hroot : (⟨(headerAt 1 1 name first).content, 1⟩ : Piece)
      = Item.piece (.header (headerAt 1 1 name first)) := by
    rw [Item.piece, Item.lines, unlines_singleton, String.ofList_toList]
    rfl
  rw [Section.print, piecesAll_nest, flatMap_pieces entered, hroot, ← List.map_cons,
    render_map_piece hlines, layout_header_cons, headerAt, String.toList_ofList]

/-! ## Reading the layout -/

theorem ofLines_eq_ok_iff {ls : List Line} {doc : Section U} :
    ofLines ls = .ok doc ↔ ∃ first rest name items entries, ls = first :: rest ∧
      header? first = some (1, name) ∧ Gathers 2 1 rest items ∧
      List.Forall₂ (fun item entry ↦ Entry.ofItem item = .ok entry) items entries ∧
      doc = ⟨headerAt 1 1 name first, nest entries⟩ := by
  constructor
  · intro h
    rcases ls with _ | ⟨first, rest⟩
    · exact nomatch h
    · rw [ofLines] at h
      split at h
      · next name hroot =>
        obtain ⟨items, hgather, h⟩ := bind_eq_ok_iff.mp h
        obtain ⟨entries, hentries, ⟨⟩⟩ := bind_eq_ok_iff.mp h
        exact ⟨first, rest, name, items, entries, rfl, hroot, gather_eq_ok_iff.mp hgather,
          mapM_eq_ok_iff.mp hentries, rfl⟩
      · exact nomatch h
  · rintro ⟨first, rest, name, items, entries, rfl, hroot, hgathers, hentries, rfl⟩
    simp only [ofLines, hroot]
    exact bind_eq_ok_iff.mpr ⟨items, gather_eq_ok_iff.mpr hgathers,
      bind_eq_ok_iff.mpr ⟨entries, mapM_eq_ok_iff.mpr hentries, rfl⟩⟩

/-- The check for the empty text is one for the first line. -/
theorem parse_eq_ok_iff {source : String} {doc : Section U} :
    parse source = .ok doc ↔ ofLines (lines source.toList) = .ok doc := by
  rw [parse]
  by_cases h : source = ""
  · subst h
    rw [if_pos rfl]
    exact iff_of_false (fun h ↦ nomatch h) fun h ↦ nomatch h
  · rw [if_neg h]

theorem exists_entries_relayout {items : List Item} {entries : List (Entry U)} (n : Nat)
    (h : List.Forall₂ (fun item entry ↦ Entry.ofItem item = .ok entry) items entries) :
    ∃ again : List (Entry U),
      List.Forall₂ (fun item entry ↦ Entry.ofItem item = .ok entry) (relayout n items) again ∧
        again.map Entry.forgetLines = entries.map Entry.forgetLines := by
  induction h generalizing n with
  | nil => exact ⟨[], .nil, rfl⟩
  | @cons item entry items entries hentry _ ih =>
    obtain ⟨again, hagain, hforget⟩ := ih (n + item.lines.length + item.gap.length)
    obtain ⟨entry', hentry', hforget'⟩ : ∃ entry' : Entry U,
        Entry.ofItem (item.moveTo n) = .ok entry' ∧ entry'.forgetLines = entry.forgetLines := by
      cases item with
      | header h' => cases hentry; exact ⟨_, rfl, rfl⟩
      | text line ls => cases hentry; exact ⟨_, rfl, rfl⟩
      | code line language ls => cases hentry; exact ⟨_, rfl, rfl⟩
      | value line ls =>
        obtain ⟨tree, hread, ⟨⟩⟩ := bind_eq_ok_iff.mp hentry
        obtain ⟨tree', hread', htree⟩ := readValue_forgetLines n hread
        refine ⟨.leaf (.value tree'), bind_eq_ok_iff.mpr ⟨tree', hread', rfl⟩, ?_⟩
        exact congrArg (Entry.leaf ∘ Node.value) htree
    refine ⟨entry' :: again, .cons hentry' hagain, ?_⟩
    rw [List.map_cons, List.map_cons, hforget, hforget']

/-- The layout of items can be cut into its lines again, and so can it with empty lines behind it:
each of these lines is empty or one that the items were gathered from. -/
theorem lines_layout {n d : Nat} {first : Line} {rest tail : List Line} {items : List Item}
    (h : Gathers n d rest items) (hnl : ∀ line ∈ first :: rest, '\n' ∉ line)
    (hcr : ∀ line ∈ first :: rest, line.getLast? ≠ some '\r') (htail : ∀ line ∈ tail, line = []) :
    lines (unlines (first :: (layout items ++ tail))) = first :: (layout items ++ tail) := by
  have hmem : ∀ line ∈ first :: (layout items ++ tail), line = [] ∨ line ∈ first :: rest := by
    refine List.forall_mem_cons.mpr ⟨Or.inr List.mem_cons_self, fun line hline ↦ ?_⟩
    rcases List.mem_append.mp hline with hline | hline
    · rcases mem_layout hline with hempty | ⟨item, hitem, hline⟩
      · exact Or.inl hempty
      · exact Or.inr (List.mem_cons_of_mem _ (h.lines_subset item hitem hline))
    · exact Or.inl (htail line hline)
  refine lines_unlines (List.cons_ne_nil _ _) (fun line hline ↦ ?_) fun line hline ↦ ?_
  · rcases hmem line hline with rfl | hline
    · exact List.not_mem_nil
    · exact hnl line hline
  · rcases hmem line hline with rfl | hline
    · exact nofun
    · exact hcr line hline

/-- **A printed document is read as the same document**, but for the numbers of lines, when no line
of the source ends in a carriage return that would be lost. A line break behind it makes no
difference, and printing what was read gives the same text. -/
theorem parse_print {source : String} {doc : Section U} (h : parse source = .ok doc)
    (hcr : ∀ line ∈ lines source.toList, line.getLast? ≠ some '\r') :
    ∃ again : Section U, parse doc.print = .ok again ∧ parse (doc.print ++ "\n") = .ok again ∧
      again.forgetLines = doc.forgetLines ∧ again.print = doc.print := by
  obtain ⟨first, rest, name, items, entries, hlines, hroot, hgathers, hentries, rfl⟩ :=
    ofLines_eq_ok_iff.mp (parse_eq_ok_iff.mp h)
  obtain ⟨again, hagain, hforget⟩ := exists_entries_relayout 2 hentries
  have hprint := print_eq_layout first name hgathers.isProper hentries
  have hnl : ∀ line ∈ first :: rest, '\n' ∉ line :=
    fun line hline ↦ newline_notMem_of_mem_lines (hlines ▸ hline)
  -- The two texts differ in their last lines alone: no line, or one that is empty.
  have hread : ∀ tail : List Line, (∀ line ∈ tail, line = []) →
      parse (String.ofList (unlines (first :: (layout items ++ tail))))
        = .ok (⟨headerAt 1 1 name first, nest again⟩ : Section U) := by
    intro tail htail
    have hblank : ∀ line ∈ tail, lineKind line = .blank := fun line hline ↦ by
      rw [htail line hline, lineKind_nil]
    rw [parse_eq_ok_iff, String.toList_ofList,
      lines_layout hgathers hnl (fun line hline ↦ hcr line (hlines ▸ hline)) htail,
      ofLines_eq_ok_iff]
    exact ⟨first, layout items ++ tail, name, relayout 2 items, again, rfl, hroot,
      gathers_layout hgathers.isProper hgathers.levelsFit hblank, hagain, rfl⟩
  have hsame : Section.forgetLines ⟨headerAt 1 1 name first, nest again⟩
      = Section.forgetLines ⟨headerAt 1 1 name first, nest entries⟩ := by
    rw [Section.forgetLines, Section.forgetLines, ← nest_map_forgetLines, hforget,
      nest_map_forgetLines]
  refine ⟨⟨headerAt 1 1 name first, nest again⟩, ?_, ?_, hsame, ?_⟩
  · have h := hread [] fun _ h ↦ absurd h List.not_mem_nil
    rwa [List.append_nil, ← hprint] at h
  · have h := hread [[]] (List.forall_mem_singleton.mpr rfl)
    have hbreak : String.ofList (unlines (first :: (layout items ++ [[]])))
        = String.ofList (unlines (first :: layout items)) ++ "\n" := by
      rw [← List.cons_append, unlines_append (List.cons_ne_nil _ _) (List.cons_ne_nil _ _),
        unlines_singleton, String.ofList_append]
    rwa [hbreak, ← hprint] at h
  · rw [← Section.print_forgetLines, hsame, Section.print_forgetLines]

/-- A source with a block of each kind and too many empty lines, some missing. -/
def scattered : String :=
  "# A\n\n\ntext\nmore\n\n\n\t*\tx\n\t*\t2\n## B\n```js\nc\n```\nlast\n\n"

theorem parse_print_scattered :
    (∀ line ∈ lines scattered.toList, line.getLast? ≠ some '\r') ∧
      ∃ doc again : Section Empty, parse scattered = .ok doc ∧ parse doc.print = .ok again ∧
        parse (doc.print ++ "\n") = .ok again ∧ again.forgetLines = doc.forgetLines ∧
        again.print = doc.print := by
  have hcr : ∀ line ∈ lines scattered.toList, line.getLast? ≠ some '\r' := by decide +kernel
  obtain ⟨doc, hdoc⟩ : ∃ doc : Section Empty, parse scattered = .ok doc := ⟨_, rfl⟩
  obtain ⟨again, hagain⟩ := parse_print hdoc hcr
  exact ⟨hcr, doc, again, hdoc, hagain⟩

end Document

end DataOutline
