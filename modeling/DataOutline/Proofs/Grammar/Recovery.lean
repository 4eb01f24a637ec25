import DataOutline.Proofs.Document.Partition
import DataOutline.Proofs.Grammar.Cutting
import DataOutline.Proofs.Grammar.Parting
import DataOutline.Proofs.Grammar.Returns

/-!
# What is spelled is read back

Every value that lines can express is read back from each of its spellings, whatever it is part of.
By induction on the value: the lines of a spelling all count, being neither blank nor comments, so
none of them is dropped; its first line shows the kind of the value; and the lines are cut exactly
where one part ends and the next one begins, since the lines of a part below its first are indented
while what introduces the next part is not.
-/

namespace DataOutline

open Text Grammar

variable {U : Type}

namespace ValueTree

/-! ## Reading a spelling -/

theorem exists_elements {passages : List Passage} {ts : List (ValueTree U)}
    (h : List.Forall₂ (fun q t ↦ ∃ inner, Spells t inner ∧ q.Shows inner) passages ts)
    (each : ∀ t ∈ ts, ∀ ls, Spells t ls → ∀ p : Passage, p.Shows ls →
      ∃ t', read p = .ok t' ∧ t'.bare = t.bare) :
    ∃ ts' : List (ValueTree U), List.Forall₂ (fun q t ↦ read q = .ok t) passages ts' ∧
      bareAll ts' = bareAll ts := by
  induction h with
  | nil => exact ⟨[], .nil, rfl⟩
  | @cons q t passages ts hq _ ih =>
    obtain ⟨ht, hts⟩ := List.forall_mem_cons.mp each
    obtain ⟨inner, hinner, hshows⟩ := hq
    obtain ⟨t', hread, hbare⟩ := ht inner hinner q hshows
    obtain ⟨ts', hreads, hbares⟩ := ih hts
    exact ⟨t' :: ts', .cons hread hreads, by rw [bareAll, bareAll, hbare, hbares]⟩

theorem exists_entries {named : List (String × Passage)} {es : List (String × ValueTree U)}
    (h : ShowEntries named es)
    (each : ∀ e ∈ es, ∀ ls, Spells e.2 ls → ∀ p : Passage, p.Shows ls →
      ∃ t', read p = .ok t' ∧ t'.bare = e.2.bare) :
    ∃ es' : List (String × ValueTree U), List.Forall₂ ReadsNamed named es' ∧
      bareEntries es' = bareEntries es := by
  induction h with
  | nil => exact ⟨[], .nil, rfl⟩
  | @cons e e' named es he _ ih =>
    obtain ⟨hfirst, hes⟩ := List.forall_mem_cons.mp each
    obtain ⟨hname, inner, hinner, hshows⟩ := he
    obtain ⟨t', hread, hbare⟩ := hfirst inner hinner e.2 hshows
    obtain ⟨es', hreads, hbares⟩ := ih hes
    refine ⟨(e'.1, t') :: es', .cons ⟨hname, hread⟩ hreads, ?_⟩
    rw [bareEntries, hbare, hbares]
    rfl

/-- **A passage that shows a spelling of a value is read as this value.** -/
theorem read_spelled {t : ValueTree U} (expressible : Expressible t) {ls : List Line}
    (h : Spells t ls) {p : Passage} (shows : p.Shows ls) :
    ∃ t', read p = .ok t' ∧ t'.bare = t.bare := by
  induction t using ValueTree.induction generalizing ls p with
  | array block unordered elements ih =>
    have spelled := h.isSpelled expressible
    cases expressible with
    | array _ _ nonempty each =>
      cases h with
      | array _ hspells =>
        obtain ⟨l, ls, text, rfl, hmarker⟩ := hspells.exists_marker nonempty
        have hcontent := shows.content spelled (List.cons_ne_nil _ _)
        -- The kind of the array is open until its first marker is read.
        have hnone : ∀ k ∈ (none : Option Bool), k = unordered := fun _ hk ↦ nomatch hk
        obtain ⟨passages, hcut, hpassages⟩ := elements_spelled hspells hnone hcontent
        obtain ⟨head, rest, hlines, rfl, -⟩ := List.map_eq_cons_iff.mp hcontent
        obtain ⟨ts, hreads, hbare⟩ := exists_elements hpassages
          fun t ht ls hls p hp ↦ ih t ht (each t ht) hls hp
        rw [hlines] at hcut
        refine ⟨_, read_eq_ok_iff.mpr (.array hlines hmarker hcut hreads), ?_⟩
        rw [bare, bare, hbare]
  | object block es ih =>
    have spelled := h.isSpelled expressible
    cases expressible with
    | object _ nonempty each =>
      cases h with
      | object _ hspells =>
        obtain ⟨l, ls, key, rfl, hkey, -⟩ := hspells.exists_key nonempty
        have hcontent := shows.content spelled (List.cons_ne_nil _ _)
        obtain ⟨named, hcut, hnamed⟩ :
            ∃ named, entries .word false p.content = .ok ([], named) ∧ _ :=
          entries_spelled hspells hcontent
        obtain ⟨head, rest, hlines, rfl, -⟩ := List.map_eq_cons_iff.mp hcontent
        obtain ⟨es', hreads, hbare⟩ := exists_entries hnamed
          fun e he ls hls p hp ↦ ih e he (each e he) hls hp
        rw [hlines] at hcut
        refine ⟨_, read_eq_ok_iff.mpr
          (.object hlines (marker?_eq_none_of_key hkey) hkey hcut hreads), ?_⟩
        rw [bare, bare, hbare]
  | mixin block base removals es ih =>
    have spelled := h.isSpelled expressible
    have nonempty := h.ne_nil expressible
    cases expressible with
    | mixin _ isBase paths distinct changes each =>
      have hcontent := shows.content spelled nonempty
      -- Which lines spell the additions depends on the form of the header, so this is said of all
      -- their spellings.
      have hadded : ∀ inner, SpellsEntries .path es inner → ∀ l ∈ inner, IsSpelled l :=
        fun inner hinner ↦ hinner.isSpelled fun e he ls hls ↦ hls.isSpelled (each e he)
      obtain ⟨head, rest, hlines⟩ : ∃ head rest, p.content = head :: rest := by
        refine List.exists_cons_of_ne_nil fun hnil ↦ nonempty ?_
        rw [← hcontent, hnil, List.map_nil]
      rw [hlines] at hcontent
      obtain ⟨tail, clause, text, named, hheader, hmixin, hcut, hnamed⟩ :=
        mixinParts_spelled isBase paths distinct changes hadded h hcontent
      obtain ⟨es', hreads, hbare⟩ := exists_entries hnamed
        fun e he ls hls p hp ↦ ih e he (each e he) hls hp
      obtain ⟨hmarker, hkey⟩ := header_eq_none isBase tail
      rw [← hheader] at hmarker hkey
      refine ⟨_, read_eq_ok_iff.mpr (.mixin hlines hmarker hkey hmixin hcut hreads), ?_⟩
      rw [bare, bare, hbare]
  | expression block code =>
    have spelled := h.isSpelled expressible
    cases expressible with
    | expression _ isCode =>
      cases h with
      | expression =>
        have hcontent := shows.content spelled (List.cons_ne_nil _ _)
        obtain ⟨line, rest, hlines, htext, hrest⟩ := List.map_eq_cons_iff.mp hcontent
        obtain rfl := List.map_eq_nil_iff.mp hrest
        refine ⟨_, read_eq_ok_iff.mpr (.expression hlines ?_ ?_ ?_), ?_⟩
        · rw [htext]
          exact isCode.noMarker
        · rw [htext]
          exact isCode.noKey
        · rw [htext]
          exact isCode.noMixin
        · rw [bare, bare, htext, trim_eq_self isCode.first isCode.last, String.ofList_toList]
  | compiled block unit => cases h

end ValueTree

/-! ## Documents of one value -/

namespace Document

theorem withoutReturn_indent (line : Line) :
    withoutReturn (indent line) = indent (withoutReturn line) := by
  rcases line with _ | ⟨c, line⟩
  · rfl
  · rw [indent, withoutReturn, withoutReturn, List.getLast?_cons_cons, List.dropLast_cons_cons]
    split
    · rfl
    · rfl

/-- A root header and one value block, which may be written with carriage returns at the ends of its
lines. -/
theorem parse_indented {ls : List Line} (nonempty : ls ≠ [])
    (notBlank : ∀ l ∈ ls, allBlank l = false) (oneLine : ∀ l ∈ ls, '\n' ∉ l) {tree : ValueTree U}
    (h : readValue 2 ((ls.map withoutReturn).map indent) = .ok tree) :
    parse (String.ofList (unlines (['#'] :: ls.map indent)))
      = .ok ⟨headerAt 1 1 [] ['#'], [.value tree]⟩ := by
  have hlines : lines (unlines (['#'] :: ls.map indent)) =
      ['#'] :: (ls.map withoutReturn).map indent := by
    have hone : ∀ l ∈ ls.map indent, '\n' ∉ l := by
      intro l hl
      obtain ⟨l, hmem, rfl⟩ := List.mem_map.mp hl
      exact List.not_mem_cons_of_ne_of_not_mem (by decide) (oneLine l hmem)
    rw [lines, rawLines_unlines (List.cons_ne_nil _ _) (List.forall_mem_cons.mpr ⟨by decide, hone⟩),
      List.map_cons, List.map_map, List.map_map]
    exact congrArg (['#'] :: ·) (List.map_congr_left fun l _ ↦ withoutReturn_indent l)
  generalize hvalue : (ls.map withoutReturn).map indent = block at h hlines
  have hkind : ∀ l ∈ block, lineKind l = .value := by
    intro l hl
    obtain ⟨l, hmem, rfl⟩ := List.mem_map.mp (hvalue ▸ hl)
    obtain ⟨raw, hraw, rfl⟩ := List.mem_map.mp hmem
    refine isValueLine_iff.mp ⟨rfl, ?_⟩
    rw [indent, allBlank_tab, (WithReturns.withoutReturn raw).allBlank_eq]
    exact notBlank raw hraw
  have hgathers : Gathers 2 1 block [.value 2 block] := by
    have hproper : (Item.value 2 block).IsProper := by
      refine ⟨?_, hkind⟩
      rintro rfl
      exact nonempty (List.map_eq_nil_iff.mp (List.map_eq_nil_iff.mp hvalue))
    have hitem : Gathers 2 1 ((Item.value 2 block).lines ++ [])
        [(Item.value 2 block).moveTo 2] :=
      gathers_item hproper trivial (fun _ hnext ↦ absurd hnext (Option.not_mem_none _)) (.nil _ _)
    rwa [List.append_nil] at hitem
  have hentry : Entry.ofItem (U := U) (.value 2 block) = .ok (.leaf (.value tree)) :=
    bind_eq_ok_iff.mpr ⟨tree, h, rfl⟩
  rw [parse_eq_ok_iff, String.toList_ofList, hlines, ofLines_eq_ok_iff]
  exact ⟨['#'], block, [], [.value 2 block], [.leaf (.value tree)], rfl, rfl, hgathers,
    .cons hentry .nil, rfl⟩

/-- A root header and one value block, for lines that can be written and cut out again. -/
theorem parse_block {ls : List Line} (spelled : ∀ l ∈ ls, IsSpelled l) (nonempty : ls ≠ [])
    {tree : ValueTree U} (h : readValue 2 (ls.map indent) = .ok tree) :
    parse (String.ofList (unlines (['#'] :: ls.map indent)))
      = .ok ⟨headerAt 1 1 [] ['#'], [.value tree]⟩ := by
  have hmap : ls.map withoutReturn = ls.map fun l ↦ l :=
    List.map_congr_left fun l hl ↦ withoutReturn_eq_self (spelled l hl).noReturn
  refine parse_indented nonempty (fun l hl ↦ (spelled l hl).notBlank)
    (fun l hl ↦ (spelled l hl).oneLine) ?_
  rw [hmap, List.map_id']
  exact h

theorem map_text_numbered_indent (line : Nat) (ls : List Line) :
    (numbered line (ls.map indent)).map (·.text) = ls := by
  rw [map_text_numbered, List.map_map]
  exact List.map_id' ls

end Document

/-- **Every value that lines can express has a spelling, and every spelling of it is read back as
this value**, wherever its lines stand, and in a document that consists of nothing else. -/
theorem Expressible.reads_back {t : ValueTree U} (h : Expressible t) :
    (∃ ls, Spells t ls) ∧ ∀ ls, Spells t ls →
      (∀ p : Passage, p.lines.map (·.text) = ls →
        ∃ t' : ValueTree U, ValueTree.read p = .ok t' ∧ t'.bare = t.bare) ∧
      ∃ t' : ValueTree U, t'.bare = t.bare ∧
        Document.parse (String.ofList (unlines (['#'] :: ls.map indent)))
          = .ok ⟨Document.headerAt 1 1 [] ['#'], [.value t']⟩ := by
  refine ⟨h.exists_spells, fun ls hspells ↦ ?_⟩
  have hread : ∀ p : Passage, p.lines.map (·.text) = ls →
      ∃ t' : ValueTree U, ValueTree.read p = .ok t' ∧ t'.bare = t.bare :=
    fun p hp ↦ ValueTree.read_spelled h hspells (Or.inl hp)
  refine ⟨hread, ?_⟩
  have nonempty := hspells.ne_nil h
  have hnumbered := Document.map_text_numbered_indent 2 ls
  obtain ⟨first, more, hlines⟩ :
      ∃ first more, Document.numbered 2 (ls.map indent) = first :: more := by
    refine List.exists_cons_of_ne_nil fun hnil ↦ nonempty ?_
    rw [← hnumbered, hnil, List.map_nil]
  rw [hlines] at hnumbered
  obtain ⟨t', ht', hbare⟩ := hread ⟨first, more⟩ hnumbered
  refine ⟨t'.withBlock ⟨t'.block.span, String.ofList (unlines (ls.map indent))⟩, ?_,
    Document.parse_block (hspells.isSpelled h) nonempty ?_⟩
  · rw [ValueTree.bare_withBlock, hbare]
  · rw [Document.readValue, hlines]
    exact bind_eq_ok_iff.mpr ⟨t', ht', rfl⟩

/-- A mixin that removes two paths and adds an array under a name that needs quotes. -/
def patched : ValueTree Empty :=
  .mixin Block.none "user" ["a", "b.0"]
    [("x y", .array Block.none true [.expression Block.none "1", .expression Block.none "n + 1"])]

theorem reads_back_patched :
    Expressible patched ∧ ∃ t' : ValueTree Empty, t'.bare = patched.bare ∧
      Document.parse "#\n\tuser without a, b.0; with \"x y\":\n\t\t\t@\t1\n\t\t\t@\t\n\t\t\t\tn + 1"
        = .ok ⟨Document.headerAt 1 1 [] ['#'], [.value t']⟩ := by
  have hone : IsCode "1".toList :=
    ⟨nofun, by decide, fun c hc ↦ by cases hc; rfl, fun c hc ↦ by cases hc; rfl, by decide, rfl,
      rfl, rfl⟩
  have hsum : IsCode "n + 1".toList :=
    ⟨nofun, by decide, fun c hc ↦ by cases hc; rfl, fun c hc ↦ by cases hc; rfl, by decide, rfl,
      rfl, rfl⟩
  have hbase : IsBase "user".toList := ⟨rfl, fun c hc ↦ by cases hc; rfl⟩
  have h : Expressible patched := by
    refine .mixin _ hbase (by decide +kernel) (by decide) (Or.inl (by decide)) ?_
    refine List.forall_mem_singleton.mpr (.array _ _ (List.cons_ne_nil _ _) ?_)
    exact List.forall_mem_cons.mpr
      ⟨.expression _ hone, List.forall_mem_singleton.mpr (.expression _ hsum)⟩
  -- The name goes on the line of the header and its value below; of the elements, the first goes
  -- on the line of its marker, the second below.
  have helements : SpellsElements (U := Empty) true
      [.expression Block.none "1", .expression Block.none "n + 1"] _ :=
    .cons (.expression _ _) (.inline _ _) (.cons (.expression _ _) (.below _) (.nil _))
  have hentries : SpellsEntries (U := Empty) .path
      [("x y", .array Block.none true [.expression Block.none "1", .expression Block.none "n + 1"])]
      _ := .cons (.quoted _) (.array _ helements) (.below _) (.nil _)
  have hspells : Spells patched _ :=
    .combined _ (by decide) (List.cons_ne_nil _ _) hentries (.inline _ _)
  obtain ⟨t', hbare, hparse⟩ := (h.reads_back.2 _ hspells).2
  exact ⟨h, t', hbare, hparse⟩

end DataOutline
