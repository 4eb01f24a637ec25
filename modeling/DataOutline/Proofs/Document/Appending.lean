import DataOutline.Proofs.Document.Outline

/-!
# Appending to a source

A source that is a document already can be written on. What is behind an empty line joins no block
above it, so the items of the longer source are those of the shorter one and more, all further down.
Nesting puts these more items into the sections that are still open: the root, the last section in
it if that is its last child, and so on down. Nothing else of the document changes.
-/

namespace DataOutline

open Text

variable {U : Type}

namespace Document

/-! ## More items -/

/-- A line that is put before items joins none of those behind them, if none of these starts right
below it. -/
theorem Joins.append {run : Nat → List Line → Item} {n : Nat} {line : Line}
    {items items' more all : List Item} (h : Joins run n line items items')
    (h' : Joins run n line (items ++ more) all) (hline : ∀ n ls, (run n ls).line = n)
    (hlines : ∀ n ls, (run n ls).lines = ls) (apart : ∀ next ∈ more.head?, next.line ≠ n + 1) :
    all = items' ++ more := by
  generalize hlist : items ++ more = list at h'
  cases h with
  | apart hitems =>
    cases h' with
    | apart => rw [← hlist, List.cons_append]
    | grown ls rest =>
      -- The run that takes the line in is the first of the items, or it stands behind them.
      cases items with
      | nil =>
        rw [List.nil_append] at hlist
        rw [hlist] at apart
        exact absurd (hline _ _) (apart _ rfl)
      | cons first tail => exact absurd (by rw [(List.cons.inj hlist).1]) (hitems ls tail)
  | grown ls rest =>
    cases h' with
    | apart hitems => exact absurd hlist.symm (hitems _ _)
    | grown ls' rest' =>
      obtain ⟨hrun, rfl⟩ := List.cons.inj hlist
      have hls : ls = ls' := by rw [← hlines (n + 1) ls, hrun, hlines]
      rw [hls]
      rfl

/-- **Lines behind an empty line leave the items above it as they are.** -/
theorem Gathers.append {n d : Nat} {ls more : List Line} {items all : List Item}
    (h : Gathers n d ls items) (h' : gather n d none (ls ++ [] :: more) = .ok all) :
    ∃ d' added, all = items ++ added ∧ Gathers (n + ls.length + 1) d' more added := by
  have hlength : ∀ (n : Nat) (line : Line) (rest : List Line),
      n + (line :: rest).length = n + 1 + rest.length := by
    intro n line rest
    rw [List.length_cons]
    omega
  induction h generalizing all with
  | nil n d =>
    rw [List.nil_append, gather_none_cons, lineKind_nil] at h'
    exact ⟨d, all, rfl, gather_eq_ok_iff.mp h'⟩
  | @blank n d line rest items kind _ ih =>
    rw [List.cons_append, gather_none_cons, kind] at h'
    obtain ⟨d', added, rfl, hadded⟩ := ih h'
    exact ⟨d', added, rfl, by rwa [hlength]⟩
  | @header n d level line name rest items kind deep root _ ih =>
    rw [List.cons_append, gather_none_cons, kind] at h'
    simp only [if_neg (Nat.not_lt.mpr deep), if_neg root] at h'
    obtain ⟨all, hall, rfl⟩ := map_eq_ok_iff.mp h'
    obtain ⟨d', added, rfl, hadded⟩ := ih hall
    exact ⟨d', added, rfl, by rwa [hlength]⟩
  | @value n d line rest items kind _ ih =>
    rw [List.cons_append, gather_none_cons, kind] at h'
    obtain ⟨all, hall, rfl⟩ := map_eq_ok_iff.mp h'
    obtain ⟨d', added, rfl, hadded⟩ := ih hall
    refine ⟨d', added, ?_, by rwa [hlength]⟩
    refine (joins_consValue n line items).append (joins_consValue _ _ _) (fun _ _ ↦ rfl)
      (fun _ _ ↦ rfl) fun next hnext ↦ ?_
    have := hadded.tiles.le_line next (List.mem_of_mem_head? hnext)
    omega
  | @text n d line rest items kind _ ih =>
    rw [List.cons_append, gather_none_cons, kind] at h'
    obtain ⟨all, hall, rfl⟩ := map_eq_ok_iff.mp h'
    obtain ⟨d', added, rfl, hadded⟩ := ih hall
    refine ⟨d', added, ?_, by rwa [hlength]⟩
    refine (joins_consText n line items).append (joins_consText _ _ _) (fun _ _ ↦ rfl)
      (fun _ _ ↦ rfl) fun next hnext ↦ ?_
    have := hadded.tiles.le_line next (List.mem_of_mem_head? hnext)
    omega
  | @code n d line language ls rest items kind within _ ih =>
    rw [List.cons_append, List.append_assoc, List.cons_append, gather_none_cons, kind] at h'
    simp only [gather_some_append within] at h'
    obtain ⟨all, hall, rfl⟩ := map_eq_ok_iff.mp h'
    rw [show n + 1 + ls.length + 1 = n + ls.length + 2 by omega] at hall
    obtain ⟨d', added, rfl, hadded⟩ := ih hall
    refine ⟨d', added, rfl, ?_⟩
    rw [List.length_cons, List.length_append, List.length_cons]
    convert hadded using 1
    omega

/-! ## More children -/

/-- `Extends n nodes nodes'`: the first children are the second ones without some that start behind
line `n`. These are the last ones, or the last ones of a section that is the last child, and so on
down. -/
inductive Extends (n : Nat) : List (Node U) → List (Node U) → Prop
  | added {more : List (Node U)} (behind : ∀ node ∈ more, n < node.line) : Extends n [] more
  | inside {header : Header} {children children' more : List (Node U)}
      (inner : Extends n children children') (behind : ∀ node ∈ more, n < node.line) :
      Extends n [.subsection header children] (.subsection header children' :: more)
  | cons (node : Node U) {nodes nodes' : List (Node U)} (rest : Extends n nodes nodes') :
      Extends n (node :: nodes) (node :: nodes')

/-- A header that takes in the children up to one that is not below it takes in as many of more
children, and more of them only if it takes in all of the fewer ones. -/
theorem Extends.cut {n : Nat} {nodes nodes' : List (Node U)} (h : Extends n nodes nodes')
    (level : Nat) :
    (nodes.dropWhile (belongsBelow level) = [] ∧
      Extends n (nodes.takeWhile (belongsBelow level)) (nodes'.takeWhile (belongsBelow level)) ∧
      ∀ node ∈ nodes'.dropWhile (belongsBelow level), n < node.line) ∨
    (nodes.takeWhile (belongsBelow level) = nodes'.takeWhile (belongsBelow level) ∧
      Extends n (nodes.dropWhile (belongsBelow level))
        (nodes'.dropWhile (belongsBelow level))) := by
  induction h with
  | @added more behind =>
    refine Or.inl ⟨rfl, .added fun node hnode ↦ ?_, fun node hnode ↦ ?_⟩
    · exact behind node ((List.takeWhile_sublist _).subset hnode)
    · exact behind node ((List.dropWhile_sublist _).subset hnode)
  | @inside header children children' more inner behind _ =>
    by_cases hbelow : belongsBelow (U := U) level (.subsection header children) = true
    · have hbelow' : belongsBelow (U := U) level (.subsection header children') = true := hbelow
      rw [List.takeWhile_cons_of_pos hbelow, List.takeWhile_cons_of_pos hbelow',
        List.dropWhile_cons_of_pos hbelow, List.dropWhile_cons_of_pos hbelow']
      refine Or.inl ⟨rfl, .inside inner fun node hnode ↦ ?_, fun node hnode ↦ ?_⟩
      · exact behind node ((List.takeWhile_sublist _).subset hnode)
      · exact behind node ((List.dropWhile_sublist _).subset hnode)
    · have hbelow' : ¬belongsBelow (U := U) level (.subsection header children') = true := hbelow
      rw [List.takeWhile_cons_of_neg hbelow, List.takeWhile_cons_of_neg hbelow',
        List.dropWhile_cons_of_neg hbelow, List.dropWhile_cons_of_neg hbelow']
      exact Or.inr ⟨rfl, .inside inner behind⟩
  | @cons node nodes nodes' rest ih =>
    by_cases hbelow : belongsBelow level node = true
    · rw [List.takeWhile_cons_of_pos hbelow, List.takeWhile_cons_of_pos hbelow,
        List.dropWhile_cons_of_pos hbelow, List.dropWhile_cons_of_pos hbelow]
      rcases ih with ⟨hend, hinner, hbehind⟩ | ⟨hsame, hrest⟩
      · exact Or.inl ⟨hend, hinner.cons node, hbehind⟩
      · exact Or.inr ⟨by rw [hsame], hrest⟩
    · rw [List.takeWhile_cons_of_neg hbelow, List.takeWhile_cons_of_neg hbelow,
        List.dropWhile_cons_of_neg hbelow, List.dropWhile_cons_of_neg hbelow]
      exact Or.inr ⟨rfl, rest.cons node⟩

theorem exists_entry_of_mem_nest {entries : List (Entry U)} :
    ∀ node ∈ nest entries, ∃ e ∈ entries, e.span.line = node.line := by
  induction entries with
  | nil => exact fun _ h ↦ absurd h List.not_mem_nil
  | cons entry entries ih =>
    have hrest : ∀ nodes : List (Node U), nodes.Sublist (nest entries) → ∀ node ∈ nodes,
        ∃ e ∈ entry :: entries, e.span.line = node.line := by
      intro nodes hsub node hnode
      obtain ⟨e, he, hline⟩ := ih node (hsub.subset hnode)
      exact ⟨e, List.mem_cons_of_mem _ he, hline⟩
    cases entry with
    | leaf node =>
      refine List.forall_mem_cons.mpr ⟨⟨_, List.mem_cons_self, ?_⟩, hrest _ (List.Sublist.refl _)⟩
      cases node <;> rfl
    | header h =>
      rw [nest_header_cons]
      exact List.forall_mem_cons.mpr ⟨⟨_, List.mem_cons_self, rfl⟩,
        hrest _ (List.dropWhile_sublist _)⟩

/-- **Nesting more entries extends the children.** -/
theorem extends_nest {n : Nat} (entries : List (Entry U)) {more : List (Entry U)}
    (behind : ∀ e ∈ more, n < e.span.line) : Extends n (nest entries) (nest (entries ++ more)) := by
  induction entries with
  | nil =>
    refine .added fun node hnode ↦ ?_
    obtain ⟨e, he, hline⟩ := exists_entry_of_mem_nest node hnode
    exact hline ▸ behind e he
  | cons entry entries ih =>
    cases entry with
    | leaf node => exact ih.cons node
    | header h =>
      rw [List.cons_append, nest_header_cons, nest_header_cons]
      rcases ih.cut h.level with ⟨hend, hinner, hbehind⟩ | ⟨hsame, hrest⟩
      · rw [hend]
        exact .inside hinner hbehind
      · rw [hsame]
        exact hrest.cons _

/-! ## The longer document -/

theorem lines_append_blank (text text' : List Char) :
    lines (text ++ '\n' :: '\n' :: text') = lines text ++ [] :: lines text' := by
  rw [lines_append_newline, lines, lines, rawLines_newline_cons, List.map_cons, ← lines]
  rfl

theorem values_nest {header : Header} {items : List Item} {entries : List (Entry U)}
    (reads : List.Forall₂ (fun item entry ↦ Entry.ofItem item = .ok entry) items entries) :
    Section.values ⟨header, nest entries⟩ = entries.filterMap Entry.value? := by
  rw [Section.values_eq, Section.entries, entriesAll_nest reads]
  rfl

theorem behind_of_reads {n : Nat} {ls : List Line} {items : List Item} {entries : List (Entry U)}
    (tiles : Tiles (n + 1) ls items)
    (reads : List.Forall₂ (fun item entry ↦ Entry.ofItem item = .ok entry) items entries) :
    ∀ e ∈ entries, n < e.span.line := by
  intro e he
  obtain ⟨item, hitem, hread⟩ := exists_of_forall₂ reads.flip he
  rw [(Entry.ofItem_spec (tiles.proper item hitem) hread).1]
  exact tiles.le_line item hitem

/-- **Writing on leaves what is there as it is.** If a source is a document and so is the source
with an empty line and more behind it, the values of the first document are the first values of the
second, and the first document is the second without some children of its open sections, all of
which start behind the source. -/
theorem append_extends {source added : String} {doc doc' : Section U}
    (h : parse source = .ok doc) (h' : parse (source ++ "\n\n" ++ added) = .ok doc') :
    doc.values <+: doc'.values ∧ doc'.header = doc.header ∧
      Extends (lines source.toList).length doc.children doc'.children := by
  obtain ⟨first, rest, name, items, entries, hlines, hroot, hgathers, hentries, rfl⟩ :=
    ofLines_eq_ok_iff.mp (parse_eq_ok_iff.mp h)
  obtain ⟨first', rest', name', items', entries', hlines', hroot', hgathers', hentries', rfl⟩ :=
    ofLines_eq_ok_iff.mp (parse_eq_ok_iff.mp h')
  have htext : (source ++ "\n\n" ++ added).toList
      = source.toList ++ '\n' :: '\n' :: added.toList := by
    rw [String.toList_append, String.toList_append, List.append_assoc]
    rfl
  rw [htext, lines_append_blank, hlines, List.cons_append] at hlines'
  obtain ⟨rfl, rfl⟩ := List.cons.inj hlines'
  cases hroot.symm.trans hroot'
  -- The longer source has more items, and so it has more entries.
  obtain ⟨d, more, rfl, hmore⟩ := hgathers.append (gather_eq_ok_iff.mpr hgathers')
  have hread := mapM_eq_ok_iff.mpr hentries'
  rw [List.mapM_append, mapM_eq_ok_iff.mpr hentries, ok_bind] at hread
  obtain ⟨entered, hentered, ⟨⟩⟩ := bind_eq_ok_iff.mp hread
  have hreads := mapM_eq_ok_iff.mp hentered
  have hlength : 2 + rest.length = (lines source.toList).length + 1 := by
    rw [hlines, List.length_cons]
    omega
  have hbehind : ∀ e ∈ entered, (lines source.toList).length < e.span.line := by
    intro e he
    have hlt := behind_of_reads hmore.tiles hreads e he
    omega
  refine ⟨?_, rfl, extends_nest entries hbehind⟩
  rw [values_nest hentries, values_nest hentries', List.filterMap_append]
  exact List.prefix_append _ _

/-- A root that holds a value and a section of two levels. -/
def opened : String := "# A\n\t1\n## B\n### C\ntext"

/-- Text for the innermost section, a section beside it, and one beside the section that holds
both. -/
def continued : String := "more\n### D\n\t2\n## E"

theorem append_extends_continued :
    ∃ doc doc' : Section Empty, parse opened = .ok doc ∧
      parse (opened ++ "\n\n" ++ continued) = .ok doc' ∧
      doc.values <+: doc'.values ∧ doc'.header = doc.header ∧
      Extends (lines opened.toList).length doc.children doc'.children := by
  have hread : (parse (U := Empty) opened).toOption.isSome = true := by decide +kernel
  have hread' : (parse (U := Empty) (opened ++ "\n\n" ++ continued)).toOption.isSome = true := by
    decide +kernel
  obtain ⟨doc, hdoc⟩ := Option.isSome_iff_exists.mp hread
  obtain ⟨doc', hdoc'⟩ := Option.isSome_iff_exists.mp hread'
  have hparse := toOption_eq_some_iff.mp hdoc
  have hparse' := toOption_eq_some_iff.mp hdoc'
  exact ⟨doc, doc', hparse, hparse', append_extends hparse hparse'⟩

end Document

end DataOutline
