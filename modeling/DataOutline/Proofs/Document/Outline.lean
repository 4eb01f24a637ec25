import DataOutline.Proofs.Document.Acceptance
import DataOutline.Proofs.Document.Partition

/-!
# How sections are nested

The header lines of a source, from the first to the last, are the headers of the sections of its
document in preorder. A section holds its blocks first and then its sections, each one level deeper
than itself. Nothing else is needed to find the place of a header or of a block from the lines above
it: in preorder all that a section holds stands together behind its header, and all headers in there
are deeper.
-/

namespace DataOutline

open Text

variable {U : Type}

/-! ## Headers and values in preorder -/

def Document.Met.header? (m : Document.Met) : Option Header :=
  (Document.header? m.line).map fun (level, name) ↦ Document.headerAt m.number level name m.line

def Item.header? : Item → Option Header
  | .header h => some h
  | .text _ _ | .value _ _ | .code _ _ _ => none

namespace Document.Entry

def header? : Entry U → Option Header
  | .header h => some h
  | .leaf _ => none

def value? : Entry U → Option (ValueTree U)
  | .leaf (.value tree) => some tree
  | _ => none

theorem header?_eq_some_iff {e : Entry U} {h : Header} : e.header? = some h ↔ e = .header h := by
  cases e <;> simp [header?]

theorem value?_eq_some_iff {e : Entry U} {t : ValueTree U} :
    e.value? = some t ↔ e = .leaf (.value t) := by
  rcases e with h | ⟨_ | _ | _ | _⟩ <;> simp [value?]

end Document.Entry

open Document (Entry)

namespace Node

mutual

theorem map_header_sections : ∀ n : Node U,
    n.sections.map Section.header = n.entries.filterMap Entry.header?
  | .subsection header children => by
    rw [sections, entries, List.map_cons, map_header_sectionsAll children]
    rfl
  | .text _ | .code _ _ | .value _ => rfl

theorem map_header_sectionsAll : ∀ ns : List (Node U),
    (sectionsAll ns).map Section.header = (entriesAll ns).filterMap Entry.header?
  | [] => rfl
  | n :: ns => by
    rw [sectionsAll, entriesAll, List.map_append, List.filterMap_append, map_header_sections n,
      map_header_sectionsAll ns]

end

mutual

theorem values_eq : ∀ n : Node U, n.values = n.entries.filterMap Entry.value?
  | .subsection header children => by
    rw [values, entries, valuesAll_eq children]
    rfl
  | .text _ | .code _ _ | .value _ => rfl

theorem valuesAll_eq : ∀ ns : List (Node U),
    valuesAll ns = (entriesAll ns).filterMap Entry.value?
  | [] => rfl
  | n :: ns => by
    rw [valuesAll, entriesAll, List.filterMap_append, values_eq n, valuesAll_eq ns]

end

end Node

namespace Section

theorem map_header_sections (s : Section U) :
    s.sections.map header = s.entries.filterMap Entry.header? := by
  rw [sections, entries, List.map_cons, Node.map_header_sectionsAll]
  rfl

theorem values_eq (s : Section U) : s.values = s.entries.filterMap Entry.value? :=
  Node.valuesAll_eq s.children

theorem mem_headers_iff {s : Section U} {h : Header} :
    h ∈ s.sections.map header ↔ .header h ∈ s.entries := by
  rw [map_header_sections, List.mem_filterMap]
  simp [Entry.header?_eq_some_iff]

theorem mem_values_iff {s : Section U} {t : ValueTree U} :
    t ∈ s.values ↔ .leaf (.value t) ∈ s.entries := by
  rw [values_eq, List.mem_filterMap]
  simp [Entry.value?_eq_some_iff]

theorem mem_subsections_iff {s : Section U} {h : Header} :
    h ∈ s.subsections ↔ ∃ children, .subsection h children ∈ s.children := by
  rw [subsections, List.mem_filterMap]
  constructor
  · rintro ⟨n, hn, hheader⟩
    cases n with
    | subsection h' children =>
      cases hheader
      exact ⟨children, hn⟩
    | text _ | code _ _ | value _ => exact nomatch hheader
  · rintro ⟨children, hn⟩
    exact ⟨_, hn, rfl⟩

def node (s : Section U) : Node U := .subsection s.header s.children

end Section

/-! ## Nesting by levels -/

/-- Whether a child is a block, not a section. -/
def Node.IsBlock : Node U → Prop
  | .subsection _ _ => False
  | .text _ | .code _ _ | .value _ => True

/-- A section that holds its blocks first, and then sections of the next level that are nested in
the same way. -/
inductive Section.Nested : Section U → Prop
  | intro {header : Header} {blocks : List (Node U)} {subs : List (Section U)}
      (blocks_first : ∀ n ∈ blocks, n.IsBlock)
      (levels : ∀ s ∈ subs, s.header.level = header.level + 1)
      (inner : ∀ s ∈ subs, s.Nested) : Nested ⟨header, blocks ++ subs.map Section.node⟩

namespace Document

theorem belongsBelow_of_isBlock {n : Node U} (h : n.IsBlock) (level : Nat) :
    belongsBelow level n = true := by
  cases n with
  | subsection header children => exact h.elim
  | text _ | code _ _ | value _ => rfl

/-- Sections of which none is deeper than the one before it. -/
def Rising (subs : List (Section U)) : Prop :=
  subs.Pairwise fun a b ↦ b.header.level ≤ a.header.level

theorem Rising.level_le_of_mem_dropWhile {subs : List (Section U)} (h : Rising subs) (level : Nat) :
    ∀ s ∈ subs.dropWhile fun s ↦ decide (level < s.header.level), s.header.level ≤ level := by
  induction subs with
  | nil =>
    intro s hs
    simp at hs
  | cons first subs ih =>
    obtain ⟨hfirst, hmore⟩ := List.pairwise_cons.mp h
    intro s hs
    by_cases hlevel : level < first.header.level
    · rw [List.dropWhile_cons_of_pos (by simpa using hlevel)] at hs
      exact ih hmore s hs
    · rw [List.dropWhile_cons_of_neg (by simpa using hlevel)] at hs
      rcases List.mem_cons.mp hs with rfl | hs
      · exact Nat.not_lt.mp hlevel
      · exact Nat.le_trans (hfirst s hs) (Nat.not_lt.mp hlevel)

/-- **What entries are nested into.** The levels of the headers fit, so what comes out is blocks and
then sections, none of them deeper than the one before it, and the first one level below `d` at
most. -/
theorem exists_nest {d : Nat} {items : List Item} {entries : List (Entry U)}
    (fits : LevelsFit d items)
    (reads : List.Forall₂ (fun item entry ↦ Entry.ofItem item = .ok entry) items entries) :
    ∃ blocks subs, nest entries = blocks ++ subs.map Section.node ∧
      (∀ n ∈ blocks, n.IsBlock) ∧ Rising subs ∧
      ∀ s ∈ subs, s.header.level ≤ d + 1 ∧ s.Nested := by
  induction reads generalizing d with
  | nil => exact ⟨[], [], rfl, by simp, .nil, by simp⟩
  | @cons item entry items entries hitem _ ih =>
    obtain ⟨blocks, subs, hnest, hblocks, hrising, hsubs⟩ := ih fits.tail
    -- A block goes in front of the others.
    have hblock : ∀ n : Node U, n.IsBlock → entry = .leaf n → item.levelBehind d = d →
        ∃ blocks subs, nest (entry :: entries) = blocks ++ subs.map Section.node ∧
          (∀ n ∈ blocks, n.IsBlock) ∧ Rising subs ∧
          ∀ s ∈ subs, s.header.level ≤ d + 1 ∧ s.Nested := by
      rintro n hn rfl hlevel
      rw [hlevel] at hsubs
      refine ⟨n :: blocks, subs, ?_, List.forall_mem_cons.mpr ⟨hn, hblocks⟩, hrising, hsubs⟩
      rw [List.cons_append, ← hnest]
      rfl
    cases item with
    | text line ls =>
      cases hitem
      exact hblock (.text _) trivial rfl rfl
    | code line language ls =>
      cases hitem
      exact hblock (.code _ _) trivial rfl rfl
    | value line ls =>
      obtain ⟨tree, -, ⟨⟩⟩ := bind_eq_ok_iff.mp hitem
      exact hblock (.value tree) trivial rfl rfl
    | header h =>
      cases hitem
      -- The header takes in the blocks and the sections in front that are deeper than itself.
      have hdeeper : belongsBelow (U := U) h.level ∘ Section.node
          = fun s ↦ decide (h.level < s.header.level) := rfl
      have htake : (nest entries).takeWhile (belongsBelow h.level) =
          blocks ++
            (subs.takeWhile fun s ↦ decide (h.level < s.header.level)).map Section.node := by
        rw [hnest, List.takeWhile_append_of_pos fun n hn ↦ belongsBelow_of_isBlock (hblocks n hn) _,
          List.takeWhile_map, hdeeper]
      have hdrop : (nest entries).dropWhile (belongsBelow h.level) =
          (subs.dropWhile fun s ↦ decide (h.level < s.header.level)).map Section.node := by
        rw [hnest, List.dropWhile_append_of_pos fun n hn ↦ belongsBelow_of_isBlock (hblocks n hn) _,
          List.dropWhile_map, hdeeper]
      have hbelow := hrising.level_le_of_mem_dropWhile h.level
      have hnested : Section.Nested ⟨h, (nest entries).takeWhile (belongsBelow h.level)⟩ := by
        rw [htake]
        refine .intro hblocks ?_ fun s hs ↦ (hsubs s ((List.takeWhile_sublist _).mem hs)).2
        intro s hs
        have hle : s.header.level ≤ h.level + 1 := (hsubs s ((List.takeWhile_sublist _).mem hs)).1
        have hlt : h.level < s.header.level := by simpa using List.mem_takeWhile_imp hs
        exact Nat.le_antisymm hle hlt
      refine ⟨[], ⟨h, (nest entries).takeWhile (belongsBelow h.level)⟩ ::
        subs.dropWhile fun s ↦ decide (h.level < s.header.level), ?_, by simp, ?_, ?_⟩
      · rw [nest_header_cons, hdrop]
        rfl
      · exact List.pairwise_cons.mpr ⟨hbelow, hrising.sublist (List.dropWhile_sublist _)⟩
      · intro s hs
        rcases List.mem_cons.mp hs with rfl | hs
        · exact ⟨fits.1, hnested⟩
        · refine ⟨Nat.le_trans (hbelow s hs) fits.1, ?_⟩
          exact (hsubs s ((List.dropWhile_sublist _).mem hs)).2

/-! ## The header lines of a source -/

theorem scan_header {n level : Nat} {line name : Line} (rest : List Line)
    (h : lineKind line = .header level name) :
    (scan false n (line :: rest)).filterMap Met.header? =
      headerAt n level name line :: (scan false (n + 1) rest).filterMap Met.header? := by
  have hfence : ¬fence <+: line := by
    intro hp
    obtain ⟨language, hlanguage⟩ := fence_prefix_iff.mp hp
    exact nomatch h.symm.trans hlanguage
  have hheader : Met.header? ⟨n, line, rest⟩ = some (headerAt n level name line) := by
    rw [Met.header?, header?_eq_some_iff.mpr h]
    rfl
  rw [scan_line n rest hfence, List.filterMap_cons_some hheader]

theorem header?_eq_none {m : Met} (h : ∀ level name, lineKind m.line ≠ .header level name) :
    m.header? = none := by
  rw [Met.header?, Option.map_eq_none_iff, Option.eq_none_iff_forall_not_mem]
  rintro ⟨level, name⟩ hheader
  exact h level name (header?_eq_some_iff.mp hheader)

theorem Joins.filterMap_header? {run : Nat → List Line → Item} {n : Nat} {line : Line}
    {items items' : List Item} (h : Joins run n line items items')
    (hrun : ∀ m ls, (run m ls).header? = none) :
    items'.filterMap Item.header? = items.filterMap Item.header? := by
  cases h with
  | apart => rw [List.filterMap_cons_none (hrun _ _)]
  | grown => rw [List.filterMap_cons_none (hrun _ _), List.filterMap_cons_none (hrun _ _)]

/-- **The headers among the items are the header lines outside of fenced code.** -/
theorem Gathers.filterMap_header? {n d : Nat} {lines : List Line} {items : List Item}
    (h : Gathers n d lines items) :
    (scan false n lines).filterMap Met.header? = items.filterMap Item.header? := by
  -- A line that is no header counts for nothing, whether it makes an item or not.
  have hother : ∀ {n line rest}, (lineKind line = .blank ∨ lineKind line = .value ∨
      lineKind line = .text) → (scan false n (line :: rest)).filterMap Met.header? =
        (scan false (n + 1) rest).filterMap Met.header? := by
    intro n line rest hkind
    have hfence : ¬fence <+: line := by
      intro hp
      obtain ⟨language, hlanguage⟩ := fence_prefix_iff.mp hp
      simp [hlanguage] at hkind
    have hnone : Met.header? ⟨n, line, rest⟩ = none := by
      refine header?_eq_none fun level name h ↦ ?_
      change lineKind line = _ at h
      simp [h] at hkind
    rw [scan_line n rest hfence, List.filterMap_cons_none hnone]
  induction h with
  | nil n d => rfl
  | blank kind _ ih => rw [hother (.inl kind), ih]
  | header kind deep root _ ih =>
    rw [scan_header _ kind, ih]
    rfl
  | @value n d line rest items kind _ ih =>
    rw [hother (.inr (.inl kind)), ih]
    exact ((joins_consValue n line items).filterMap_header? fun _ _ ↦ rfl).symm
  | @text n d line rest items kind _ ih =>
    rw [hother (.inr (.inr kind)), ih]
    exact ((joins_consText n line items).filterMap_header? fun _ _ ↦ rfl).symm
  | @code n d line language ls rest items kind within _ ih =>
    obtain rfl := eq_of_lineKind_fence kind
    have hnone : Met.header? ⟨n, fence ++ language, ls ++ fence :: rest⟩ = none := by
      refine header?_eq_none fun level name h ↦ ?_
      exact nomatch kind.symm.trans h
    rw [scan_fence, List.filterMap_cons_none hnone, scan_inside _ _ within,
      show n + 1 + ls.length + 1 = n + ls.length + 2 from by omega, ih]
    rfl

theorem filterMap_header?_of_reads {items : List Item} {entries : List (Entry U)}
    (reads : List.Forall₂ (fun item entry ↦ Entry.ofItem item = .ok entry) items entries) :
    entries.filterMap Entry.header? = items.filterMap Item.header? := by
  induction reads with
  | nil => rfl
  | @cons item entry items entries hitem _ ih =>
    have hhead : entry.header? = item.header? := by
      cases item with
      | header h | text n ls | code n language ls =>
        cases hitem
        rfl
      | value n ls =>
        obtain ⟨tree, -, ⟨⟩⟩ := bind_eq_ok_iff.mp hitem
        rfl
    simp [List.filterMap_cons, hhead, ih]

end Document

/-! ## What stands above a header or a block -/

namespace Node

theorem entriesAll_eq_flatMap (ns : List (Node U)) : entriesAll ns = ns.flatMap entries := by
  induction ns with
  | nil => rfl
  | cons n ns ih => rw [entriesAll, ih, List.flatMap_cons]

theorem sectionsAll_eq_flatMap (ns : List (Node U)) : sectionsAll ns = ns.flatMap sections := by
  induction ns with
  | nil => rfl
  | cons n ns ih => rw [sectionsAll, ih, List.flatMap_cons]

theorem entries_eq_cons (n : Node U) : ∃ e es, n.entries = e :: es ∧ e.span.line = n.line := by
  cases n with
  | subsection header children => exact ⟨_, _, rfl, rfl⟩
  | text _ | code _ _ | value _ => exact ⟨_, [], rfl, rfl⟩

theorem IsBlock.entries_eq {n : Node U} (h : n.IsBlock) : n.entries = [.leaf n] := by
  cases n with
  | subsection header children => exact h.elim
  | text _ | code _ _ | value _ => rfl

theorem IsBlock.sections_eq {n : Node U} (h : n.IsBlock) : n.sections = [] := by
  cases n with
  | subsection header children => exact h.elim
  | text _ | code _ _ | value _ => rfl

theorem header_notMem_entriesAll {blocks : List (Node U)} (h : ∀ n ∈ blocks, n.IsBlock)
    (x : Header) : .header x ∉ entriesAll blocks := by
  rw [entriesAll_eq_flatMap]
  intro hx
  obtain ⟨n, hn, hx⟩ := List.mem_flatMap.mp hx
  rw [(h n hn).entries_eq] at hx
  simp at hx

mutual

theorem exists_parent {s : Section U} : ∀ n : Node U, s ∈ n.sections →
    s.node = n ∨ ∃ parent ∈ n.sections, s.node ∈ parent.children
  | .subsection header children, h => by
    rw [sections] at h ⊢
    rcases List.mem_cons.mp h with rfl | h
    · exact Or.inl rfl
    · rcases exists_parentAll children h with hchild | ⟨parent, hparent, hchild⟩
      · exact Or.inr ⟨_, List.mem_cons_self, hchild⟩
      · exact Or.inr ⟨parent, List.mem_cons_of_mem _ hparent, hchild⟩
  | .text _, h | .code _ _, h | .value _, h => absurd h List.not_mem_nil

theorem exists_parentAll {s : Section U} : ∀ ns : List (Node U), s ∈ sectionsAll ns →
    s.node ∈ ns ∨ ∃ parent ∈ sectionsAll ns, s.node ∈ parent.children
  | [], h => absurd h List.not_mem_nil
  | n :: ns, h => by
    rw [sectionsAll] at h ⊢
    rcases List.mem_append.mp h with h | h
    · rcases exists_parent n h with rfl | ⟨parent, hparent, hchild⟩
      · exact Or.inl List.mem_cons_self
      · exact Or.inr ⟨parent, List.mem_append_left _ hparent, hchild⟩
    · rcases exists_parentAll ns h with hchild | ⟨parent, hparent, hchild⟩
      · exact Or.inl (List.mem_cons_of_mem _ hchild)
      · exact Or.inr ⟨parent, List.mem_append_right _ hparent, hchild⟩

end

end Node

namespace Section

theorem eq_or_exists_parent {doc s : Section U} (h : s ∈ doc.sections) :
    s = doc ∨ ∃ parent ∈ doc.sections, s.header ∈ parent.subsections := by
  rcases List.mem_cons.mp h with rfl | h
  · exact Or.inl rfl
  · right
    rcases Node.exists_parentAll _ h with hchild | ⟨parent, hparent, hchild⟩
    · exact ⟨doc, List.mem_cons_self, mem_subsections_iff.mpr ⟨_, hchild⟩⟩
    · exact ⟨parent, List.mem_cons_of_mem _ hparent, mem_subsections_iff.mpr ⟨_, hchild⟩⟩

namespace Nested

variable {doc s : Section U}

theorem of_mem_sections (h : doc.Nested) : ∀ s ∈ doc.sections, s.Nested := by
  induction h with
  | @intro header blocks subs blocks_first levels inner ih =>
    intro s hs
    rcases List.mem_cons.mp hs with rfl | hs
    · exact .intro blocks_first levels inner
    · rw [Node.sectionsAll_eq_flatMap, List.flatMap_append, List.mem_append, List.flatMap_map] at hs
      rcases hs with hs | hs
      · obtain ⟨n, hn, hs⟩ := List.mem_flatMap.mp hs
        rw [(blocks_first n hn).sections_eq] at hs
        exact absurd hs List.not_mem_nil
      · obtain ⟨sub, hsub, hs⟩ := List.mem_flatMap.mp hs
        exact ih sub hsub s hs

theorem level_lt (h : s.Nested) : ∀ x, .header x ∈ Node.entriesAll s.children →
    s.header.level < x.level := by
  induction h with
  | @intro header blocks subs blocks_first levels inner ih =>
    intro x hx
    rw [Node.entriesAll_append, List.mem_append] at hx
    rcases hx with hx | hx
    · exact absurd hx (Node.header_notMem_entriesAll blocks_first x)
    · rw [Node.entriesAll_eq_flatMap, List.flatMap_map] at hx
      obtain ⟨sub, hsub, hx⟩ := List.mem_flatMap.mp hx
      have hlevel := levels sub hsub
      rcases List.mem_cons.mp hx with hx | hx
      · cases hx
        change header.level < sub.header.level
        omega
      · have hlt := ih sub hsub x hx
        change header.level < x.level
        omega

theorem level_eq (h : s.Nested) : ∀ child ∈ s.subsections,
    child.level = s.header.level + 1 := by
  obtain ⟨blocks_first, levels, inner⟩ := h
  intro child hchild
  obtain ⟨children, hmem⟩ := mem_subsections_iff.mp hchild
  rcases List.mem_append.mp hmem with hmem | hmem
  · exact (blocks_first _ hmem).elim
  · obtain ⟨sub, hsub, hnode⟩ := List.mem_map.mp hmem
    cases hnode
    exact levels sub hsub

theorem exists_of_isBlock (h : s.Nested) {n : Node U} (hn : n ∈ s.children) (hblock : n.IsBlock) :
    ∃ before after, s.children = before ++ n :: after ∧ ∀ b ∈ before, b.IsBlock := by
  obtain ⟨blocks_first, levels, inner⟩ := h
  rcases List.mem_append.mp hn with hn | hn
  · obtain ⟨before, after, rfl⟩ := List.append_of_mem hn
    have hbefore : ∀ b ∈ before, b.IsBlock := fun b hb ↦ blocks_first b (List.mem_append_left _ hb)
    exact ⟨before, _, List.append_assoc .., hbefore⟩
  · obtain ⟨sub, -, rfl⟩ := List.mem_map.mp hn
    exact hblock.elim

end Nested

end Section

/-- The last of some headers that stands above a line and is as asked for. -/
structure LastAbove (headers : List Header) (wanted : Header → Prop) (line : Nat) (h : Header) :
    Prop where
  mem : h ∈ headers
  above : h.line < line
  fits : wanted h
  last : ∀ x ∈ headers, wanted x → x.line < line → x.line ≤ h.line

namespace Section

variable {doc s : Section U}

/-- In preorder, what a section holds stands right behind its header. If no header in front of a
child is as asked for, the last such header above the child is that of the section. -/
theorem lastAbove (ordered : doc.entries.Pairwise fun a b ↦ a.span.line < b.span.line)
    (hs : s ∈ doc.sections) {wanted : Header → Prop} {n : Node U} {before after : List (Node U)}
    (hchildren : s.children = before ++ n :: after) (hwanted : wanted s.header)
    (hbefore : ∀ x, .header x ∈ Node.entriesAll before → ¬wanted x) :
    LastAbove (doc.sections.map Section.header) wanted n.line s.header := by
  obtain ⟨e, es, hentries, hline⟩ := n.entries_eq_cons
  obtain ⟨above, below, hsplit⟩ := entries_infix hs
  -- The whole document: what is above the section, its header, what is in front of the child, and
  -- the rest.
  have hdoc : doc.entries = above ++ .header s.header ::
      (Node.entriesAll before ++ e :: (es ++ Node.entriesAll after ++ below)) := by
    rw [← hsplit, entries, hchildren, Node.entriesAll_append, Node.entriesAll, hentries]
    simp
  rw [hdoc] at ordered
  obtain ⟨-, hbelow, habove⟩ := List.pairwise_append.mp ordered
  obtain ⟨hhead, htail⟩ := List.pairwise_cons.mp hbelow
  obtain ⟨-, hrest, -⟩ := List.pairwise_append.mp htail
  refine ⟨?_, ?_, hwanted, fun x hx hwantedx hlt ↦ ?_⟩
  · exact List.mem_map_of_mem hs
  · rw [← hline]
    exact hhead e (by simp)
  · rw [mem_headers_iff, hdoc] at hx
    rcases List.mem_append.mp hx with hx | hx
    · exact Nat.le_of_lt (habove _ hx _ List.mem_cons_self)
    rcases List.mem_cons.mp hx with hx | hx
    · cases hx
      exact Nat.le_refl _
    rcases List.mem_append.mp hx with hx | hx
    · exact absurd hwantedx (hbefore x hx)
    rcases List.mem_cons.mp hx with rfl | hx
    · exact absurd hlt (by rw [← hline]; exact Nat.lt_irrefl _)
    · have hafter : e.span.line < x.line := (List.pairwise_cons.mp hrest).1 _ hx
      omega

theorem Nested.lastAbove_block (nested : s.Nested)
    (ordered : doc.entries.Pairwise fun a b ↦ a.span.line < b.span.line) (hs : s ∈ doc.sections)
    {n : Node U} (hn : n ∈ s.children) (hblock : n.IsBlock) :
    LastAbove (doc.sections.map header) (fun _ ↦ True) n.line s.header := by
  obtain ⟨before, after, hchildren, hbefore⟩ := nested.exists_of_isBlock hn hblock
  exact lastAbove ordered hs hchildren trivial fun x hx ↦
    absurd hx (Node.header_notMem_entriesAll hbefore x)

/-- What stands between the header of a nested section and a section right below it is deeper than
the header. -/
theorem Nested.lastAbove_subsection (nested : s.Nested)
    (ordered : doc.entries.Pairwise fun a b ↦ a.span.line < b.span.line) (hs : s ∈ doc.sections)
    {child : Header} (hchild : child ∈ s.subsections) :
    LastAbove (doc.sections.map header) (fun h ↦ h.level + 1 = child.level) child.line
      s.header := by
  have hlevel := nested.level_eq child hchild
  obtain ⟨children, hmem⟩ := mem_subsections_iff.mp hchild
  obtain ⟨before, after, hchildren⟩ := List.append_of_mem hmem
  refine lastAbove (n := .subsection child children) ordered hs hchildren hlevel.symm ?_
  intro x hx hxLevel
  have hdeep : s.header.level < x.level := by
    refine nested.level_lt x ?_
    rw [hchildren, Node.entriesAll_append]
    exact List.mem_append_left _ hx
  omega

end Section

/-! ## The outline of a source -/

namespace Document

/-- How a document is the outline of the lines of its source. -/
structure Outlines (ls : List Line) (doc : Section U) : Prop where
  root : doc.header.level = 1 ∧ doc.header.line = 1
  /-- The sections in preorder are the header lines outside of fenced code. -/
  headers : doc.sections.map Section.header = (scan false 1 ls).filterMap Met.header?
  levels : ∀ s ∈ doc.sections, ∀ child ∈ s.subsections, child.level = s.header.level + 1
  /-- Every header but the first is right below another one. -/
  attached : ∀ h ∈ doc.sections.map Section.header, h = doc.header ∨
    2 ≤ h.level ∧ ∃ s ∈ doc.sections, h ∈ s.subsections
  /-- A section is right below the last header above it that is one level up. -/
  parent : ∀ s ∈ doc.sections, ∀ child ∈ s.subsections,
    LastAbove (doc.sections.map Section.header) (fun h ↦ h.level + 1 = child.level) child.line
      s.header
  /-- A block is right below the last header above it. -/
  owner : ∀ s ∈ doc.sections, ∀ n ∈ s.children, n.IsBlock →
    LastAbove (doc.sections.map Section.header) (fun _ ↦ True) n.line s.header
  /-- The values are the value blocks of the source, each of them read. -/
  values : ∀ tree, tree ∈ doc.values ↔
    ∃ n block, ValueBlock (scan false 1 ls) n block ∧ readValue n block = .ok tree
  sorted : ∀ s ∈ doc.sections, s.values.Pairwise fun a b ↦ a.block.span.line < b.block.span.line

theorem Entry.ofItem_eq_value_iff {item : Item} {tree : ValueTree U} :
    Entry.ofItem item = .ok (.leaf (.value tree)) ↔
      ∃ n block, item = .value n block ∧ readValue n block = .ok tree := by
  constructor
  · intro h
    cases item with
    | header h' | text n ls | code n language ls => exact nomatch h
    | value n block =>
      obtain ⟨tree', hread, ⟨⟩⟩ := bind_eq_ok_iff.mp h
      exact ⟨n, block, rfl, hread⟩
  · rintro ⟨n, block, rfl, hread⟩
    exact bind_eq_ok_iff.mpr ⟨tree, hread, rfl⟩

theorem Tiles.mem_values_iff {ls : List Line} {items : List Item} {doc : Section U}
    (tiles : Tiles 1 ls items)
    (reads : List.Forall₂ (fun item entry ↦ Entry.ofItem item = .ok entry) items doc.entries)
    {tree : ValueTree U} :
    tree ∈ doc.values ↔
      ∃ n block, ValueBlock (scan false 1 ls) n block ∧ readValue n block = .ok tree := by
  rw [Section.mem_values_iff]
  constructor
  · intro hmem
    obtain ⟨item, hitem, hread⟩ := exists_of_forall₂ reads.flip hmem
    obtain ⟨n, block, rfl, hblock⟩ := Entry.ofItem_eq_value_iff.mp hread
    exact ⟨n, block, tiles.value_mem_iff.mp hitem, hblock⟩
  · rintro ⟨n, block, hblock, hread⟩
    obtain ⟨entry, hentry, hitem⟩ := exists_of_forall₂ reads (tiles.value_mem_iff.mpr hblock)
    cases hitem.symm.trans (Entry.ofItem_eq_value_iff.mpr ⟨n, block, rfl, hread⟩)
    exact hentry

theorem LevelsFit.level_ne_one {d : Nat} {items : List Item} (fits : LevelsFit d items) :
    ∀ h, .header h ∈ items → h.level ≠ 1 := by
  induction items generalizing d with
  | nil => exact fun h hmem ↦ absurd hmem List.not_mem_nil
  | cons item items ih =>
    intro h hmem
    rcases List.mem_cons.mp hmem with rfl | hmem
    · exact fits.2.1
    · exact ih fits.tail h hmem

theorem nested_root {root : Header} {items : List Item} {entries : List (Entry U)}
    (level : root.level = 1) (fits : LevelsFit 1 items) (proper : ∀ item ∈ items, item.IsProper)
    (reads : List.Forall₂ (fun item entry ↦ Entry.ofItem item = .ok entry) items entries) :
    Section.Nested ⟨root, nest entries⟩ := by
  obtain ⟨blocks, subs, hnest, hblocks, -, hsubs⟩ := exists_nest fits reads
  rw [hnest]
  refine .intro hblocks (fun s hs ↦ ?_) fun s hs ↦ (hsubs s hs).2
  have hmem : .header s.header ∈ entries := by
    rw [← entriesAll_nest reads, hnest, Node.entriesAll_append, List.mem_append,
      Node.entriesAll_eq_flatMap, Node.entriesAll_eq_flatMap, List.flatMap_map, List.mem_flatMap]
    exact Or.inr (List.mem_flatMap.mpr ⟨s, hs, List.mem_cons_self⟩)
  obtain ⟨item, hitem, hread⟩ := exists_of_forall₂ reads.flip hmem
  cases item with
  | text n ls | code n language ls => exact nomatch hread
  | value n ls =>
    obtain ⟨tree, -, hread⟩ := bind_eq_ok_iff.mp hread
    exact nomatch hread
  | header h =>
    cases hread
    have hpos : 0 < s.header.level := (isHeader_iff.mpr ⟨_, proper _ hitem⟩).1
    have hone := fits.level_ne_one _ hitem
    have hle := (hsubs s hs).1
    rw [level]
    omega

/-- **A document is the outline of its source.** -/
theorem parse_outlines {source : String} {doc : Section U} (h : parse source = .ok doc) :
    Outlines (lines source.toList) doc := by
  obtain ⟨first, rest, name, items, entries, hlines, hroot, hgathers, hentries, rfl⟩ :=
    ofLines_eq_ok_iff.mp (parse_eq_ok_iff.mp h)
  rw [hlines]
  generalize hdoc : (⟨headerAt 1 1 name first, nest entries⟩ : Section U) = doc
  have tiles := tiles_root hroot hgathers.tiles
  have hall : doc.entries = .header (headerAt 1 1 name first) :: entries := by
    rw [← hdoc, Section.entries, entriesAll_nest hentries]
  have reads : List.Forall₂ (fun item entry ↦ Entry.ofItem item = .ok entry)
      (.header (headerAt 1 1 name first) :: items) doc.entries := by
    rw [hall]
    exact .cons rfl hentries
  have accounts := tiles.accounts reads
  have ordered : doc.entries.Pairwise fun a b ↦ a.span.line < b.span.line := by
    refine accounts.ordered.imp_of_mem fun {a b} ha _ hbound ↦ ?_
    have hpos := accounts.proper a ha
    rw [Span.bound] at hbound
    omega
  have nested : doc.Nested := by
    rw [← hdoc]
    exact nested_root rfl hgathers.levelsFit hgathers.tiles.proper hentries
  have hlevel : doc.header.level = 1 := by rw [← hdoc]; rfl
  refine ⟨⟨hlevel, by rw [← hdoc]; rfl⟩, ?_, ?_, ?_, ?_, ?_, ?_, ?_⟩
  · rw [Section.map_header_sections, filterMap_header?_of_reads reads,
      scan_header rest (header?_eq_some_iff.mp hroot), hgathers.filterMap_header?]
    rfl
  · intro s hs
    exact (nested.of_mem_sections s hs).level_eq
  · intro h hmem
    rcases List.mem_cons.mp (Section.mem_headers_iff.mp hmem) with hfirst | hbelow
    · cases hfirst
      exact Or.inl rfl
    · have hdeep := nested.level_lt h hbelow
      obtain ⟨s, hs, rfl⟩ := List.mem_map.mp hmem
      rcases Section.eq_or_exists_parent hs with rfl | hparent
      · exact absurd hdeep (Nat.lt_irrefl _)
      · exact Or.inr ⟨by omega, hparent⟩
  · intro s hs child hchild
    exact (nested.of_mem_sections s hs).lastAbove_subsection ordered hs hchild
  · intro s hs n hn hblock
    exact (nested.of_mem_sections s hs).lastAbove_block ordered hs hn hblock
  · exact fun tree ↦ tiles.mem_values_iff reads
  · intro s hs
    rw [Section.values_eq]
    refine (ordered.sublist (Section.entries_infix hs).sublist).filterMap _
      fun {a b} hlt x hx y hy ↦ ?_
    rw [Entry.value?_eq_some_iff.mp hx, Entry.value?_eq_some_iff.mp hy] at hlt
    exact hlt

/-- Headers that go down and up again, a line in fenced code that looks like one, and values at
three depths. -/
def branching : String :=
  "# a\n\tx\n## b\n### c\ntext\n\ty\n## d\n```\n# code\n```\n### e\n\n\tz\n"

theorem parse_outlines_branching :
    ∃ doc : Section Empty, parse branching = .ok doc ∧
      doc.sections.map (fun s ↦ (s.header.level, s.header.line)) =
        [(1, 1), (2, 3), (3, 4), (2, 7), (3, 11)] ∧
      doc.values.map (fun tree ↦ tree.block.span.line) = [2, 6, 13] ∧
      Outlines (lines branching.toList) doc := by
  have hread : ((parse (U := Empty) branching).toOption.map fun doc ↦
      (doc.sections.map fun s ↦ (s.header.level, s.header.line),
        doc.values.map fun tree ↦ tree.block.span.line))
      = some ([(1, 1), (2, 3), (3, 4), (2, 7), (3, 11)], [2, 6, 13]) := by decide +kernel
  obtain ⟨doc, hdoc, hshape⟩ := Option.map_eq_some_iff.mp hread
  obtain ⟨hsections, hvalues⟩ := Prod.mk.inj hshape
  have hparse := toOption_eq_some_iff.mp hdoc
  exact ⟨doc, hparse, hsections, hvalues, parse_outlines hparse⟩

end Document

end DataOutline
