import DataOutline.Proofs.Document.Layout
import DataOutline.Proofs.Document.Scan

/-!
# Items tile a source

The lines of a source, from the first to the last, are those of its items and blank lines between
them. A run of text lines or of value lines is as long as it can be: one that follows it does not
start right below. Each line of an item other than fenced code is one that a scan meets, and so is
the first line of fenced code; the other lines that a scan meets are the blank ones.
-/

namespace DataOutline

open Text

namespace Item

/-- The kind of line that an item begins with. All lines of a run are of this kind. -/
def kind : Item → Document.LineKind
  | .header h => .header h.level h.name.toList
  | .text _ _ => .text
  | .value _ _ => .value
  | .code _ language _ => .fence language

/-- Two runs of lines of the same kind. -/
def SameRun (a b : Item) : Prop := a.kind = b.kind ∧ (a.kind = .text ∨ a.kind = .value)

theorem not_sameRun_header (h : Header) (item : Item) : ¬(Item.header h).SameRun item := by
  rintro ⟨-, hkind | hkind⟩
  · exact Document.LineKind.noConfusion hkind
  · exact Document.LineKind.noConfusion hkind

theorem not_sameRun_code (n : Nat) (language : Line) (ls : List Line) (item : Item) :
    ¬(Item.code n language ls).SameRun item := by
  rintro ⟨-, hkind | hkind⟩
  · exact Document.LineKind.noConfusion hkind
  · exact Document.LineKind.noConfusion hkind

def bound (item : Item) : Nat := item.line + item.lines.length

/-- Line `n` of the source is one of the lines of an item, and it says `l`. -/
def Holds (item : Item) (n : Nat) (l : Line) : Prop :=
  item.line ≤ n ∧ item.lines[n - item.line]? = some l

theorem Holds.lt_bound {item : Item} {n : Nat} {l : Line} (h : item.Holds n l) :
    n < item.bound := by
  obtain ⟨hle, hget⟩ := h
  obtain ⟨hlt, -⟩ := List.getElem?_eq_some_iff.mp hget
  rw [bound]
  omega

theorem line_lt_bound {item : Item} (h : item.IsProper) : item.line < item.bound := by
  have := List.length_pos_iff.mpr h.lines_ne_nil
  rw [bound]
  omega

end Item

namespace Document

/-! ## Tiles -/

/-- `Tiles n lines items`: from line `n` on, the lines are those of the items, with blank lines
between them. -/
inductive Tiles : Nat → List Line → List Item → Prop
  | nil (n : Nat) : Tiles n [] []
  | blank {n : Nat} {line : Line} {rest : List Line} {items : List Item}
      (kind : lineKind line = .blank) (more : Tiles (n + 1) rest items) :
      Tiles n (line :: rest) items
  | item {n : Nat} {item : Item} {rest : List Line} {items : List Item} (here : item.line = n)
      (proper : item.IsProper)
      (apart : ∀ next ∈ items.head?, item.SameRun next → next.line ≠ item.bound)
      (more : Tiles item.bound rest items) : Tiles n (item.lines ++ rest) (item :: items)

theorem Tiles.le_line {n : Nat} {lines : List Line} {items : List Item}
    (h : Tiles n lines items) : ∀ item ∈ items, n ≤ item.line := by
  induction h with
  | nil n => exact fun _ h ↦ absurd h List.not_mem_nil
  | blank _ _ ih => exact fun item h ↦ Nat.le_of_succ_le (ih item h)
  | @item n item rest items here proper _ _ ih =>
    refine List.forall_mem_cons.mpr ⟨Nat.le_of_eq here.symm, fun next hnext ↦ ?_⟩
    have := ih next hnext
    have := Item.line_lt_bound proper
    omega

theorem Tiles.first {n : Nat} {lines : List Line} {item : Item} {items : List Item}
    (h : Tiles n lines (item :: items)) (here : item.line = n) :
    ∃ rest, lines = item.lines ++ rest ∧ item.IsProper ∧
      (∀ next ∈ items.head?, item.SameRun next → next.line ≠ item.bound) ∧
      Tiles item.bound rest items := by
  cases h with
  | blank _ more =>
    have := more.le_line item List.mem_cons_self
    omega
  | item _ proper apart more => exact ⟨_, rfl, proper, apart, more⟩

theorem Tiles.joins {run : Nat → List Line → Item} {kind : LineKind} {n : Nat} {line : Line}
    {rest : List Line} {items items' : List Item} (hjoins : Joins run n line items items')
    (hrun : ∀ m ls, (run m ls).line = m ∧ (run m ls).lines = ls ∧ (run m ls).kind = kind)
    (hproper : ∀ m ls, (run m ls).IsProper ↔ ls ≠ [] ∧ ∀ l ∈ ls, lineKind l = kind)
    (hsame : ∀ item : Item, item.kind = kind → ∃ m ls, item = run m ls)
    (hline : lineKind line = kind) (h : Tiles (n + 1) rest items) :
    Tiles n (line :: rest) items' := by
  have hbound : ∀ m ls, (run m ls).bound = m + ls.length := by
    intro m ls
    rw [Item.bound, (hrun m ls).1, (hrun m ls).2.1]
  cases hjoins with
  | apart apart =>
    have hlines : line :: rest = (run n [line]).lines ++ rest := by
      rw [(hrun n [line]).2.1, List.singleton_append]
    rw [hlines]
    refine .item (hrun _ _).1 ((hproper _ _).mpr ⟨List.cons_ne_nil _ _, ?_⟩) ?_ ?_
    · exact List.forall_mem_singleton.mpr hline
    · -- A run right below would have taken the line in.
      intro next hnext hkind hnumber
      obtain ⟨m, ls, rfl⟩ := hsame next (hkind.1 ▸ (hrun _ _).2.2)
      rw [(hrun _ _).1, hbound] at hnumber
      subst hnumber
      obtain ⟨tail, rfl⟩ := List.head?_eq_some_iff.mp hnext
      exact apart ls tail rfl
    · rw [hbound]
      exact h
  | grown ls tail =>
    obtain ⟨more, rfl, proper, apart, hmore⟩ := h.first (hrun _ _).1
    have hlines : line :: ((run (n + 1) ls).lines ++ more) =
        (run n (line :: ls)).lines ++ more := by
      rw [(hrun _ _).2.1, (hrun _ _).2.1, List.cons_append]
    have hsamebound : (run n (line :: ls)).bound = (run (n + 1) ls).bound := by
      rw [hbound, hbound, List.length_cons]
      omega
    rw [hlines]
    refine .item (hrun _ _).1 ((hproper _ _).mpr ⟨List.cons_ne_nil _ _, ?_⟩) ?_ ?_
    · exact List.forall_mem_cons.mpr ⟨hline, ((hproper _ _).mp proper).2⟩
    · intro next hnext hkind
      rw [hsamebound]
      refine apart next hnext ⟨?_, ?_⟩
      · rw [(hrun _ _).2.2, ← hkind.1, (hrun _ _).2.2]
      · have := hkind.2
        rwa [(hrun _ _).2.2] at this ⊢
    · rw [hsamebound]
      exact hmore

/-- **What is gathered tiles the lines that it was gathered from.** -/
theorem Gathers.tiles {n d : Nat} {lines : List Line} {items : List Item}
    (h : Gathers n d lines items) : Tiles n lines items := by
  induction h with
  | nil n d => exact .nil n
  | blank kind _ ih => exact .blank kind ih
  | @header n d level line name rest items kind deep root _ ih =>
    have hlines : (Item.header (headerAt n level name line)).lines = [line] := by
      rw [Item.lines, headerAt, String.toList_ofList]
    have hproper : (Item.header (headerAt n level name line)).IsProper := by
      rw [Item.IsProper, headerAt, String.toList_ofList, String.toList_ofList]
      exact kind
    have hbound : (Item.header (headerAt n level name line)).bound = n + 1 := by
      rw [Item.bound, hlines]
      rfl
    rw [← List.singleton_append, ← hlines]
    exact .item rfl hproper (fun next _ hrun ↦ absurd hrun (Item.not_sameRun_header _ next))
      (hbound ▸ ih)
  | @value n d line rest items kind _ ih =>
    refine Tiles.joins (joins_consValue n line items) (fun _ _ ↦ ⟨rfl, rfl, rfl⟩)
      (fun _ _ ↦ Iff.rfl) (fun item hitem ↦ ?_) kind ih
    cases item with
    | value m ls => exact ⟨m, ls, rfl⟩
    | header h | text m ls | code m language ls => exact LineKind.noConfusion hitem
  | @text n d line rest items kind _ ih =>
    refine Tiles.joins (joins_consText n line items) (fun _ _ ↦ ⟨rfl, rfl, rfl⟩)
      (fun _ _ ↦ Iff.rfl) (fun item hitem ↦ ?_) kind ih
    cases item with
    | text m ls => exact ⟨m, ls, rfl⟩
    | header h | value m ls | code m language ls => exact LineKind.noConfusion hitem
  | @code n d line language ls rest items kind within _ ih =>
    have hlines : line :: (ls ++ fence :: rest) = (Item.code n language ls).lines ++ rest := by
      rw [Item.lines, ← eq_of_lineKind_fence kind, List.cons_append, List.append_assoc,
        List.singleton_append]
    have hbound : (Item.code n language ls).bound = n + ls.length + 2 := by
      rw [Item.bound, Item.lines, List.length_cons, List.length_append, List.length_singleton]
      change n + _ = _
      omega
    rw [hlines]
    exact .item rfl within (fun next _ hrun ↦ absurd hrun (Item.not_sameRun_code _ _ _ next))
      (hbound ▸ ih)

/-! ## Where items stand -/

/-- An item ends before the next one starts, and a run ends a line before the next run of its
kind. -/
def Precedes (a b : Item) : Prop := a.bound ≤ b.line ∧ (a.SameRun b → a.bound < b.line)

theorem Tiles.head_of_line_eq {n : Nat} {lines : List Line} {items : List Item} {item : Item}
    (h : Tiles n lines items) (hitem : item ∈ items) (here : item.line = n) :
    items.head? = some item := by
  cases h with
  | nil => exact absurd hitem List.not_mem_nil
  | blank _ more =>
    have := more.le_line item hitem
    omega
  | @item _ first _ items _ proper _ more =>
    rcases List.mem_cons.mp hitem with rfl | hitem
    · rfl
    · have := more.le_line item hitem
      have := Item.line_lt_bound proper
      omega

theorem Tiles.precedes {n : Nat} {lines : List Line} {items : List Item}
    (h : Tiles n lines items) : items.Pairwise Precedes := by
  induction h with
  | nil n => exact .nil
  | blank _ _ ih => exact ih
  | @item n item rest items here proper apart more ih =>
    refine List.pairwise_cons.mpr ⟨fun next hnext ↦ ?_, ih⟩
    have hle := more.le_line next hnext
    refine ⟨hle, fun hrun ↦ Nat.lt_of_le_of_ne hle fun hline ↦ ?_⟩
    exact apart next (more.head_of_line_eq hnext hline.symm) hrun hline.symm

theorem Tiles.proper {n : Nat} {lines : List Line} {items : List Item} (h : Tiles n lines items) :
    ∀ item ∈ items, item.IsProper := by
  induction h with
  | nil n => exact fun _ h ↦ absurd h List.not_mem_nil
  | blank _ _ ih => exact ih
  | item _ proper _ _ ih => exact List.forall_mem_cons.mpr ⟨proper, ih⟩

theorem Tiles.exists_append {n : Nat} {lines : List Line} {items : List Item}
    (h : Tiles n lines items) : ∀ item ∈ items, ∃ before after,
      lines = before ++ item.lines ++ after ∧ item.line = n + before.length := by
  induction h with
  | nil n => exact fun _ h ↦ absurd h List.not_mem_nil
  | @blank n line rest items _ _ ih =>
    intro item hitem
    obtain ⟨before, after, rfl, hline⟩ := ih item hitem
    refine ⟨line :: before, after, rfl, ?_⟩
    rw [hline, List.length_cons]
    omega
  | @item n first rest items here proper _ _ ih =>
    refine List.forall_mem_cons.mpr ⟨⟨[], rest, rfl, here⟩, fun item hitem ↦ ?_⟩
    obtain ⟨before, after, rfl, hline⟩ := ih item hitem
    refine ⟨first.lines ++ before, after, by simp only [List.append_assoc], ?_⟩
    rw [hline, Item.bound, here, List.length_append]
    omega

theorem Tiles.bound_le {n : Nat} {lines : List Line} {items : List Item}
    (h : Tiles n lines items) : ∀ item ∈ items, item.bound ≤ n + lines.length := by
  intro item hitem
  obtain ⟨before, after, rfl, hline⟩ := h.exists_append item hitem
  rw [Item.bound, hline, List.length_append, List.length_append]
  omega

/-! ## What a scan meets -/

theorem scan_blank (n : Nat) {line : Line} (rest : List Line) (h : lineKind line = .blank) :
    scan false n (line :: rest) = ⟨n, line, rest⟩ :: scan false (n + 1) rest := by
  refine scan_line n rest fun hfence ↦ ?_
  obtain ⟨language, hlanguage⟩ := fence_prefix_iff.mp hfence
  exact nomatch h.symm.trans hlanguage

theorem scan_run (n : Nat) (ls rest : List Line) (h : ∀ l ∈ ls, ¬fence <+: l) :
    ∃ mets, scan false n (ls ++ rest) = mets ++ scan false (n + ls.length) rest ∧
      (∀ m ∈ mets, n ≤ m.number ∧ ls[m.number - n]? = some m.line) ∧
      ∀ i l, ls[i]? = some l → ∃ m ∈ mets, m.number = n + i ∧ m.line = l := by
  induction ls generalizing n with
  | nil => exact ⟨[], rfl, fun _ h ↦ absurd h List.not_mem_nil, fun _ _ h ↦ nomatch h⟩
  | cons l ls ih =>
    obtain ⟨hl, hls⟩ := List.forall_mem_cons.mp h
    obtain ⟨mets, hscan, hmets, hlines⟩ := ih (n + 1) hls
    refine ⟨⟨n, l, ls ++ rest⟩ :: mets, ?_, ?_, ?_⟩
    · rw [List.cons_append, scan_line n _ hl, hscan, List.length_cons, List.cons_append]
      congr 3
      omega
    · refine List.forall_mem_cons.mpr ⟨⟨Nat.le_refl n, by rw [Nat.sub_self]; rfl⟩, fun m hm ↦ ?_⟩
      obtain ⟨hle, hget⟩ := hmets m hm
      refine ⟨Nat.le_of_succ_le hle, ?_⟩
      rw [show m.number - n = m.number - (n + 1) + 1 by omega, List.getElem?_cons_succ]
      exact hget
    · rintro (_ | i) l' hget
      · cases hget
        exact ⟨_, List.mem_cons_self, rfl, rfl⟩
      · obtain ⟨m, hm, hnumber, hline⟩ := hlines i l' hget
        exact ⟨m, List.mem_cons_of_mem _ hm, by omega, hline⟩

/-- What a scan meets of the lines of an item. -/
structure MetOf (item : Item) (mets : List Met) : Prop where
  /-- Every line that is met is a line of the item, and of its kind. -/
  holds : ∀ m ∈ mets, item.Holds m.number m.line ∧ lineKind m.line = item.kind
  /-- Every line is met unless the item is fenced code. -/
  met : (∀ language, item.kind ≠ .fence language) → ∀ i l, item.lines[i]? = some l →
    ∃ m ∈ mets, m.number = item.line + i ∧ m.line = l

theorem scan_item {item : Item} (h : item.IsProper) (rest : List Line) :
    ∃ mets, scan false item.line (item.lines ++ rest) = mets ++ scan false item.bound rest ∧
      MetOf item mets := by
  have hrun : (∀ l ∈ item.lines, lineKind l = item.kind) →
      (∀ language, item.kind ≠ .fence language) →
      ∃ mets, scan false item.line (item.lines ++ rest) = mets ++ scan false item.bound rest ∧
        MetOf item mets := by
    intro hkind hcode
    obtain ⟨mets, hscan, hmets, hlines⟩ := scan_run item.line item.lines rest
      fun l hl hfence ↦ by
        obtain ⟨language, hlanguage⟩ := fence_prefix_iff.mp hfence
        exact hcode language ((hkind l hl).symm.trans hlanguage)
    refine ⟨mets, hscan, ⟨fun m hm ↦ ⟨hmets m hm, ?_⟩, fun _ ↦ hlines⟩⟩
    exact hkind m.line (List.mem_of_getElem? (hmets m hm).2)
  cases item with
  | header h' =>
    exact hrun (List.forall_mem_singleton.mpr h) nofun
  | text n ls => exact hrun h.2 nofun
  | value n ls => exact hrun h.2 nofun
  | code n language ls =>
    have hbound : (Item.code n language ls).bound = n + 1 + ls.length + 1 := by
      rw [Item.bound, Item.lines, List.length_cons, List.length_append, List.length_singleton]
      change n + _ = _
      omega
    refine ⟨[⟨n, fence ++ language, ls ++ fence :: rest⟩], ?_, ?_, fun hcode ↦ ?_⟩
    · rw [hbound, Item.lines, List.cons_append, List.append_assoc, List.singleton_append,
        ← scan_inside (n + 1) rest h]
      exact scan_fence n language _
    · refine List.forall_mem_singleton.mpr ⟨⟨Nat.le_refl _, ?_⟩, lineKind_fence_append language⟩
      change (Item.code n language ls).lines[n - n]? = _
      rw [Nat.sub_self]
      rfl
    · exact absurd rfl (hcode language)

/-- A line is blank where it stands outside of fenced code. -/
def BlankAt (mets : List Met) (n : Nat) : Prop := ∃ m ∈ mets, m.number = n ∧ allBlank m.line = true

/-- **Every line is one of an item, unless it is a blank line outside of fenced code**, and then it
is none. -/
theorem Tiles.covered_iff {n : Nat} {lines : List Line} {items : List Item}
    (h : Tiles n lines items) : ∀ k, n ≤ k → k < n + lines.length →
      ((∃ item ∈ items, item.line ≤ k ∧ k < item.bound) ↔ ¬BlankAt (scan false n lines) k) := by
  induction h with
  | nil n =>
    intro k hle hlt
    rw [List.length_nil] at hlt
    omega
  | @blank n line rest items kind more ih =>
    intro k hle hlt
    rw [scan_blank n rest kind]
    rw [List.length_cons] at hlt
    by_cases hk : k = n
    · subst hk
      refine iff_of_false ?_ fun hnot ↦ hnot ?_
      · rintro ⟨item, hitem, hline, -⟩
        have := more.le_line item hitem
        omega
      · exact ⟨_, List.mem_cons_self, rfl, allBlank_iff.mpr kind⟩
    · rw [ih k (by omega) (by omega), not_iff_not]
      constructor
      · rintro ⟨m, hm, hnumber, hblank⟩
        exact ⟨m, List.mem_cons_of_mem _ hm, hnumber, hblank⟩
      · rintro ⟨m, hm, hnumber, hblank⟩
        rcases List.mem_cons.mp hm with rfl | hm
        · exact absurd hnumber.symm hk
        · exact ⟨m, hm, hnumber, hblank⟩
  | @item n item rest items here proper _ more ih =>
    intro k hle hlt
    subst here
    obtain ⟨mets, hscan, hmets⟩ := scan_item proper rest
    have hnotBlank : ∀ m ∈ mets, allBlank m.line = false := by
      intro m hm
      rw [Bool.eq_false_iff, ne_eq, allBlank_iff, (hmets.holds m hm).2]
      cases item <;> exact nofun
    rw [hscan]
    rw [List.length_append] at hlt
    by_cases hk : k < item.bound
    · refine iff_of_true ⟨item, List.mem_cons_self, hle, hk⟩ ?_
      rintro ⟨m, hm, rfl, hblank⟩
      rcases List.mem_append.mp hm with hm | hm
      · exact nomatch hblank.symm.trans (hnotBlank m hm)
      · exact absurd (le_number_of_mem_scan hm) (Nat.not_le.mpr hk)
    · rw [Nat.not_lt] at hk
      have hih := ih k hk (by rw [Item.bound]; omega)
      constructor
      · rintro ⟨other, hother, hline, hbound⟩ ⟨m, hm, rfl, hblank⟩
        rcases List.mem_cons.mp hother with rfl | hother
        · omega
        · refine hih.mp ⟨other, hother, hline, hbound⟩ ?_
          rcases List.mem_append.mp hm with hm | hm
          · exact absurd (hmets.holds m hm).1.lt_bound (Nat.not_lt.mpr hk)
          · exact ⟨m, hm, rfl, hblank⟩
      · intro hblank
        obtain ⟨other, hother, hcovers⟩ := hih.mpr fun ⟨m, hm, hnumber, hline⟩ ↦
          hblank ⟨m, List.mem_append_right _ hm, hnumber, hline⟩
        exact ⟨other, List.mem_cons_of_mem _ hother, hcovers⟩

theorem Tiles.exists_holds {n : Nat} {lines : List Line} {items : List Item}
    (h : Tiles n lines items) : ∀ m ∈ scan false n lines, lineKind m.line ≠ .blank →
      ∃ item ∈ items, item.Holds m.number m.line ∧ item.kind = lineKind m.line := by
  induction h with
  | nil n =>
    rw [scan]
    exact fun _ h ↦ absurd h List.not_mem_nil
  | @blank n line rest items kind more ih =>
    rw [scan_blank n rest kind]
    exact List.forall_mem_cons.mpr ⟨fun hkind ↦ absurd kind hkind, ih⟩
  | @item n item rest items here proper _ more ih =>
    subst here
    obtain ⟨mets, hscan, hmets⟩ := scan_item proper rest
    rw [hscan]
    intro m hm hkind
    rcases List.mem_append.mp hm with hm | hm
    · obtain ⟨hholds, hsame⟩ := hmets.holds m hm
      exact ⟨item, List.mem_cons_self, hholds, hsame.symm⟩
    · obtain ⟨other, hother, hholds⟩ := ih m hm hkind
      exact ⟨other, List.mem_cons_of_mem _ hother, hholds⟩

theorem Tiles.exists_met {n : Nat} {lines : List Line} {items : List Item}
    (h : Tiles n lines items) : ∀ item ∈ items, (∀ language, item.kind ≠ .fence language) →
      ∀ i l, item.lines[i]? = some l →
        ∃ m ∈ scan false n lines, m.number = item.line + i ∧ m.line = l := by
  induction h with
  | nil n => exact fun _ h ↦ absurd h List.not_mem_nil
  | @blank n line rest items kind more ih =>
    intro item hitem hcode i l hget
    obtain ⟨m, hm, hmet⟩ := ih item hitem hcode i l hget
    rw [scan_blank n rest kind]
    exact ⟨m, List.mem_cons_of_mem _ hm, hmet⟩
  | @item n first rest items here proper _ more ih =>
    subst here
    obtain ⟨mets, hscan, hmets⟩ := scan_item proper rest
    rw [hscan]
    refine List.forall_mem_cons.mpr ⟨fun hcode i l hget ↦ ?_, fun item hitem hcode i l hget ↦ ?_⟩
    · obtain ⟨m, hm, hmet⟩ := hmets.met hcode i l hget
      exact ⟨m, List.mem_append_left _ hm, hmet⟩
    · obtain ⟨m, hm, hmet⟩ := ih item hitem hcode i l hget
      exact ⟨m, List.mem_append_right _ hm, hmet⟩

end Document

end DataOutline
