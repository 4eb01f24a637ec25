import DataOutline.Document.Printer
import DataOutline.Proofs.Document.Gathering
import DataOutline.Proofs.Text.Lines

/-!
# The canonical layout of a document

A printed document is a list of lines: those of its items, in their order, with one empty line
behind every item that is neither a header nor the last. The items can be read back from these
lines. Every line keeps its kind, since the kind depends on the line alone; a fence closes where it
did, since no line of the code closes it; and the empty lines keep runs of text or of value lines
apart that would otherwise grow together.
-/

namespace DataOutline

open Text

/-! ## The lines of an item -/

namespace Item

/-- The lines that an item is made of. -/
def lines : Item → List Line
  | .header h => [h.content.toList]
  | .text _ ls | .value _ ls => ls
  | .code _ language ls => (Document.fence ++ language) :: (ls ++ [Document.fence])

/-- The empty lines between an item and the next one. -/
def gap : Item → List Line
  | .header _ => []
  | _ => [[]]

def line : Item → Nat
  | .header h => h.line
  | .text n _ | .value n _ | .code n _ _ => n

/-- The level of the last header behind an item, `d` being the level in front of it. -/
def levelBehind (d : Nat) : Item → Nat
  | .header h => h.level
  | .text _ _ | .value _ _ | .code _ _ _ => d

def moveTo (n : Nat) : Item → Item
  | .header h => .header { h with line := n }
  | .text _ ls => .text n ls
  | .value _ ls => .value n ls
  | .code _ language ls => .code n language ls

@[simp] theorem line_moveTo (n : Nat) (item : Item) : (item.moveTo n).line = n := by
  cases item <;> rfl

/-- Whether the lines of an item are of the kinds that make such an item. -/
def IsProper : Item → Prop
  | .header h => Document.lineKind h.content.toList = .header h.level h.name.toList
  | .text _ ls => ls ≠ [] ∧ ∀ l ∈ ls, Document.lineKind l = .text
  | .value _ ls => ls ≠ [] ∧ ∀ l ∈ ls, Document.lineKind l = .value
  | .code _ _ ls => ∀ l ∈ ls, l ≠ Document.fence

theorem IsProper.lines_ne_nil {item : Item} (h : item.IsProper) : item.lines ≠ [] := by
  cases item with
  | header h => exact List.cons_ne_nil _ _
  | text n ls => exact h.1
  | value n ls => exact h.1
  | code n language ls => exact List.cons_ne_nil _ _

end Item

namespace Document

/-- Whether no header lies more than one level below the one before it, and none is a second
root. `d` is the level of the header before the items. -/
def LevelsFit : Nat → List Item → Prop
  | _, [] => True
  | d, .header h :: rest => h.level ≤ d + 1 ∧ h.level ≠ 1 ∧ LevelsFit h.level rest
  | d, .text _ _ :: rest | d, .value _ _ :: rest | d, .code _ _ _ :: rest => LevelsFit d rest

theorem LevelsFit.head {d : Nat} {item : Item} {items : List Item}
    (h : LevelsFit d (item :: items)) : LevelsFit d [item] := by
  cases item with
  | header h' => exact ⟨h.1, h.2.1, trivial⟩
  | text n ls | value n ls | code n language ls => exact trivial

theorem LevelsFit.tail {d : Nat} {item : Item} {items : List Item}
    (h : LevelsFit d (item :: items)) : LevelsFit (item.levelBehind d) items := by
  cases item with
  | header h' => exact h.2.2
  | text n ls | value n ls | code n language ls => exact h

/-! ## What gathered items are like -/

section Joins

/-- A line is put before items: it makes an item of its own, or the first one takes it in. `run`
says which items these are, those of text lines or those of value lines. -/
inductive Joins (run : Nat → List Line → Item) (n : Nat) (line : Line) :
    List Item → List Item → Prop
  | apart {items : List Item} (apart : ∀ ls rest, items ≠ run (n + 1) ls :: rest) :
      Joins run n line items (run n [line] :: items)
  | grown (ls : List Line) (rest : List Item) :
      Joins run n line (run (n + 1) ls :: rest) (run n (line :: ls) :: rest)

theorem joins_consText (n : Nat) (line : Line) (items : List Item) :
    Joins .text n line items (consText n line items) := by
  rcases items with _ | ⟨_ | ⟨below, ls⟩ | _ | _, rest⟩
  · exact .apart nofun
  · exact .apart nofun
  · rw [consText]
    split
    · next hbelow => exact hbelow ▸ .grown ls rest
    · next hbelow => exact .apart fun _ _ h ↦ hbelow (Item.text.inj (List.cons.inj h).1).1
  · exact .apart nofun
  · exact .apart nofun

theorem joins_consValue (n : Nat) (line : Line) (items : List Item) :
    Joins .value n line items (consValue n line items) := by
  rcases items with _ | ⟨_ | _ | ⟨below, ls⟩ | _, rest⟩
  · exact .apart nofun
  · exact .apart nofun
  · exact .apart nofun
  · rw [consValue]
    split
    · next hbelow => exact hbelow ▸ .grown ls rest
    · next hbelow => exact .apart fun _ _ h ↦ hbelow (Item.value.inj (List.cons.inj h).1).1
  · exact .apart nofun

variable {run : Nat → List Line → Item} {n : Nat} {line : Line} {items items' : List Item}

/-- What holds of one line alone, and of a run when it takes in one more line at its start, holds
of the items that a line is put before. -/
theorem Joins.forall_mem {P : Item → Prop} (h : Joins run n line items items')
    (single : P (run n [line])) (grow : ∀ ls, P (run (n + 1) ls) → P (run n (line :: ls)))
    (hall : ∀ item ∈ items, P item) : ∀ item ∈ items', P item := by
  cases h with
  | apart => exact List.forall_mem_cons.mpr ⟨single, hall⟩
  | grown ls rest =>
    obtain ⟨hfirst, hrest⟩ := List.forall_mem_cons.mp hall
    exact List.forall_mem_cons.mpr ⟨grow ls hfirst, hrest⟩

theorem Joins.levelsFit {d : Nat} (h : Joins run n line items items')
    (hrun : ∀ n ls rest, LevelsFit d (run n ls :: rest) ↔ LevelsFit d rest)
    (hfit : LevelsFit d items) : LevelsFit d items' := by
  cases h with
  | apart => exact (hrun _ _ _).mpr hfit
  | grown ls rest => exact (hrun _ _ _).mpr ((hrun _ _ _).mp hfit)

theorem Joins.eq_of_apart (h : Joins run n line items items') (hline : ∀ n ls, (run n ls).line = n)
    (apart : ∀ next ∈ items.head?, next.line ≠ n + 1) : items' = run n [line] :: items := by
  cases h with
  | apart => rfl
  | grown ls rest => exact absurd (hline _ _) (apart _ rfl)

end Joins

theorem Gathers.isProper {n d : Nat} {lines : List Line} {items : List Item}
    (h : Gathers n d lines items) : ∀ item ∈ items, item.IsProper := by
  induction h with
  | nil n d => exact fun _ h ↦ absurd h List.not_mem_nil
  | blank _ _ ih => exact ih
  | header kind deep root more ih =>
    refine List.forall_mem_cons.mpr ⟨?_, ih⟩
    rw [Item.IsProper, headerAt, String.toList_ofList, String.toList_ofList]
    exact kind
  | value kind more ih =>
    refine (joins_consValue _ _ _).forall_mem ?_ (fun ls h ↦ ?_) ih
    · exact ⟨List.cons_ne_nil _ _, List.forall_mem_singleton.mpr kind⟩
    · exact ⟨List.cons_ne_nil _ _, List.forall_mem_cons.mpr ⟨kind, h.2⟩⟩
  | text kind more ih =>
    refine (joins_consText _ _ _).forall_mem ?_ (fun ls h ↦ ?_) ih
    · exact ⟨List.cons_ne_nil _ _, List.forall_mem_singleton.mpr kind⟩
    · exact ⟨List.cons_ne_nil _ _, List.forall_mem_cons.mpr ⟨kind, h.2⟩⟩
  | code kind within more ih => exact List.forall_mem_cons.mpr ⟨within, ih⟩

theorem Gathers.levelsFit {n d : Nat} {lines : List Line} {items : List Item}
    (h : Gathers n d lines items) : LevelsFit d items := by
  induction h with
  | nil n d => exact trivial
  | blank _ _ ih => exact ih
  | header kind deep root more ih => exact ⟨deep, root, ih⟩
  | value kind more ih => exact (joins_consValue _ _ _).levelsFit (fun _ _ _ ↦ Iff.rfl) ih
  | text kind more ih => exact (joins_consText _ _ _).levelsFit (fun _ _ _ ↦ Iff.rfl) ih
  | code kind within more ih => exact ih

theorem Gathers.lines_subset {n d : Nat} {lines : List Line} {items : List Item}
    (h : Gathers n d lines items) : ∀ item ∈ items, item.lines ⊆ lines := by
  induction h with
  | nil n d => exact fun _ h ↦ absurd h List.not_mem_nil
  | blank _ _ ih => exact fun item h ↦ List.subset_cons_of_subset _ (ih item h)
  | header kind deep root more ih =>
    refine List.forall_mem_cons.mpr ⟨?_, fun item h ↦ List.subset_cons_of_subset _ (ih item h)⟩
    rw [Item.lines, headerAt, String.toList_ofList]
    exact List.cons_subset_cons _ (List.nil_subset _)
  | @value n d line rest items kind more ih =>
    refine (joins_consValue _ _ _).forall_mem (List.cons_subset_cons line (List.nil_subset _)) ?_
      fun item h ↦ List.subset_cons_of_subset line (ih item h)
    exact fun ls hls ↦ List.cons_subset.mpr ⟨List.mem_cons_self, hls⟩
  | @text n d line rest items kind more ih =>
    refine (joins_consText _ _ _).forall_mem (List.cons_subset_cons line (List.nil_subset _)) ?_
      fun item h ↦ List.subset_cons_of_subset line (ih item h)
    exact fun ls hls ↦ List.cons_subset.mpr ⟨List.mem_cons_self, hls⟩
  | @code n d line language ls rest items kind within more ih =>
    refine List.forall_mem_cons.mpr ⟨?_, fun item h ↦ List.Subset.trans (ih item h) ?_⟩
    · rw [Item.lines, ← eq_of_lineKind_fence kind]
      refine List.cons_subset_cons _ (List.append_subset.mpr ⟨List.subset_append_left _ _, ?_⟩)
      exact List.cons_subset.mpr ⟨List.mem_append_right _ List.mem_cons_self, List.nil_subset _⟩
    · exact List.subset_cons_of_subset _
        (List.subset_append_of_subset_right _ (List.subset_cons_self _ _))

/-! ## The layout and what is gathered from it -/

/-- The lines of items in their canonical layout. -/
def layout : List Item → List Line
  | [] => []
  | [item] => item.lines
  | item :: next :: rest => item.lines ++ (item.gap ++ layout (next :: rest))

/-- Items at the lines where they stand in their layout, of which the first line is line `n`. -/
def relayout (n : Nat) : List Item → List Item
  | [] => []
  | item :: rest =>
    item.moveTo n :: relayout (n + item.lines.length + item.gap.length) rest

theorem layout_header_cons (h : Header) (items : List Item) :
    layout (.header h :: items) = h.content.toList :: layout items := by
  cases items <;> rfl

theorem mem_layout {line : Line} {items : List Item} (h : line ∈ layout items) :
    line = [] ∨ ∃ item ∈ items, line ∈ item.lines := by
  induction items with
  | nil => exact absurd h List.not_mem_nil
  | cons item items ih =>
    rcases items with _ | ⟨next, rest⟩
    · exact Or.inr ⟨item, List.mem_cons_self, h⟩
    · rw [layout, List.mem_append, List.mem_append] at h
      rcases h with h | h | h
      · exact Or.inr ⟨item, List.mem_cons_self, h⟩
      · left
        cases item with
        | header h' => exact absurd h List.not_mem_nil
        | text n ls | value n ls | code n language ls => exact List.mem_singleton.mp h
      · rcases ih h with rfl | ⟨item', hmem, hline⟩
        · exact Or.inl rfl
        · exact Or.inr ⟨item', List.mem_cons_of_mem _ hmem, hline⟩

/-- Lines of one kind in front of items that do not start right below make one run. `step` is the
rule for a line of this kind, and `grow` lets a run take in the line above it. -/
theorem gathers_run {run : Nat → List Line → Item} {kind : LineKind}
    {cons : Nat → Line → List Item → List Item}
    (joins : ∀ n line items, Joins run n line items (cons n line items))
    (hline : ∀ n ls, (run n ls).line = n)
    (grow : ∀ n line ls rest, cons n line (run (n + 1) ls :: rest) = run n (line :: ls) :: rest)
    (step : ∀ {n d line rest items}, lineKind line = kind → Gathers (n + 1) d rest items →
      Gathers n d (line :: rest) (cons n line items))
    {n d : Nat} {ls rest : List Line} {items : List Item} (hne : ls ≠ [])
    (hls : ∀ l ∈ ls, lineKind l = kind) (apart : ∀ next ∈ items.head?, next.line ≠ n + ls.length)
    (more : Gathers (n + ls.length) d rest items) :
    Gathers n d (ls ++ rest) (run n ls :: items) := by
  induction ls generalizing n with
  | nil => exact absurd rfl hne
  | cons l ls ih =>
    obtain ⟨hl, hls⟩ := List.forall_mem_cons.mp hls
    rw [List.length_cons] at apart more
    rcases ls with _ | ⟨l', ls⟩
    · -- The last line starts the run, since what comes next does not start right below it.
      have h := step hl more
      rwa [(joins n l items).eq_of_apart hline apart] at h
    · -- The lines below make one run already, and it takes in this one.
      have harith : n + 1 + (l' :: ls).length = n + ((l' :: ls).length + 1) := by omega
      have hrest := ih (n := n + 1) (List.cons_ne_nil _ _) hls (by rwa [harith]) (by rwa [harith])
      have h := step hl hrest
      rwa [grow] at h

/-- **One item.** Its lines are gathered into it again, in front of lines whose items start behind
its gap. -/
theorem gathers_item {n d : Nat} {item : Item} {rest : List Line} {items : List Item}
    (proper : item.IsProper) (fits : LevelsFit d [item])
    (apart : ∀ next ∈ items.head?, next.line = n + item.lines.length + item.gap.length)
    (more : Gathers (n + item.lines.length) (item.levelBehind d) rest items) :
    Gathers n d (item.lines ++ rest) (item.moveTo n :: items) := by
  cases item with
  | header h =>
    have hlevel : Gathers n d (h.content.toList :: rest)
        (.header (headerAt n h.level h.name.toList h.content.toList) :: items) :=
      .header proper fits.1 fits.2.1 more
    rw [headerAt, String.ofList_toList, String.ofList_toList] at hlevel
    exact hlevel
  | text m ls =>
    have grow : ∀ n line ls rest,
        consText n line (.text (n + 1) ls :: rest) = .text n (line :: ls) :: rest := by
      intro n line ls rest
      rw [consText, if_pos rfl]
    exact gathers_run joins_consText (fun _ _ ↦ rfl) grow .text proper.1 proper.2
      (fun next h ↦ by rw [apart next h]; exact Nat.succ_ne_self _) more
  | value m ls =>
    have grow : ∀ n line ls rest,
        consValue n line (.value (n + 1) ls :: rest) = .value n (line :: ls) :: rest := by
      intro n line ls rest
      rw [consValue, if_pos rfl]
    exact gathers_run joins_consValue (fun _ _ ↦ rfl) grow .value proper.1 proper.2
      (fun next h ↦ by rw [apart next h]; exact Nat.succ_ne_self _) more
  | code m language ls =>
    have hlen : n + (Item.code m language ls).lines.length = n + ls.length + 2 := by
      rw [Item.lines, List.length_cons, List.length_append, List.length_singleton]
      omega
    rw [hlen] at more
    rw [Item.lines, List.cons_append, ← List.append_cons]
    exact .code (lineKind_fence_append language) proper more

theorem gathers_blanks {n d : Nat} {ls rest : List Line} {items : List Item}
    (hls : ∀ l ∈ ls, lineKind l = .blank) (more : Gathers (n + ls.length) d rest items) :
    Gathers n d (ls ++ rest) items := by
  induction ls generalizing n with
  | nil => exact more
  | cons l ls ih =>
    obtain ⟨hl, hls⟩ := List.forall_mem_cons.mp hls
    rw [List.length_cons, Nat.add_comm ls.length, ← Nat.add_assoc] at more
    exact .blank hl (ih hls more)

theorem lineKind_of_mem_gap {item : Item} : ∀ l ∈ item.gap, lineKind l = .blank := by
  cases item with
  | header h => exact fun _ h ↦ absurd h List.not_mem_nil
  | text | value | code => exact List.forall_mem_singleton.mpr lineKind_nil

/-- **Items are gathered from their layout**, and blank lines at the end make no difference. -/
theorem gathers_layout {n d : Nat} {items : List Item} {tail : List Line}
    (proper : ∀ item ∈ items, item.IsProper) (fits : LevelsFit d items)
    (htail : ∀ l ∈ tail, lineKind l = .blank) :
    Gathers n d (layout items ++ tail) (relayout n items) := by
  induction items generalizing n d with
  | nil =>
    have h := gathers_blanks htail (Gathers.nil (n + tail.length) d)
    rw [List.append_nil] at h
    exact h
  | cons item items ih =>
    obtain ⟨hitem, hitems⟩ := List.forall_mem_cons.mp proper
    rcases items with _ | ⟨next, rest⟩
    · exact gathers_item hitem fits.head (fun _ h ↦ nomatch h) (ih hitems fits.tail)
    · rw [layout, List.append_assoc, List.append_assoc, relayout]
      refine gathers_item hitem fits.head ?_
        (gathers_blanks lineKind_of_mem_gap (ih hitems fits.tail))
      intro next' h
      cases h
      rw [Item.line_moveTo]

end Document

end DataOutline
