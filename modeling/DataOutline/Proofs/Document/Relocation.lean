import DataOutline.Document.Parser
import DataOutline.Proofs.Document.Parts
import DataOutline.Proofs.Document.Span
import DataOutline.Proofs.Grammar.Numbering

/-!
# Where a value block stands

Where a value block stands does not matter to what it says. The same lines further down give the
same value with every span moved, or the same error with its span moved. And wherever the block
stands, the spans of its value, of the parts of that value, and of an error of it lie within its
lines, and the error is never one of the shape of the document.
-/

namespace DataOutline

open Text Grammar

variable {U : Type} {N : Nat → Nat → Prop}

/-! ## Values that are alike but for the numbers of lines -/

namespace ValueTree.Resembles

variable {t t' : ValueTree U}

theorem block (h : t.Resembles N t') : t.block.Resembles N t'.block := by
  cases h <;> assumption

theorem unit?_eq_none (h : t.Resembles N t') : t.unit? = none := by
  cases h <;> rfl

theorem children (h : t.Resembles N t') :
    List.Forall₂ (ValueTree.Resembles N) t.children t'.children := by
  cases h with
  | array _ _ parts | object _ _ parts | mixin _ _ _ _ parts => exact parts
  | expression => exact .nil

theorem withBlock {b b' : Block} (h : t.Resembles N t') (hblock : b.Resembles N b') :
    (t.withBlock b).Resembles N (t'.withBlock b') := by
  cases h with
  | array _ unordered parts => exact .array hblock unordered parts
  | object _ names parts => exact .object hblock names parts
  | mixin _ base removals names parts => exact .mixin hblock base removals names parts
  | expression _ code => exact .expression hblock code

theorem exists_of_mem_parts {part : ValueTree U} (h : t.Resembles N t') (hpart : part ∈ t.parts) :
    ∃ part', part.Resembles N part' := by
  induction t using ValueTree.childInduction generalizing t' with
  | step t ih =>
    rw [parts_eq, List.mem_cons, List.mem_flatMap] at hpart
    rcases hpart with rfl | ⟨child, hchild, hpart⟩
    · exact ⟨t', h⟩
    · obtain ⟨child', -, hresembles⟩ := exists_of_forall₂ h.children hchild
      exact ih child hchild hresembles hpart

theorem mapSpan_eq {f : Span → Span} (hf : ∀ s s', Span.Resembles N s s' → f s = f s')
    (h : t.Resembles N t') : t.mapSpan f = t'.mapSpan f := by
  have hblock : ∀ {b b' : Block}, b.Resembles N b' → b.mapSpan f = b'.mapSpan f := by
    intro b b' hb
    rw [Block.mapSpan, Block.mapSpan, hf _ _ hb.span, hb.content]
  induction t using ValueTree.childInduction generalizing t' with
  | step t ih =>
    have hparts := map_eq_map_of_forall₂ h.children fun child hchild _ ↦ ih child hchild
    cases h with
    | array b unordered parts =>
      rw [mapSpan, mapSpan, hblock b, mapSpanAll_eq_map, mapSpanAll_eq_map]
      exact congrArg _ hparts
    | object b names parts =>
      rw [mapSpan, mapSpan, hblock b, mapSpanEntries_eq_zip, mapSpanEntries_eq_zip, names]
      exact congrArg (fun ts ↦ ValueTree.object _ (List.zip _ ts)) hparts
    | mixin b base removals names parts =>
      rw [mapSpan, mapSpan, hblock b, mapSpanEntries_eq_zip, mapSpanEntries_eq_zip, names]
      exact congrArg (fun ts ↦ ValueTree.mixin _ base removals (List.zip _ ts)) hparts
    | expression b code => rw [mapSpan, mapSpan, hblock b]

theorem bare_eq (h : t.Resembles N t') : t.bare = t'.bare := by
  induction t using ValueTree.childInduction generalizing t' with
  | step t ih =>
    have hparts := map_eq_map_of_forall₂ h.children fun child hchild _ ↦ ih child hchild
    cases h with
    | array b unordered parts =>
      rw [bare, bare, bareAll_eq_map, bareAll_eq_map]
      exact congrArg _ hparts
    | object b names parts =>
      rw [bare, bare, bareEntries_eq_zip, bareEntries_eq_zip, names]
      exact congrArg (fun ts ↦ ValueTree.object _ (List.zip _ ts)) hparts
    | mixin b base removals names parts =>
      rw [bare, bare, bareEntries_eq_zip, bareEntries_eq_zip, names]
      exact congrArg (fun ts ↦ ValueTree.mixin _ base removals (List.zip _ ts)) hparts
    | expression b code => rw [bare, bare]

end ValueTree.Resembles

/-! ## Value blocks -/

namespace Document

/-- **A value block reads alike wherever it stands**, whatever is to hold of the numbers of its
lines. -/
theorem corresponds_readValue (line line' : Nat) (ls : List Line)
    (h : ∀ i, i = 0 ∨ i < ls.length → N (line + i) (line' + i)) :
    Corresponds (SyntaxError.Resembles N) (ValueTree.Resembles (U := U) N) (readValue line ls)
      (readValue line' ls) := by
  have hlines : List.Forall₂ (NumberedLine.Resembles N) (numbered line ls) (numbered line' ls) := by
    rw [numbered, numbered, List.forall₂_map_left_iff, List.forall₂_map_right_iff,
      List.forall₂_same]
    exact fun e he ↦ ⟨h e.2 (Or.inr (List.snd_lt_of_mem_zipIdx he)), rfl⟩
  rw [readValue, readValue]
  generalize numbered line ls = numbers at hlines
  generalize numbered line' ls = numbers' at hlines
  cases hlines with
  | nil => exact .error ⟨rfl, rfl, Span.resembles_line (h 0 (Or.inl rfl))⟩
  | cons hfirst hmore =>
    exact (ValueTree.corresponds_read ⟨hfirst, hmore⟩).bind fun t t' ht ↦
      .ok (ht.withBlock ⟨ht.block.span, rfl⟩)

/-- **A value block is never at fault in the shape of its document.** -/
theorem errs_readValue (line : Nat) (ls : List Line) (e : SyntaxError)
    (h : readValue (U := U) line ls = .error e) : e.fault.isStructural = false := by
  have hread := corresponds_readValue (U := U) (N := fun _ _ ↦ True) line line ls fun _ _ ↦ trivial
  rw [h] at hread
  cases hread with
  | error hresembles => exact hresembles.ofValue

theorem forgetLine_eq_of_resembles {line line' : Nat} {s s' : Span}
    (h : Span.Resembles (fun n n' ↦ n + line' = n' + line) s s') :
    s.forgetLine = s'.forgetLine := by
  obtain ⟨first, last, first', last', hfirst, hlast, rfl, rfl⟩ := h
  rw [Span.forgetLine, Span.forgetLine, Span.upTo, Span.upTo]
  congr 1
  dsimp only
  omega

/-- **Where a value block stands does not matter to what it says.** -/
theorem readValue_forgetLines {line : Nat} (line' : Nat) {ls : List Line} {tree : ValueTree U}
    (h : readValue line ls = .ok tree) :
    ∃ tree' : ValueTree U, readValue line' ls = .ok tree' ∧
      tree'.forgetLines = tree.forgetLines := by
  have hread := corresponds_readValue (U := U) (N := fun n n' ↦ n + line' = n' + line) line line' ls
    fun _ _ ↦ by omega
  rw [h] at hread
  obtain ⟨tree', hagain, hresembles⟩ := hread.exists_of_left
  exact ⟨tree', hagain, (hresembles.mapSpan_eq fun _ _ hs ↦ forgetLine_eq_of_resembles hs).symm⟩

theorem inside_of_resembles {line size : Nat} {s s' : Span}
    (h : Span.Resembles (fun n _ ↦ line ≤ n ∧ n < line + size) s s') : s.Inside ⟨line, size⟩ := by
  obtain ⟨first, last, -, -, hfirst, hlast, rfl, -⟩ := h
  rw [Span.Inside, Span.upTo]
  dsimp only
  omega

/-- **All that is read of a value block lies within its lines**: an error, or the value and its
parts, none of which is a unit that is compiled already. -/
theorem readValue_inside (line : Nat) {ls : List Line} (hne : ls ≠ []) :
    (∀ e, readValue (U := U) line ls = .error e → e.span.Inside ⟨line, ls.length⟩) ∧
      ∀ t, readValue (U := U) line ls = .ok t → ∀ part ∈ t.parts, part.unit? = none ∧
        part.block.span.Inside ⟨line, ls.length⟩ := by
  have hpos := List.length_pos_iff.mpr hne
  have hread := corresponds_readValue (U := U)
    (N := fun n _ ↦ line ≤ n ∧ n < line + ls.length) line line ls fun i hi ↦ by omega
  constructor
  · intro e he
    rw [he] at hread
    cases hread with
    | error hresembles => exact inside_of_resembles hresembles.span
  · intro t ht part hpart
    rw [ht] at hread
    cases hread with
    | ok hresembles =>
      obtain ⟨part', hpart⟩ := hresembles.exists_of_mem_parts hpart
      exact ⟨hpart.unit?_eq_none, inside_of_resembles hpart.block.span⟩

/-- The value of a value block is what is read of its lines, but for the text that is kept. -/
theorem exists_read_of_readValue {line : Nat} {ls : List Line} {t : ValueTree U}
    (h : readValue line ls = .ok t) :
    ∃ first more tree, numbered line ls = first :: more ∧
      ValueTree.read ⟨first, more⟩ = .ok tree ∧
      t = tree.withBlock ⟨tree.block.span, String.ofList (unlines ls)⟩ := by
  rw [readValue] at h
  split at h
  · exact nomatch h
  · next first more hnumbered =>
    obtain ⟨tree, hread, ⟨⟩⟩ := bind_eq_ok_iff.mp h
    exact ⟨first, more, tree, hnumbered, hread, rfl⟩

theorem content_readValue {line : Nat} {ls : List Line} {tree : ValueTree U}
    (h : readValue line ls = .ok tree) : tree.block.content = String.ofList (unlines ls) := by
  obtain ⟨first, more, t, -, -, rfl⟩ := exists_read_of_readValue h
  rw [ValueTree.block_withBlock]

end Document

end DataOutline
