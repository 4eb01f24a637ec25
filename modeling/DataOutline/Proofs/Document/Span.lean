import Mathlib.Data.List.Basic
import DataOutline.Document.Printer
import DataOutline.Proofs.Entries

/-!
# Documents over other lines

Where a document stands in its source is no part of what it says. The spans of a document can be
changed all at once, and dropping the line numbers leaves what two documents have in common that
differ only in where their lines stand. Printing looks at no line number.
-/

namespace DataOutline

/-- One line or more, all of them within other lines. -/
def Span.Inside (s outer : Span) : Prop :=
  outer.line ≤ s.line ∧ 1 ≤ s.size ∧ s.line + s.size ≤ outer.line + outer.size

theorem Span.Inside.trans {s inner outer : Span} (h : s.Inside inner) (h' : inner.Inside outer) :
    s.Inside outer := by
  obtain ⟨hline, hsize, hbound⟩ := h
  obtain ⟨hline', -, hbound'⟩ := h'
  exact ⟨Nat.le_trans hline' hline, hsize, Nat.le_trans hbound hbound'⟩

theorem Span.Inside.below {s : Span} {n k : Nat} (h : s.Inside ⟨n + 1, k⟩) :
    s.Inside ⟨n, k + 1⟩ := by
  obtain ⟨hline, hsize, hbound⟩ := h
  refine ⟨Nat.le_of_succ_le hline, hsize, ?_⟩
  dsimp only at hbound ⊢
  omega

def Span.forgetLine (s : Span) : Span := ⟨0, s.size⟩

def Block.mapSpan (f : Span → Span) (block : Block) : Block := ⟨f block.span, block.content⟩

def Header.forgetLine (h : Header) : Header := { h with line := 0 }

variable {U : Type}

/-! ## Values -/

/-- Induction on a value: every part of it may be assumed. -/
@[elab_as_elim]
theorem ValueTree.induction {motive : ValueTree U → Prop}
    (array : ∀ block unordered elements, (∀ t ∈ elements, motive t) →
      motive (.array block unordered elements))
    (object : ∀ block entries, (∀ e ∈ entries, motive e.2) → motive (.object block entries))
    (mixin : ∀ block base removals additions, (∀ e ∈ additions, motive e.2) →
      motive (.mixin block base removals additions))
    (expression : ∀ block code, motive (.expression block code))
    (compiled : ∀ block unit, motive (.compiled block unit)) : ∀ t, motive t
  | .array block unordered elements =>
    array block unordered elements fun t _ ↦
      ValueTree.induction array object mixin expression compiled t
  | .object block entries =>
    object block entries fun e _ ↦
      ValueTree.induction array object mixin expression compiled e.2
  | .mixin block base removals additions =>
    mixin block base removals additions fun e _ ↦
      ValueTree.induction array object mixin expression compiled e.2
  | .expression block code => expression block code
  | .compiled block unit => compiled block unit
termination_by t => sizeOf t
decreasing_by
  · have := List.sizeOf_lt_of_mem ‹t ∈ elements›
    simp only [ValueTree.array.sizeOf_spec]
    omega
  · have := Entries.sizeOf_value_lt ‹e ∈ entries›
    simp only [ValueTree.object.sizeOf_spec]
    omega
  · have := Entries.sizeOf_value_lt ‹e ∈ additions›
    simp only [ValueTree.mixin.sizeOf_spec]
    omega

mutual

/-- A value whose spans, and those of its parts, are changed. -/
def ValueTree.mapSpan (f : Span → Span) : ValueTree U → ValueTree U
  | .array block unordered elements =>
    .array (block.mapSpan f) unordered (ValueTree.mapSpanAll f elements)
  | .object block entries => .object (block.mapSpan f) (ValueTree.mapSpanEntries f entries)
  | .mixin block base removals additions =>
    .mixin (block.mapSpan f) base removals (ValueTree.mapSpanEntries f additions)
  | .expression block code => .expression (block.mapSpan f) code
  | .compiled block unit => .compiled (block.mapSpan f) unit

def ValueTree.mapSpanAll (f : Span → Span) : List (ValueTree U) → List (ValueTree U)
  | [] => []
  | t :: ts => t.mapSpan f :: ValueTree.mapSpanAll f ts

def ValueTree.mapSpanEntries (f : Span → Span) :
    List (String × ValueTree U) → List (String × ValueTree U)
  | [] => []
  | (name, t) :: es => (name, t.mapSpan f) :: ValueTree.mapSpanEntries f es

end

namespace ValueTree

theorem mapSpanAll_eq_map (f : Span → Span) (ts : List (ValueTree U)) :
    mapSpanAll f ts = ts.map (mapSpan f) := by
  induction ts with
  | nil => rfl
  | cons t ts ih => rw [mapSpanAll, ih, List.map_cons]

theorem mapSpanEntries_eq_zip (f : Span → Span) (es : List (String × ValueTree U)) :
    mapSpanEntries f es = (es.map Prod.fst).zip ((es.map Prod.snd).map (mapSpan f)) := by
  induction es with
  | nil => rfl
  | cons e es ih => rw [mapSpanEntries, ih]; rfl

@[simp] theorem block_mapSpan (f : Span → Span) (t : ValueTree U) :
    (t.mapSpan f).block = t.block.mapSpan f := by
  cases t <;> rfl

@[simp] theorem block_withBlock (block : Block) (t : ValueTree U) :
    (t.withBlock block).block = block := by
  cases t <;> rfl

def forgetLines (t : ValueTree U) : ValueTree U := t.mapSpan Span.forgetLine

end ValueTree

/-! ## Values without their lines -/

/-- No line at all. -/
def Block.none : Block := ⟨⟨0, 0⟩, ""⟩

mutual

/-- What a value says, whatever lines it and its parts stand on. -/
def ValueTree.bare : ValueTree U → ValueTree U
  | .array _ unordered elements => .array Block.none unordered (ValueTree.bareAll elements)
  | .object _ entries => .object Block.none (ValueTree.bareEntries entries)
  | .mixin _ base removals additions =>
    .mixin Block.none base removals (ValueTree.bareEntries additions)
  | .expression _ code => .expression Block.none code
  | .compiled _ unit => .compiled Block.none unit

def ValueTree.bareAll : List (ValueTree U) → List (ValueTree U)
  | [] => []
  | t :: ts => t.bare :: ValueTree.bareAll ts

def ValueTree.bareEntries : List (String × ValueTree U) → List (String × ValueTree U)
  | [] => []
  | (name, t) :: es => (name, t.bare) :: ValueTree.bareEntries es

end

namespace ValueTree

theorem bareAll_eq_map (ts : List (ValueTree U)) : bareAll ts = ts.map bare := by
  induction ts with
  | nil => rfl
  | cons t ts ih => rw [bareAll, ih, List.map_cons]

theorem bareEntries_eq_zip (es : List (String × ValueTree U)) :
    bareEntries es = (es.map Prod.fst).zip ((es.map Prod.snd).map bare) := by
  induction es with
  | nil => rfl
  | cons e es ih => rw [bareEntries, ih]; rfl

@[simp] theorem bare_withBlock (block : Block) (t : ValueTree U) :
    (t.withBlock block).bare = t.bare := by
  cases t <;> rfl

end ValueTree

/-! ## Sections -/

mutual

def Node.forgetLines : Node U → Node U
  | .subsection header children => .subsection header.forgetLine (Node.forgetLinesAll children)
  | .text block => .text (block.mapSpan Span.forgetLine)
  | .code language block => .code language (block.mapSpan Span.forgetLine)
  | .value tree => .value tree.forgetLines

def Node.forgetLinesAll : List (Node U) → List (Node U)
  | [] => []
  | n :: ns => n.forgetLines :: Node.forgetLinesAll ns

end

theorem Node.forgetLinesAll_eq_map (ns : List (Node U)) :
    forgetLinesAll ns = ns.map forgetLines := by
  induction ns with
  | nil => rfl
  | cons n ns ih => rw [forgetLinesAll, ih, List.map_cons]

/-- A section without the numbers of its lines: names, levels, contents, languages and sizes, and
all that its values are made of. -/
def Section.forgetLines (s : Section U) : Section U :=
  ⟨s.header.forgetLine, s.children.map Node.forgetLines⟩

/-! ## Other values in the same places -/

mutual

def Node.mapValues {V : Type} (f : ValueTree U → ValueTree V) : Node U → Node V
  | .subsection header children => .subsection header (Node.mapValuesAll f children)
  | .text block => .text block
  | .code language block => .code language block
  | .value tree => .value (f tree)

def Node.mapValuesAll {V : Type} (f : ValueTree U → ValueTree V) : List (Node U) → List (Node V)
  | [] => []
  | n :: ns => n.mapValues f :: Node.mapValuesAll f ns

end

theorem Node.mapValuesAll_eq_map {V : Type} (f : ValueTree U → ValueTree V) (ns : List (Node U)) :
    mapValuesAll f ns = ns.map (mapValues f) := by
  induction ns with
  | nil => rfl
  | cons n ns ih => rw [mapValuesAll, ih, List.map_cons]

def Section.mapValues {V : Type} (f : ValueTree U → ValueTree V) (s : Section U) : Section V :=
  ⟨s.header, s.children.map (Node.mapValues f)⟩

/-- What a child says, whatever lines it stands on. Text and code keep their sizes. -/
def Node.bare (n : Node U) : Node U := (n.mapValues ValueTree.bare).forgetLines

/-- What a document says, whatever lines it stands on: its sections with their names and levels, its
text and code, and what its values say. -/
def Section.bare (s : Section U) : Section U := (s.mapValues ValueTree.bare).forgetLines

/-! ## Printing -/

mutual

theorem Node.pieces_forgetLines : ∀ n : Node U, n.forgetLines.pieces = n.pieces
  | .subsection header children => by
    rw [Node.forgetLines, Node.pieces, Node.pieces, Node.piecesAll_forgetLinesAll children]
    rfl
  | .text block => rfl
  | .code language block => rfl
  | .value tree => by
    rw [Node.forgetLines, Node.pieces, Node.pieces, ValueTree.forgetLines,
      ValueTree.block_mapSpan]
    rfl

theorem Node.piecesAll_forgetLinesAll :
    ∀ ns : List (Node U), Node.piecesAll (Node.forgetLinesAll ns) = Node.piecesAll ns
  | [] => rfl
  | n :: ns => by
    rw [Node.forgetLinesAll, Node.piecesAll, Node.piecesAll, Node.pieces_forgetLines n,
      Node.piecesAll_forgetLinesAll ns]

end

mutual

theorem Node.pieces_mapValues {V : Type} {f : ValueTree U → ValueTree V}
    (content : ∀ t, (f t).block.content = t.block.content) :
    ∀ n : Node U, (n.mapValues f).pieces = n.pieces
  | .subsection header children => by
    rw [Node.mapValues, Node.pieces, Node.pieces, Node.piecesAll_mapValuesAll content children]
  | .text block => rfl
  | .code language block => rfl
  | .value tree => by rw [Node.mapValues, Node.pieces, Node.pieces, content]

theorem Node.piecesAll_mapValuesAll {V : Type} {f : ValueTree U → ValueTree V}
    (content : ∀ t, (f t).block.content = t.block.content) :
    ∀ ns : List (Node U), Node.piecesAll (Node.mapValuesAll f ns) = Node.piecesAll ns
  | [] => rfl
  | n :: ns => by
    rw [Node.mapValuesAll, Node.piecesAll, Node.piecesAll, Node.pieces_mapValues content n,
      Node.piecesAll_mapValuesAll content ns]

end

/-- Of a value, printing looks at the lines that are kept and at nothing else. -/
theorem Section.print_mapValues {V : Type} {f : ValueTree U → ValueTree V}
    (content : ∀ t, (f t).block.content = t.block.content) (s : Section U) :
    (s.mapValues f).print = s.print := by
  rw [Section.print, Section.print, Section.mapValues, ← Node.mapValuesAll_eq_map,
    Node.piecesAll_mapValuesAll content]

theorem Section.print_forgetLines (s : Section U) : s.forgetLines.print = s.print := by
  rw [Section.print, Section.print, Section.forgetLines, ← Node.forgetLinesAll_eq_map,
    Node.piecesAll_forgetLinesAll]
  rfl

end DataOutline
