import Mathlib.Data.List.Basic
import DataOutline.Document.Basic
import DataOutline.Proofs.Entries

/-!
# Parts of values

A value is made of others, whatever its kind: an array of its elements, an object of the values of
its entries, a mixin of the values that it adds. What is said of a value and of all that it is made
of goes by these children alone, and need not tell the kinds apart.
-/

namespace DataOutline

variable {U : Type}

namespace ValueTree

def children : ValueTree U → List (ValueTree U)
  | .array _ _ elements => elements
  | .object _ entries => entries.map Prod.snd
  | .mixin _ _ _ additions => additions.map Prod.snd
  | .expression _ _ | .compiled _ _ => []

@[simp] theorem children_withBlock (block : Block) (t : ValueTree U) :
    (t.withBlock block).children = t.children := by
  cases t <;> rfl

theorem sizeOf_child_lt {t child : ValueTree U} (h : child ∈ t.children) :
    sizeOf child < sizeOf t := by
  cases t with
  | array block unordered elements =>
    have := List.sizeOf_lt_of_mem (show child ∈ elements from h)
    rw [array.sizeOf_spec]
    omega
  | object block entries =>
    obtain ⟨e, he, rfl⟩ := List.mem_map.mp h
    have := Entries.sizeOf_value_lt he
    rw [object.sizeOf_spec]
    omega
  | mixin block base removals additions =>
    obtain ⟨e, he, rfl⟩ := List.mem_map.mp h
    have := Entries.sizeOf_value_lt he
    rw [mixin.sizeOf_spec]
    omega
  | expression block code => exact absurd h List.not_mem_nil
  | compiled block unit => exact absurd h List.not_mem_nil

/-- Induction on a value by its children. -/
@[elab_as_elim]
theorem childInduction {motive : ValueTree U → Prop}
    (step : ∀ t, (∀ child ∈ t.children, motive child) → motive t) (t : ValueTree U) : motive t :=
  step t fun child _ ↦ childInduction step child
termination_by sizeOf t
decreasing_by exact sizeOf_child_lt ‹child ∈ t.children›

/-- A value and all that it is made of, each value before its own parts. -/
def parts (t : ValueTree U) : List (ValueTree U) :=
  t :: t.children.attach.flatMap fun child ↦ child.1.parts
termination_by sizeOf t
decreasing_by exact sizeOf_child_lt child.2

theorem parts_eq (t : ValueTree U) : t.parts = t :: t.children.flatMap parts := by
  rw [parts, List.flatMap_subtype (g := parts) (fun _ _ ↦ rfl), List.unattach_attach]

theorem self_mem_parts (t : ValueTree U) : t ∈ t.parts := by
  rw [parts_eq]
  exact List.mem_cons_self

theorem mem_parts_of_child {t child part : ValueTree U} (hchild : child ∈ t.children)
    (hpart : part ∈ child.parts) : part ∈ t.parts := by
  rw [parts_eq]
  exact List.mem_cons_of_mem _ (List.mem_flatMap.mpr ⟨child, hchild, hpart⟩)

end ValueTree

end DataOutline
