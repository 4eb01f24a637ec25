import Mathlib.Data.List.MinMax
import Mathlib.Order.Nat
import DataOutline.Expression.Basic
import DataOutline.Proofs.Entries

/-!
# Heights of expressions

An expression is a tree, and its height is the number of steps down to its deepest part. There are
two kinds of steps. A part may lead the expression it belongs to, as a left operand, a condition or
the target of a suffix does: what makes the whole an expression of its own comes behind it in the
text. Every other part stands inside, behind an operator or a bracket. The height counts all steps,
the nesting those inwards only, and the chaining those along leading parts.
-/

namespace DataOutline.Expression

/-- Where a part stands in the expression that it belongs to. -/
inductive Place where
  | leading
  | inner
deriving DecidableEq, Repr

/-- The parts of an expression with their places, from left to right. -/
def branches : Expression → List (Place × Expression)
  | .null | .boolean _ | .number _ | .string _ | .identifier _ => []
  | .array items => items.map (Place.inner, ·)
  | .object entries => entries.map fun (_, e) ↦ (.inner, e)
  | .member target _ => [(.leading, target)]
  | .index target place => [(.leading, target), (.inner, place)]
  | .call callee arguments => (.leading, callee) :: arguments.map (Place.inner, ·)
  | .unary _ operand => [(.inner, operand)]
  | .binary _ left right => [(.leading, left), (.inner, right)]
  | .conditional condition whenTrue whenFalse =>
    [(.leading, condition), (.inner, whenTrue), (.inner, whenFalse)]

theorem sizeOf_branch_lt {e : Expression} {b : Place × Expression} (h : b ∈ e.branches) :
    sizeOf b.2 < sizeOf e := by
  cases e with
  | null | boolean | number | string | identifier => exact absurd h List.not_mem_nil
  | array items =>
    obtain ⟨item, hitem, rfl⟩ := List.mem_map.mp h
    have := List.sizeOf_lt_of_mem hitem
    rw [array.sizeOf_spec]
    dsimp only
    omega
  | object entries =>
    obtain ⟨entry, hentry, rfl⟩ := List.mem_map.mp h
    have := Entries.sizeOf_value_lt hentry
    rw [object.sizeOf_spec]
    dsimp only
    omega
  | call callee arguments =>
    rw [call.sizeOf_spec]
    rcases List.mem_cons.mp h with rfl | h
    · dsimp only
      omega
    · obtain ⟨argument, hargument, rfl⟩ := List.mem_map.mp h
      have := List.sizeOf_lt_of_mem hargument
      dsimp only
      omega
  | member | index | unary | binary | conditional =>
    simp only [branches, List.mem_cons, List.not_mem_nil, or_false] at h
    rcases h with rfl | rfl | rfl <;> simp +arith

/-- Induction on an expression by its parts. -/
@[elab_as_elim]
theorem branchInduction {motive : Expression → Prop}
    (step : ∀ e, (∀ b ∈ e.branches, motive b.2) → motive e) (e : Expression) : motive e :=
  step e fun b _ ↦ branchInduction step b.2
termination_by sizeOf e
decreasing_by exact sizeOf_branch_lt ‹b ∈ e.branches›

/-! ## Weighing paths -/

/-- The greatest weight of a path down an expression, each step weighing what its place does. -/
def reach (weight : Place → Nat) (e : Expression) : Nat :=
  (e.branches.attach.map fun b ↦ weight b.1.1 + reach weight b.1.2).foldr max 0
termination_by sizeOf e
decreasing_by exact sizeOf_branch_lt b.2

theorem reach_le_iff {weight : Place → Nat} {e : Expression} {n : Nat} :
    e.reach weight ≤ n ↔ ∀ b ∈ e.branches, weight b.1 + b.2.reach weight ≤ n := by
  rw [reach]
  constructor
  · intro h b hb
    have hmem := List.mem_map_of_mem (f := fun b ↦ weight b.1.1 + reach weight b.1.2)
      (List.mem_attach e.branches ⟨b, hb⟩)
    exact (List.le_max_of_le hmem (Nat.le_refl _)).trans h
  · intro h
    refine List.max_le_of_forall_le _ n fun x hx ↦ ?_
    obtain ⟨b, -, rfl⟩ := List.mem_map.mp hx
    exact h b.1 b.2

theorem reach_eq_zero {weight : Place → Nat} {e : Expression} (h : e.branches = []) :
    e.reach weight = 0 := by
  rw [← Nat.le_zero, reach_le_iff, h]
  exact fun b hb ↦ absurd hb List.not_mem_nil

/-- The greatest number of steps down an expression. An expression without parts has height zero. -/
def height : Expression → Nat := reach fun _ ↦ 1

/-- The greatest number of steps to inner parts on a path down an expression. -/
def nesting : Expression → Nat := reach fun
  | .inner => 1
  | .leading => 0

/-- The greatest number of steps to leading parts on a path down an expression. -/
def chaining : Expression → Nat := reach fun
  | .inner => 0
  | .leading => 1

theorem height_le_iff {e : Expression} {n : Nat} :
    e.height ≤ n ↔ ∀ b ∈ e.branches, b.2.height + 1 ≤ n := by
  simp only [height, reach_le_iff, Nat.add_comm]

theorem height_branch_lt {e : Expression} {b : Place × Expression} (h : b ∈ e.branches) :
    b.2.height < e.height := height_le_iff.mp (Nat.le_refl _) b h

theorem nesting_le_succ {e : Expression} {n : Nat}
    (leading : ∀ part, (.leading, part) ∈ e.branches → part.nesting ≤ n + 1)
    (inner : ∀ part, (.inner, part) ∈ e.branches → part.nesting ≤ n) : e.nesting ≤ n + 1 := by
  refine reach_le_iff.mpr fun b hb ↦ ?_
  obtain ⟨_ | _, part⟩ := b
  · exact (Nat.zero_add _).trans_le (leading part hb)
  · exact (Nat.add_comm _ _).trans_le (Nat.succ_le_succ (inner part hb))

/-- Steps inwards and steps along leading parts are all the steps there are. -/
theorem height_le_nesting_add_chaining (e : Expression) : e.height ≤ e.nesting + e.chaining := by
  induction e using branchInduction with
  | step e ih =>
    rw [height_le_iff]
    intro b hb
    have hpart := ih b hb
    have hnesting := reach_le_iff.mp (Nat.le_refl e.nesting) b hb
    have hchaining := reach_le_iff.mp (Nat.le_refl e.chaining) b hb
    obtain ⟨_ | _, part⟩ := b
    all_goals
      simp only [nesting, chaining] at *
      omega

end DataOutline.Expression
