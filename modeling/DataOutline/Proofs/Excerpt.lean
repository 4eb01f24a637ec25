import Mathlib.Data.List.TakeDrop
import DataOutline.Excerpt
import DataOutline.Proofs.Document.Span

/-!
# What an excerpt shows

An excerpt is a stretch of the source, each line with its number. The lines that are meant are
marked, all of them and no others, and there are two lines before and after them, fewer only where
the source begins or ends. This takes lines that the source has: of lines past its end an excerpt
shows nothing, and of those that go on past its end it shows a part.
-/

namespace DataOutline.Excerpt

open Text

def numberedRow (mark : List Char) (number : Nat) (line : Line) : List Char :=
  ' ' :: Nat.toDigits 10 number ++ ' ' :: mark ++ ' ' :: '|' :: ' ' :: line

/-- Lines in a row with one mark, given the number of the first. -/
def rows (mark : List Char) : Nat → List Line → List (List Char)
  | _, [] => []
  | number, line :: rest => numberedRow mark number line :: rows mark (number + 1) rest

/-- `Shows ls span text`: the text shows the lines that the span stands for, marked, with the two
lines before and after them, or as many as there are. -/
inductive Shows : List Line → Span → String → Prop
  | intro {above before meant after below : List Line}
      (upper : before.length = min margin (above ++ before).length)
      (lower : after.length = min margin (after ++ below).length) :
      Shows (above ++ (before ++ meant ++ after) ++ below)
        ⟨above.length + before.length + 1, meant.length⟩
        (String.ofList (unlines (rows [' ', ' '] (above.length + 1) before
          ++ rows ['>', '>'] (above.length + before.length + 1) meant
          ++ rows [' ', ' '] (above.length + before.length + meant.length + 1) after)))

/-- Lines that are all meant, or none of which is, have one mark. -/
theorem map_row_zipIdx {line size : Nat} (mark : List Char) (first : Nat) {k : Nat} {ls : List Line}
    (h : ∀ i < ls.length, (if line ≤ first + (k + i) ∧ first + (k + i) < line + size
      then ['>', '>'] else [' ', ' ']) = mark) :
    (ls.zipIdx k).map (fun (l, i) ↦ row ⟨line, size⟩ (first + i) l) = rows mark (first + k) ls := by
  induction ls generalizing k with
  | nil => rfl
  | cons l ls ih =>
    have hmark := h 0 (Nat.succ_pos _)
    rw [List.zipIdx_cons, List.map_cons, rows, ih fun i hi ↦ ?_]
    · rw [← hmark, Nat.add_zero]
      rfl
    · rw [Nat.add_right_comm, Nat.add_assoc k]
      exact h (i + 1) (Nat.succ_lt_succ hi)

/-- Lines that the source has can be cut out of it with the lines around them. -/
theorem exists_cut {ls : List Line} {span : Span} (h : span.Inside ⟨1, ls.length⟩) :
    ∃ above before meant after below, ls = above ++ (before ++ meant ++ after) ++ below ∧
      span = ⟨above.length + before.length + 1, meant.length⟩ ∧
      before.length = min margin (above ++ before).length ∧
      after.length = min margin (after ++ below).length := by
  obtain ⟨line, size⟩ := span
  obtain ⟨hline, -, hbound⟩ := h
  dsimp only at hline hbound
  -- What stands above the lines that are meant, what stands below, and two lines of each.
  have hcut := List.take_append_drop (line - 1) ls
  generalize hupper : ls.take (line - 1) = upper at hcut
  generalize hlower : (ls.drop (line - 1)).drop size = lower
  have hmeant := List.take_append_drop size (ls.drop (line - 1))
  have htop := List.take_append_drop (upper.length - margin) upper
  have hbottom := List.take_append_drop margin lower
  have hlength : upper.length = line - 1 := by
    rw [← hupper, List.length_take]
    omega
  refine ⟨upper.take (upper.length - margin), upper.drop (upper.length - margin),
    (ls.drop (line - 1)).take size, lower.take margin, lower.drop margin, ?_, ?_, ?_, ?_⟩
  · rw [← List.append_assoc, ← List.append_assoc, htop, List.append_assoc, List.append_assoc,
      hbottom, ← hlower, hmeant, hcut]
  · rw [List.length_take, List.length_drop, List.length_take, List.length_drop]
    congr 1 <;> omega
  · rw [htop, List.length_drop]
    omega
  · rw [hbottom, List.length_take]

/-- **An excerpt shows exactly the lines that are meant**, if the source has them. -/
theorem shows_render {source : String} {span : Span}
    (h : span.Inside ⟨1, (lines source.toList).length⟩) :
    Shows (lines source.toList) span (render source span) := by
  have hsize := h.2.1
  rw [render]
  generalize lines source.toList = ls at h
  obtain ⟨above, before, meant, after, below, rfl, rfl, hupper, hlower⟩ := exists_cut h
  dsimp only at hsize
  have hline : max (above.length + before.length + 1) 1 = above.length + before.length + 1 :=
    Nat.max_eq_left (Nat.succ_pos _)
  have hmeant : max meant.length 1 = meant.length := Nat.max_eq_left hsize
  have hfirst : max (above.length + before.length + 1 - margin) 1 = above.length + 1 := by
    simp only [margin, List.length_append] at hupper ⊢
    omega
  have hlast : min (above.length + before.length + 1 + meant.length - 1 + margin)
      (above ++ (before ++ meant ++ after) ++ below).length + 1 - (above.length + 1)
      = (before ++ meant ++ after).length := by
    simp only [margin, List.length_append] at hlower ⊢
    omega
  simp only [hline, hmeant, hfirst, hlast, Nat.add_sub_cancel]
  rw [List.append_assoc above, List.drop_left, List.take_left, List.zipIdx_append,
    List.zipIdx_append, List.map_append, List.map_append,
    map_row_zipIdx [' ', ' '] _ fun i hi ↦ if_neg (by omega),
    map_row_zipIdx ['>', '>'] _ fun i hi ↦ if_pos (by omega),
    map_row_zipIdx [' ', ' '] _ fun i hi ↦ if_neg (by rw [List.length_append]; omega)]
  have hmarked : above.length + 1 + (0 + before.length) = above.length + before.length + 1 := by
    omega
  have hbehind : above.length + 1 + (0 + (before ++ meant).length)
      = above.length + before.length + meant.length + 1 := by
    rw [List.length_append]
    omega
  rw [← List.append_assoc, hmarked, hbehind, Nat.add_zero]
  exact .intro hupper hlower

end DataOutline.Excerpt
