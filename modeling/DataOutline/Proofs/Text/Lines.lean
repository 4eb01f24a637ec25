import Mathlib.Data.List.Basic
import DataOutline.Text.Line

/-!
# Cutting a text into lines, and writing lines

Writing is a section of cutting: lines that hold no line feed and end in no carriage return are cut
out of the text that they are written to exactly as they were. Conversely no line that is cut out
of a text holds a line feed, which is what makes a second cut harmless.
-/

namespace DataOutline.Text

theorem notMem_of_mem_splitOn {a : Char} {text part : List Char} (h : part ∈ text.splitOn a) :
    a ∉ part := by
  induction text generalizing part with
  | nil =>
    rw [List.splitOn_nil, List.mem_singleton] at h
    rw [h]
    exact List.not_mem_nil
  | cons c text ih =>
    rw [List.splitOn_cons_eq_if_modifyHead] at h
    split at h
    · rcases List.mem_cons.mp h with rfl | h
      · exact List.not_mem_nil
      · exact ih h
    · next hc =>
      obtain ⟨first, more, hsplit⟩ := List.exists_cons_of_ne_nil (List.splitOn_ne_nil a text)
      rw [hsplit, List.modifyHead_cons] at h
      rw [hsplit] at ih
      rcases List.mem_cons.mp h with rfl | h
      · rw [List.mem_cons, not_or]
        exact ⟨fun heq ↦ hc (by simp [heq]), ih List.mem_cons_self⟩
      · exact ih (List.mem_cons_of_mem first h)

/-! ## Line feeds -/

theorem rawLines_nil : rawLines [] = [[]] := List.splitOn_nil _

theorem rawLines_newline_cons (text : List Char) :
    rawLines ('\n' :: text) = [] :: rawLines text := by
  rw [rawLines, List.splitOn_cons_eq_if_modifyHead, if_pos (beq_self_eq_true '\n'), ← rawLines]

theorem rawLines_cons {c : Char} {text : List Char} {first : Line} {more : List Line}
    (hc : c ≠ '\n') (h : rawLines text = first :: more) :
    rawLines (c :: text) = (c :: first) :: more := by
  rw [rawLines, List.splitOn_cons_eq_if_modifyHead, if_neg (by simpa using hc), ← rawLines, h,
    List.modifyHead_cons]

theorem exists_rawLines_eq_cons (text : List Char) :
    ∃ first more, rawLines text = first :: more :=
  List.exists_cons_of_ne_nil (List.splitOn_ne_nil '\n' text)

theorem rawLines_append_newline (text text' : List Char) :
    rawLines (text ++ '\n' :: text') = rawLines text ++ rawLines text' := by
  induction text with
  | nil => rw [List.nil_append, rawLines_newline_cons, rawLines_nil, List.singleton_append]
  | cons c text ih =>
    by_cases hc : c = '\n'
    · rw [hc, List.cons_append, rawLines_newline_cons, rawLines_newline_cons, ih, List.cons_append]
    · obtain ⟨first, more, hsplit⟩ := exists_rawLines_eq_cons text
      rw [hsplit, List.cons_append] at ih
      rw [List.cons_append, rawLines_cons hc ih, rawLines_cons hc hsplit, List.cons_append]

theorem lines_append_newline (text text' : List Char) :
    lines (text ++ '\n' :: text') = lines text ++ lines text' := by
  rw [lines, rawLines_append_newline, List.map_append, ← lines, ← lines]

theorem newline_notMem_of_mem_rawLines {text : List Char} {line : Line} (h : line ∈ rawLines text) :
    '\n' ∉ line :=
  notMem_of_mem_splitOn h

theorem mem_of_mem_withoutReturn {line : Line} {c : Char} (h : c ∈ withoutReturn line) :
    c ∈ line := by
  rw [withoutReturn] at h
  split at h
  · exact List.dropLast_subset line h
  · exact h

theorem newline_notMem_of_mem_lines {text : List Char} {line : Line} (h : line ∈ lines text) :
    '\n' ∉ line := by
  obtain ⟨raw, hraw, rfl⟩ := List.mem_map.mp h
  exact fun hc ↦ newline_notMem_of_mem_rawLines hraw (mem_of_mem_withoutReturn hc)

/-! ## Writing lines -/

@[simp] theorem unlines_singleton (line : Line) : unlines [line] = line := by
  rw [unlines, List.intercalate_singleton]

theorem unlines_cons_cons (l l' : Line) (ls : List Line) :
    unlines (l :: l' :: ls) = l ++ '\n' :: unlines (l' :: ls) := by
  rw [unlines, List.intercalate_cons_cons, List.append_assoc, List.singleton_append, ← unlines]

theorem unlines_append {ls ms : List Line} (hl : ls ≠ []) (hm : ms ≠ []) :
    unlines (ls ++ ms) = unlines ls ++ '\n' :: unlines ms := by
  obtain ⟨m, ms, rfl⟩ := List.exists_cons_of_ne_nil hm
  induction ls with
  | nil => exact absurd rfl hl
  | cons l ls ih =>
    rcases ls with _ | ⟨l', ls⟩
    · rw [List.singleton_append, unlines_cons_cons, unlines_singleton]
    · rw [List.cons_append, List.cons_append, unlines_cons_cons, ← List.cons_append,
        ih (List.cons_ne_nil _ _), unlines_cons_cons, List.append_assoc, List.cons_append]

/-- A carriage return at the end of a line is lost when the line is cut out of a text again. -/
theorem withoutReturn_eq_self {line : Line} (h : line.getLast? ≠ some '\r') :
    withoutReturn line = line := by
  rw [withoutReturn, if_neg h]

theorem rawLines_unlines {ls : List Line} (hne : ls ≠ []) (hnl : ∀ line ∈ ls, '\n' ∉ line) :
    rawLines (unlines ls) = ls := by
  rw [rawLines, unlines, List.splitOn_intercalate '\n' hnl hne]

/-- **Lines that are written can be cut out again.** -/
theorem lines_unlines {ls : List Line} (hne : ls ≠ []) (hnl : ∀ line ∈ ls, '\n' ∉ line)
    (hcr : ∀ line ∈ ls, line.getLast? ≠ some '\r') : lines (unlines ls) = ls := by
  rw [lines, rawLines_unlines hne hnl]
  have hmap : ls.map withoutReturn = ls.map fun line ↦ line :=
    List.map_congr_left fun line h ↦ withoutReturn_eq_self (hcr line h)
  rw [hmap, List.map_id']

/-! ## What a cut keeps -/

theorem unlines_rawLines (text : List Char) : unlines (rawLines text) = text := by
  rw [unlines, rawLines, List.intercalate_splitOn]

theorem rawLines_inj {text text' : List Char} : rawLines text = rawLines text' ↔ text = text' := by
  constructor
  · intro h
    rw [← unlines_rawLines text, h, unlines_rawLines]
  · exact congrArg rawLines

theorem length_withoutReturn_le (line : Line) : (withoutReturn line).length ≤ line.length := by
  rw [withoutReturn]
  split
  · exact (List.dropLast_sublist line).length_le
  · exact Nat.le_refl _

theorem length_flatten_map_withoutReturn_le (ls : List Line) :
    (ls.map withoutReturn).flatten.length ≤ ls.flatten.length := by
  induction ls with
  | nil => exact Nat.le_refl _
  | cons line ls ih =>
    rw [List.map_cons, List.flatten_cons, List.flatten_cons, List.length_append,
      List.length_append]
    exact Nat.add_le_add (length_withoutReturn_le line) ih

/-- Lines that are no shorter than they were had no carriage return at their ends. -/
theorem getLast?_ne_of_length_flatten_le {ls : List Line}
    (h : ls.flatten.length ≤ (ls.map withoutReturn).flatten.length) :
    ∀ line ∈ ls, line.getLast? ≠ some '\r' := by
  induction ls with
  | nil => exact fun _ h ↦ absurd h List.not_mem_nil
  | cons line ls ih =>
    rw [List.map_cons, List.flatten_cons, List.flatten_cons, List.length_append,
      List.length_append] at h
    have hline := length_withoutReturn_le line
    have hls := length_flatten_map_withoutReturn_le ls
    refine List.forall_mem_cons.mpr ⟨fun hcr ↦ ?_, ih (by omega)⟩
    have hpos : 0 < line.length := List.length_pos_of_mem (List.mem_of_getLast? hcr)
    rw [withoutReturn, if_pos hcr, List.length_dropLast] at h
    omega

end DataOutline.Text
