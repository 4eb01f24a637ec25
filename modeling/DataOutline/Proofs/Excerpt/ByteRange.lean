import Mathlib.Data.List.Induction
import DataOutline.Excerpt
import DataOutline.Proofs.Text.Lines

/-!
# The bytes of some lines

The byte range of some lines is found without the text of the source: by adding up the sizes of its
pieces and of the line feeds between them. Here the text is cut where the range says. What is in
front are the lines above, each with its line feed; what is covered are the lines that are meant;
and of what is behind only a carriage return belongs to them. A cut through a text is on the
boundary of a character, so a range never begins or ends inside of one, whether the source has the
lines or not.

Line numbers are words. Where the number of the last line is none and begins again at zero, the last
line comes before the first, and nothing is covered; only if it is zero itself the range goes on to
the end of the source.
-/

namespace DataOutline

open Text

namespace Text

theorem byteSize_toList (s : String) : byteSize s.toList = s.utf8ByteSize := by
  suffices h : ∀ cs, byteSize cs = (String.ofList cs).utf8ByteSize by
    rw [h, String.ofList_toList]
  intro cs
  induction cs with
  | nil => rfl
  | cons c cs ih =>
    have hsplit : String.ofList (c :: cs) = String.singleton c ++ String.ofList cs := by
      rw [String.singleton_eq_ofList, ← String.ofList_append, List.singleton_append]
    rw [hsplit, String.utf8ByteSize_append, String.utf8ByteSize_singleton, ← ih]
    rfl

/-- The carriage return that belongs to the line break behind a line, if there is one. -/
def returnOf (line : Line) : List Char := if line.getLast? = some '\r' then ['\r'] else []

theorem withoutReturn_append_returnOf (line : Line) :
    withoutReturn line ++ returnOf line = line := by
  rw [withoutReturn, returnOf]
  split
  · next h => exact List.dropLast_append_getLast? '\r' h
  · exact List.append_nil line

/-- Lines with a line feed behind each. -/
def terminated (ls : List Line) : List Char := ls.flatMap (· ++ ['\n'])

theorem terminated_cons (l : Line) (ls : List Line) :
    terminated (l :: ls) = l ++ '\n' :: terminated ls := by
  rw [terminated, List.flatMap_cons, ← terminated, List.append_assoc, List.singleton_append]

theorem terminated_append (ls ms : List Line) :
    terminated (ls ++ ms) = terminated ls ++ terminated ms := List.flatMap_append

theorem unlines_append_cons (ls : List Line) (l : Line) (ms : List Line) :
    unlines (ls ++ l :: ms) = terminated ls ++ unlines (l :: ms) := by
  induction ls with
  | nil => rfl
  | cons first ls ih =>
    obtain ⟨next, more, hmore⟩ : ∃ next more, ls ++ l :: ms = next :: more :=
      List.exists_cons_of_ne_nil (List.append_ne_nil_of_right_ne_nil ls (List.cons_ne_nil l ms))
    rw [List.cons_append, hmore, unlines_cons_cons, ← hmore, ih, terminated_cons,
      List.append_assoc, List.cons_append]

theorem count_terminated {ls : List Line} (h : ∀ l ∈ ls, '\n' ∉ l) :
    (terminated ls).count '\n' = ls.length := by
  induction ls with
  | nil => rfl
  | cons l ls ih =>
    obtain ⟨hl, hls⟩ := List.forall_mem_cons.mp h
    rw [terminated_cons, List.count_append, List.count_eq_zero_of_not_mem hl, List.count_cons_self,
      ih hls, Nat.zero_add, List.length_cons]

theorem getLast?_terminated (ls : List Line) :
    terminated ls = [] ∨ (terminated ls).getLast? = some '\n' := by
  induction ls using List.reverseRecOn with
  | nil => exact Or.inl rfl
  | append_singleton ls l _ =>
    have hlast : terminated [l] = l ++ ['\n'] := terminated_cons l []
    rw [terminated_append, hlast, ← List.append_assoc]
    exact Or.inr List.getLast?_concat

theorem exists_unlines_cons (l : Line) (ms : List Line) :
    ∃ rest, unlines (l :: ms) = withoutReturn l ++ (returnOf l ++ rest) ∧
      (rest = [] ∨ ∃ more, rest = '\n' :: more) := by
  rcases ms with _ | ⟨m, ms⟩
  · refine ⟨[], ?_, Or.inl rfl⟩
    rw [unlines_singleton, List.append_nil, withoutReturn_append_returnOf]
  · refine ⟨'\n' :: unlines (m :: ms), ?_, Or.inr ⟨_, rfl⟩⟩
    rw [unlines_cons_cons, ← List.append_assoc, withoutReturn_append_returnOf]

end Text

namespace Excerpt

theorem offset_eq (ls : List Line) : offset ls = byteSize (terminated ls) := by
  induction ls with
  | nil => rfl
  | cons l ls ih =>
    have hfeed : byteSize ('\n' :: terminated ls) = 1 + byteSize (terminated ls) := rfl
    change byteSize l + 1 + offset ls = _
    rw [ih, terminated_cons, byteSize_append, hfeed, Nat.add_assoc]

/-! ## Bounds -/

section Bounds

variable {source : String}

/-- What stands at the beginning of a source ends on the boundary of a character. -/
theorem isValid_byteSize {cs ds : List Char} (h : source.toList = cs ++ ds) :
    String.Pos.Raw.IsValid source ⟨byteSize cs⟩ := by
  refine String.Pos.Raw.isValid_iff_exists_append.mpr ⟨String.ofList cs, String.ofList ds, ?_, ?_⟩
  · rw [← String.ofList_append, ← h, String.ofList_toList]
  · refine String.Pos.Raw.ext ?_
    rw [String.byteIdx_rawEndPos, ← byteSize_toList, String.toList_ofList]

theorem toList_eq_of_rawLines {above below : List Line} {last : Line}
    (h : rawLines source.toList = above ++ last :: below) :
    source.toList = terminated above ++ unlines (last :: below) := by
  rw [← unlines_rawLines source.toList, h, unlines_append_cons]

theorem isValid_offset {above below : List Line} {last : Line}
    (h : rawLines source.toList = above ++ last :: below) :
    String.Pos.Raw.IsValid source ⟨offset above⟩ := by
  rw [offset_eq]
  exact isValid_byteSize (toList_eq_of_rawLines h)

theorem isValid_offset_add {above below : List Line} {last : Line}
    (h : rawLines source.toList = above ++ last :: below) :
    String.Pos.Raw.IsValid source ⟨offset above + byteSize (withoutReturn last)⟩ := by
  obtain ⟨rest, hrest, -⟩ := exists_unlines_cons last below
  rw [offset_eq, ← byteSize_append]
  have hsource : source.toList =
      (terminated above ++ withoutReturn last) ++ (returnOf last ++ rest) := by
    rw [toList_eq_of_rawLines h, hrest, List.append_assoc]
  exact isValid_byteSize hsource

theorem exists_split {ls : List Line} {number : Nat} (h : 1 ≤ number ∧ number ≤ ls.length) :
    ∃ above line below, ls = above ++ line :: below ∧ above.length = number - 1 := by
  have hlt : number - 1 < ls.length := by omega
  refine ⟨ls.take (number - 1), ls[number - 1], ls.drop (number - 1 + 1), ?_, ?_⟩
  · rw [List.getElem_cons_drop, List.take_append_drop]
  · rw [List.length_take, Nat.min_eq_left (Nat.le_of_lt hlt)]

theorem isValid_byteRange (source : String) (span : Span) :
    String.Pos.Raw.IsValid source ⟨(byteRange source span).1⟩ ∧
      String.Pos.Raw.IsValid source ⟨(byteRange source span).2⟩ := by
  have htotal : String.Pos.Raw.IsValid source ⟨byteSize source.toList⟩ :=
    isValid_byteSize (List.append_nil _).symm
  have hstart : String.Pos.Raw.IsValid source
      ⟨if 1 ≤ span.line ∧ span.line ≤ (rawLines source.toList).length then
        offset ((rawLines source.toList).take (span.line - 1)) else byteSize source.toList⟩ := by
    split
    · next h =>
      obtain ⟨above, line, below, hsplit, hlength⟩ := exists_split h
      rw [hsplit, List.take_left' hlength]
      exact isValid_offset hsplit
    · exact htotal
  have hstop : String.Pos.Raw.IsValid source ⟨(byteRange source span).2⟩ := by
    rw [byteRange]
    dsimp only
    split
    · next h =>
      obtain ⟨above, line, below, hsplit, hlength⟩ := exists_split h
      rw [hsplit, List.take_left' hlength, ← hlength, List.getElem?_append_right (Nat.le_refl _),
        Nat.sub_self]
      exact isValid_offset_add hsplit
    · exact htotal
  refine ⟨?_, hstop⟩
  rw [byteRange] at hstop ⊢
  dsimp only at hstop ⊢
  rcases Nat.le_total _ _ with hle | hle
  · rw [Nat.min_eq_left hle]
    exact hstart
  · rw [Nat.min_eq_right hle]
    exact hstop

end Bounds

/-! ## The lines of a source -/

/-- A source cut around the lines that a span stands for: the lines above, with all their line
feeds; the lines that are meant, with the line feeds between them; and behind these nothing that
belongs to them but a carriage return. -/
structure CutsOut (source : String) (span : Span) (above covered behind : String) : Prop where
  whole : source = above ++ covered ++ behind
  count_above : above.toList.count '\n' = span.line - 1
  whole_lines : above = "" ∨ above.toList.getLast? = some '\n'
  count_covered : covered.toList.count '\n' = span.size - 1
  line_end : ∃ last, (rawLines source.toList)[span.line + span.size - 2]? = some last ∧
    behind.toList.takeWhile (· ≠ '\n') = returnOf last

theorem exists_split_span {ls : List Line} {span : Span} (line : 1 ≤ span.line)
    (size : 1 ≤ span.size) (last : span.line + span.size - 1 ≤ ls.length) :
    ∃ above meant final below, ls = above ++ (meant ++ final :: below) ∧
      above.length = span.line - 1 ∧ meant.length = span.size - 1 := by
  have hnumber : 1 ≤ span.line + span.size - 1 ∧ span.line + span.size - 1 ≤ ls.length :=
    ⟨by omega, last⟩
  obtain ⟨upper, final, below, hsplit, hlength⟩ := exists_split hnumber
  refine ⟨upper.take (span.line - 1), upper.drop (span.line - 1), final, below, ?_, ?_, ?_⟩
  · rw [← List.append_assoc, List.take_append_drop, hsplit]
  · rw [List.length_take]
    omega
  · rw [List.length_drop]
    omega

theorem lastLine_eq {span : Span} (size : 1 ≤ span.size)
    (word : span.line + span.size - 1 < wordBound) : lastLine span = span.line + span.size - 1 := by
  rw [lastLine, Nat.max_eq_left size, Nat.mod_eq_of_lt word]

theorem byteRange_of_split {source : String} {span : Span} {above meant below : List Line}
    {final : Line} (size : 1 ≤ span.size) (word : span.line + span.size - 1 < wordBound)
    (split : rawLines source.toList = above ++ (meant ++ final :: below))
    (length_above : above.length = span.line - 1) (length_meant : meant.length = span.size - 1)
    (line : 1 ≤ span.line) :
    byteRange source span =
      (byteSize (terminated above),
        byteSize (terminated above ++ (terminated meant ++ withoutReturn final))) := by
  have hlength : (above ++ meant).length = span.line + span.size - 1 - 1 := by
    rw [List.length_append]
    omega
  have hbound : span.line + span.size - 1 ≤ (rawLines source.toList).length := by
    rw [split, List.length_append, List.length_append, List.length_cons]
    omega
  have hfinal : (rawLines source.toList)[span.line + span.size - 1 - 1]? = some final := by
    rw [split, ← List.append_assoc, ← hlength, List.getElem?_append_right (Nat.le_refl _),
      Nat.sub_self, List.getElem?_cons_zero]
  have htake : (rawLines source.toList).take (span.line + span.size - 1 - 1) = above ++ meant := by
    rw [split, ← List.append_assoc, List.take_left' hlength]
  have hstart : (rawLines source.toList).take (span.line - 1) = above := by
    rw [split, List.take_left' length_above]
  rw [byteRange]
  simp only [lastLine_eq size word]
  rw [if_pos ⟨line, by omega⟩, if_pos ⟨by omega, hbound⟩, hstart, htake, hfinal, Option.getD_some,
    offset_eq, offset_eq, ← byteSize_append, terminated_append, List.append_assoc,
    Nat.min_eq_left (byteSize_append _ _ ▸ Nat.le_add_right _ _)]

/-! ## Numbers beyond the words -/

theorem offset_append (ls ms : List Line) : offset (ls ++ ms) = offset ls + offset ms := by
  rw [offset_eq, offset_eq, offset_eq, terminated_append, byteSize_append]

theorem offset_take_le {ls : List Line} {m n : Nat} (h : m ≤ n) :
    offset (ls.take m) ≤ offset (ls.take n) := by
  obtain ⟨k, rfl⟩ := Nat.exists_eq_add_of_le h
  rw [List.take_add, offset_append]
  exact Nat.le_add_right _ _

theorem offset_add_le {ls : List Line} {number : Nat} (h : 1 ≤ number ∧ number ≤ ls.length) :
    offset (ls.take (number - 1)) + byteSize (withoutReturn ((ls[number - 1]?).getD [])) ≤
      offset (ls.take number) := by
  obtain ⟨above, line, below, rfl, hlength⟩ := exists_split h
  have hnumber : number = above.length + 1 := by omega
  have hsize : byteSize (withoutReturn line) ≤ byteSize line := by
    conv_rhs => rw [← withoutReturn_append_returnOf line, byteSize_append]
    exact Nat.le_add_right _ _
  have hline : offset [line] = byteSize line + 1 := rfl
  subst hnumber
  rw [Nat.add_sub_cancel, List.take_left, List.getElem?_append_right (Nat.le_refl _), Nat.sub_self,
    List.getElem?_cons_zero, Option.getD_some, List.take_length_add_append, List.take_succ_cons,
    List.take_zero, offset_append, hline]
  omega

/-- When the number of the last line begins again at zero, it is the number of a line before the
first, and the range is empty, or else it is zero, and the range goes on to the end. -/
theorem byteRange_of_wraps {source : String} {span : Span} (line : span.line < wordBound)
    (size : span.size < wordBound) (wraps : wordBound ≤ span.line + span.size - 1) :
    (byteRange source span).1 = (byteRange source span).2 ∨
      span.line + span.size - 1 = wordBound ∧
        (byteRange source span).2 = source.utf8ByteSize := by
  have hlast : lastLine span = span.line + span.size - 1 - wordBound := by
    rw [lastLine, Nat.max_eq_left (by omega), Nat.mod_eq_sub_mod wraps,
      Nat.mod_eq_of_lt (by omega)]
  rcases Nat.eq_or_lt_of_le wraps with hzero | hpos
  · refine Or.inr ⟨hzero.symm, ?_⟩
    rw [byteRange]
    dsimp only
    rw [if_neg (by omega), byteSize_toList]
  · refine Or.inl ?_
    obtain ⟨-, hvalid⟩ := isValid_byteRange source span
    have htotal := hvalid.le_utf8ByteSize
    rw [← byteSize_toList] at htotal
    rw [byteRange] at htotal ⊢
    dsimp only at htotal ⊢
    refine Nat.min_eq_right ?_
    by_cases hline : 1 ≤ span.line ∧ span.line ≤ (rawLines source.toList).length
    · rw [if_pos hline, if_pos (by omega)]
      exact Nat.le_trans (offset_add_le (by omega)) (offset_take_le (by omega))
    · rw [if_neg hline]
      exact htotal

/-- **The bytes of some lines are exactly these lines.** A range is always ordered, within the
source and on boundaries of characters. Of lines that the source has it leaves the lines above with
their line feeds in front of it, and behind it, before the next line feed, no more than the carriage
return of the last. This is so if the number of the last line is a word; if it is not, the range is
empty, or goes on to the end. -/
theorem byteRange_cutsOut (source : String) (span : Span) :
    (byteRange source span).1 ≤ (byteRange source span).2 ∧
      (byteRange source span).2 ≤ source.utf8ByteSize ∧
      String.Pos.Raw.IsValid source ⟨(byteRange source span).1⟩ ∧
      String.Pos.Raw.IsValid source ⟨(byteRange source span).2⟩ ∧
      (1 ≤ span.line → 1 ≤ span.size → span.line + span.size - 1 < wordBound →
        span.line + span.size - 1 ≤ (rawLines source.toList).length →
          ∃ above covered behind : String, CutsOut source span above covered behind ∧
            (byteRange source span).1 = above.utf8ByteSize ∧
            (byteRange source span).2 = (above ++ covered).utf8ByteSize) ∧
      (span.line < wordBound → span.size < wordBound → wordBound ≤ span.line + span.size - 1 →
        (byteRange source span).1 = (byteRange source span).2 ∨
          span.line + span.size - 1 = wordBound ∧
            (byteRange source span).2 = source.utf8ByteSize) := by
  obtain ⟨hstart, hstop⟩ := isValid_byteRange source span
  refine ⟨Nat.min_le_right _ _, hstop.le_utf8ByteSize, hstart, hstop,
    fun line size word last ↦ ?_, byteRange_of_wraps⟩
  obtain ⟨above, meant, final, below, hsplit, habove, hmeant⟩ := exists_split_span line size last
  obtain ⟨rest, hrest, hbreak⟩ := exists_unlines_cons final below
  have hplain : ∀ l ∈ above ++ (meant ++ final :: below), '\n' ∉ l := by
    rw [← hsplit]
    exact fun l hl ↦ newline_notMem_of_mem_rawLines hl
  obtain ⟨hplainAbove, hplain⟩ := List.forall_mem_append.mp hplain
  obtain ⟨hplainMeant, hplain⟩ := List.forall_mem_append.mp hplain
  have hplainFinal := (List.forall_mem_cons.mp hplain).1
  have htext : source.toList = terminated above ++ (terminated meant ++ withoutReturn final) ++
      (returnOf final ++ rest) := by
    rw [← List.append_assoc] at hsplit
    rw [toList_eq_of_rawLines hsplit, hrest, terminated_append]
    simp only [List.append_assoc]
  have hrange := byteRange_of_split size word hsplit habove hmeant line
  refine ⟨String.ofList (terminated above),
    String.ofList (terminated meant ++ withoutReturn final), String.ofList (returnOf final ++ rest),
    ⟨?_, ?_, ?_, ?_, final, ?_, ?_⟩, ?_, ?_⟩
  · rw [← String.ofList_append, ← String.ofList_append, ← htext, String.ofList_toList]
  · rw [String.toList_ofList, count_terminated hplainAbove, habove]
  · rw [String.toList_ofList]
    exact (getLast?_terminated above).imp_left fun h ↦ by rw [h, String.ofList_nil]
  · rw [String.toList_ofList, List.count_append, count_terminated hplainMeant, hmeant,
      List.count_eq_zero_of_not_mem fun h ↦ hplainFinal (mem_of_mem_withoutReturn h), Nat.add_zero]
  · rw [hsplit, ← List.append_assoc, List.getElem?_append_right, List.length_append,
      show span.line + span.size - 2 - (above.length + meant.length) = 0 by omega,
      List.getElem?_cons_zero]
    rw [List.length_append]
    omega
  · have hreturn : ∀ c ∈ returnOf final, decide (c ≠ '\n') = true := by
      intro c hc
      rw [returnOf] at hc
      split at hc
      · rw [List.mem_singleton.mp hc]
        rfl
      · exact absurd hc List.not_mem_nil
    rw [String.toList_ofList, List.takeWhile_append_of_pos hreturn]
    rcases hbreak with rfl | ⟨more, rfl⟩ <;> exact List.append_nil _
  · rw [hrange, ← byteSize_toList, String.toList_ofList]
  · rw [hrange, ← String.ofList_append, ← byteSize_toList, String.toList_ofList]

/-- Two of three lines, of which the first ends in a carriage return that is its own; and so many
lines from the third on that the number of the last begins again at zero. -/
theorem byteRange_cutsOut_returns :
    let source := "# ä\r\nx\r\r\n\ty\r\n"
    (byteRange source ⟨2, 2⟩ = (6, 12) ∧
      ∃ above covered behind : String, CutsOut source ⟨2, 2⟩ above covered behind ∧
        above.utf8ByteSize = 6 ∧ (above ++ covered).utf8ByteSize = 12) ∧
    (byteRange source ⟨3, 18446744073709551615⟩).1 =
      (byteRange source ⟨3, 18446744073709551615⟩).2 := by
  intro source
  have hrange : byteRange source ⟨2, 2⟩ = (6, 12) := by decide +kernel
  obtain ⟨-, -, -, -, hcut, -⟩ := byteRange_cutsOut source ⟨2, 2⟩
  obtain ⟨above, covered, behind, hcuts, hstart, hstop⟩ :=
    hcut (by decide) (by decide) (by decide) (by decide +kernel)
  rw [hrange] at hstart hstop
  obtain ⟨-, -, -, -, -, hwraps⟩ := byteRange_cutsOut source ⟨3, 18446744073709551615⟩
  refine ⟨⟨hrange, above, covered, behind, hcuts, hstart.symm, hstop.symm⟩, ?_⟩
  rcases hwraps (by decide) (by decide) (by decide) with hempty | ⟨hzero, -⟩
  · exact hempty
  · exact absurd hzero (by decide)

end Excerpt

end DataOutline
