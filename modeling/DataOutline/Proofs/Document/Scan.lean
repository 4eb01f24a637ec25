import Mathlib.Data.List.TakeWhile
import DataOutline.Proofs.Document.Gathering

/-!
# Scanning the lines of a source

A scan goes down the lines of a source. It meets every line but those that lie inside of fenced
code, where a line that begins with a fence opens code and the next line that is a fence alone
closes it. Whether the lines that a scan meets make up a document can be seen from each of them, the
header before it, and the lines below it.

What the reader tests in a fixed order is put here as separate conditions on a line, no two of
which hold of one line.
-/

namespace DataOutline.Document

open Text

/-! ## The lines that a scan meets -/

/-- A line that a scan meets: its number, what it says, and the lines below it. -/
structure Met where
  number : Nat
  line : Line
  below : List Line

/-- The lines that a scan meets, if the first one is line `n` of the source. `inside` says whether
fenced code is open. -/
def scan : Bool → Nat → List Line → List Met
  | _, _, [] => []
  | true, n, line :: rest => scan (line ≠ fence) (n + 1) rest
  | false, n, line :: rest => ⟨n, line, rest⟩ :: scan (fence.isPrefixOf line) (n + 1) rest

theorem scan_line (n : Nat) {line : Line} (rest : List Line) (h : ¬fence <+: line) :
    scan false n (line :: rest) = ⟨n, line, rest⟩ :: scan false (n + 1) rest := by
  have hfence : fence.isPrefixOf line = false := by
    rw [Bool.eq_false_iff, ne_eq, List.isPrefixOf_iff_prefix]
    exact h
  rw [scan, hfence]

theorem scan_fence (n : Nat) (language : Line) (rest : List Line) :
    scan false n ((fence ++ language) :: rest)
      = ⟨n, fence ++ language, rest⟩ :: scan true (n + 1) rest := by
  have hfence : fence.isPrefixOf (fence ++ language) = true :=
    List.isPrefixOf_iff_prefix.mpr (List.prefix_append _ _)
  rw [scan, hfence]

theorem scan_inside (n : Nat) {ls : List Line} (rest : List Line) (h : ∀ l ∈ ls, l ≠ fence) :
    scan true n (ls ++ fence :: rest) = scan false (n + ls.length + 1) rest := by
  induction ls generalizing n with
  | nil =>
    rw [List.nil_append, scan, decide_eq_false (not_not.mpr rfl)]
    rfl
  | cons l ls ih =>
    obtain ⟨hl, hls⟩ := List.forall_mem_cons.mp h
    rw [List.cons_append, scan, decide_eq_true hl, ih (n + 1) hls, List.length_cons]
    congr 1
    omega

theorem scan_unclosed (n : Nat) {ls : List Line} (h : fence ∉ ls) : scan true n ls = [] := by
  induction ls generalizing n with
  | nil => rw [scan]
  | cons l ls ih =>
    rw [List.mem_cons, not_or] at h
    rw [scan, decide_eq_true (Ne.symm h.1), ih (n + 1) h.2]

/-- Induction along a scan: one line after the other, and fenced code as a whole. -/
theorem scan_induction {motive : Nat → List Line → Prop} (nil : ∀ n, motive n [])
    (line : ∀ n line rest, ¬fence <+: line → motive (n + 1) rest → motive n (line :: rest))
    (code : ∀ n language ls rest, (∀ l ∈ ls, l ≠ fence) → motive (n + ls.length + 2) rest →
      motive n ((fence ++ language) :: (ls ++ fence :: rest)))
    (unclosed : ∀ n language rest, fence ∉ rest → motive n ((fence ++ language) :: rest))
    (n : Nat) (lines : List Line) : motive n lines := by
  -- Code is left at its closing fence, any number of lines below, so the induction is on the number
  -- of lines.
  induction hlen : lines.length using Nat.strongRecOn generalizing n lines with
  | _ len ih =>
    rcases lines with _ | ⟨first, rest⟩
    · exact nil n
    · rw [List.length_cons] at hlen
      by_cases hfirst : fence <+: first
      · obtain ⟨language, rfl⟩ := hfirst
        by_cases hclosed : fence ∈ rest
        · obtain ⟨ls, after, rfl, hls⟩ := List.eq_append_cons_of_mem hclosed
          rw [List.length_append, List.length_cons] at hlen
          refine code n language ls after (fun l hl h ↦ hls (h ▸ hl)) ?_
          exact ih _ (by omega) _ _ rfl
        · exact unclosed n language rest hclosed
      · exact line n first rest hfirst (ih _ (by omega) _ _ rfl)

theorem le_number_of_mem_scan {inside : Bool} {n : Nat} {lines : List Line} {m : Met}
    (h : m ∈ scan inside n lines) : n ≤ m.number := by
  induction lines generalizing inside n with
  | nil =>
    rw [scan] at h
    exact absurd h List.not_mem_nil
  | cons l lines ih =>
    cases inside with
    | true =>
      rw [scan] at h
      exact Nat.le_of_succ_le (ih h)
    | false =>
      rw [scan, List.mem_cons] at h
      rcases h with rfl | h
      · exact Nat.le_refl _
      · exact Nat.le_of_succ_le (ih h)

theorem line_mem_of_mem_scan {inside : Bool} {n : Nat} {lines : List Line} {m : Met}
    (h : m ∈ scan inside n lines) : m.line ∈ lines := by
  induction lines generalizing inside n with
  | nil =>
    rw [scan] at h
    exact absurd h List.not_mem_nil
  | cons l lines ih =>
    cases inside with
    | true =>
      rw [scan] at h
      exact List.mem_cons_of_mem l (ih h)
    | false =>
      rw [scan, List.mem_cons] at h
      rcases h with rfl | h
      · exact List.mem_cons_self
      · exact List.mem_cons_of_mem l (ih h)

theorem number_lt_of_mem_scan {inside : Bool} {n : Nat} {lines : List Line} {m : Met}
    (h : m ∈ scan inside n lines) : m.number < n + lines.length := by
  induction lines generalizing inside n with
  | nil =>
    rw [scan] at h
    exact absurd h List.not_mem_nil
  | cons l lines ih =>
    rw [List.length_cons]
    cases inside with
    | true =>
      rw [scan] at h
      have := ih h
      omega
    | false =>
      rw [scan, List.mem_cons] at h
      rcases h with rfl | h
      · exact Nat.lt_add_of_pos_right (Nat.succ_pos _)
      · have := ih h
        omega

/-! ## What a line is -/

/-- One or more number signs, alone or with a space behind them. -/
def IsHeader (level : Nat) (line : Line) : Prop :=
  0 < level ∧ ∃ tail, line = List.replicate level '#' ++ tail ∧
    (tail = [] ∨ ∃ name, tail = ' ' :: name)

/-- A line that is indented by a tab at least and is not blank. -/
def IsValueLine (line : Line) : Prop := line.head? = some '\t' ∧ allBlank line = false

/-- A line that is not blank but begins with a blank that is no tab. -/
def IsStray (line : Line) : Prop :=
  ∃ c rest, line = c :: rest ∧ isBlank c = true ∧ c ≠ '\t' ∧ allBlank line = false

theorem isHeader_of_header? {line name : Line} {level : Nat}
    (h : header? line = some (level, name)) : IsHeader level line := by
  rw [header?] at h
  by_cases hzero : (line.takeWhile (· == '#')).length = 0
  · rw [if_pos hzero] at h
    exact nomatch h
  · rw [if_neg hzero] at h
    have hsigns : line.takeWhile (· == '#')
        = List.replicate (line.takeWhile (· == '#')).length '#' := by
      refine List.eq_replicate_iff.mpr ⟨rfl, fun c hc ↦ ?_⟩
      exact beq_iff_eq.mp (List.mem_takeWhile_imp (p := (· == '#')) hc)
    have hsplit : line = List.replicate (line.takeWhile (· == '#')).length '#'
        ++ line.drop (line.takeWhile (· == '#')).length := by
      rw [← hsigns]
      exact (List.prefix_iff_eq_append.mp (List.takeWhile_prefix _)).symm
    split at h
    · next hdrop =>
      cases h
      exact ⟨Nat.pos_of_ne_zero hzero, _, hsplit, Or.inl hdrop⟩
    · next tail hdrop =>
      cases h
      exact ⟨Nat.pos_of_ne_zero hzero, _, hsplit, Or.inr ⟨tail, hdrop⟩⟩
    · exact nomatch h

theorem exists_header?_of_isHeader {line : Line} {level : Nat} (h : IsHeader level line) :
    ∃ name, header? line = some (level, name) := by
  obtain ⟨hpos, tail, rfl, htail⟩ := h
  have hend : tail.takeWhile (· == '#') = [] := by
    rcases htail with rfl | ⟨name, rfl⟩
    · rfl
    · rfl
  have hlevel : ((List.replicate level '#' ++ tail).takeWhile (· == '#')).length = level := by
    rw [List.takeWhile_append_of_pos, hend, List.append_nil, List.length_replicate]
    intro c hc
    exact beq_iff_eq.mpr (List.eq_of_mem_replicate hc)
  rw [header?, hlevel]
  simp only [if_neg (Nat.pos_iff_ne_zero.mp hpos), List.drop_left' List.length_replicate]
  rcases htail with rfl | ⟨name, rfl⟩
  · exact ⟨[], rfl⟩
  · exact ⟨trim name, rfl⟩

/-! ### How a line begins

The first character of a line tells the kinds apart. -/

theorem head?_of_fence {line : Line} (h : fence <+: line) : line.head? = some '`' := by
  obtain ⟨language, rfl⟩ := h
  rfl

theorem IsHeader.head? {level : Nat} {line : Line} (h : IsHeader level line) :
    line.head? = some '#' := by
  obtain ⟨hpos, tail, rfl, -⟩ := h
  obtain ⟨n, rfl⟩ := Nat.exists_eq_add_one_of_ne_zero (Nat.pos_iff_ne_zero.mp hpos)
  rfl

theorem not_allBlank_of_head? {line : Line} {c : Char} (h : line.head? = some c)
    (hc : isBlank c = false) : allBlank line = false := by
  obtain ⟨rest, rfl⟩ : ∃ rest, line = c :: rest := by
    rcases line with _ | ⟨c', rest⟩
    · exact nomatch h
    · exact ⟨rest, congrArg (· :: rest) (Option.some.inj h)⟩
  rw [allBlank, List.all_cons, hc, Bool.false_and]

theorem lineKind_of_not_fence {line : Line} (h : ¬fence <+: line) :
    lineKind line =
      if allBlank line then .blank
      else
        match header? line with
        | some (level, name) => .header level name
        | none =>
          if line.head? = some '\t' then .value
          else if line.head?.any isBlank then .stray
          else .text := by
  rw [lineKind]
  split
  · next language hfence =>
    exact absurd ⟨language, List.isPrefixOf?_eq_some_iff_append_eq.mp hfence⟩ h
  · rfl

theorem lineKind_spec (line : Line) :
    match lineKind line with
    | .fence language => line = fence ++ language
    | .blank => allBlank line = true
    | .header level _ => IsHeader level line
    | .value => IsValueLine line
    | .stray => IsStray line
    | .text => ¬fence <+: line ∧ allBlank line = false ∧ ¬line.head?.any isBlank := by
  by_cases hfence : fence <+: line
  · obtain ⟨language, rfl⟩ := hfence
    rw [lineKind_fence_append]
  · rw [lineKind_of_not_fence hfence]
    by_cases hblank : allBlank line = true
    · rw [if_pos hblank]
      exact hblank
    · rw [if_neg hblank]
      have hfalse : allBlank line = false := Bool.eq_false_iff.mpr hblank
      rcases hheader : header? line with _ | ⟨level, name⟩
      · simp only
        by_cases htab : line.head? = some '\t'
        · rw [if_pos htab]
          exact ⟨htab, hfalse⟩
        · rw [if_neg htab]
          by_cases hstray : line.head?.any isBlank = true
          · rw [if_pos hstray]
            obtain ⟨c, hc, hcblank⟩ := (Option.any_eq_true _ _).mp hstray
            obtain ⟨rest, rfl⟩ := List.head?_eq_some_iff.mp hc
            exact ⟨c, rest, rfl, hcblank, fun h ↦ htab (h ▸ hc), hfalse⟩
          · rw [if_neg hstray]
            exact ⟨hfence, hfalse, hstray⟩
      · exact isHeader_of_header? hheader

theorem isHeader_iff {level : Nat} {line : Line} :
    IsHeader level line ↔ ∃ name, lineKind line = .header level name := by
  constructor
  · intro h
    obtain ⟨name, hname⟩ := exists_header?_of_isHeader h
    have hfence : ¬fence <+: line := by
      intro hp
      exact nomatch (head?_of_fence hp).symm.trans h.head?
    rw [lineKind_of_not_fence hfence, not_allBlank_of_head? h.head? rfl, hname]
    exact ⟨name, rfl⟩
  · rintro ⟨name, h⟩
    have hspec := lineKind_spec line
    rwa [h] at hspec

theorem header?_eq_some_iff {line name : Line} {level : Nat} :
    header? line = some (level, name) ↔ lineKind line = .header level name := by
  have hkind : ∀ {name}, header? line = some (level, name) →
      lineKind line = .header level name := by
    intro name h
    have hhead := (isHeader_of_header? h).head?
    have hfence : ¬fence <+: line := by
      intro hp
      exact nomatch (head?_of_fence hp).symm.trans hhead
    rw [lineKind_of_not_fence hfence, not_allBlank_of_head? hhead rfl, h]
    rfl
  refine ⟨hkind, fun h ↦ ?_⟩
  obtain ⟨name', hname'⟩ := exists_header?_of_isHeader (isHeader_iff.mpr ⟨name, h⟩)
  cases h.symm.trans (hkind hname')
  exact hname'

theorem lineKind_of_blank_head {line : Line} {c : Char} (h : line.head? = some c)
    (hc : isBlank c = true) (hblank : allBlank line = false) :
    lineKind line = if c = '\t' then .value else .stray := by
  have hfence : ¬fence <+: line := by
    intro hp
    cases h.symm.trans (head?_of_fence hp)
    exact nomatch hc
  have hheader : header? line = none := by
    rcases hheader : header? line with _ | ⟨level, name⟩
    · rfl
    · cases h.symm.trans (isHeader_of_header? hheader).head?
      exact nomatch hc
  rw [lineKind_of_not_fence hfence, hblank, hheader, h]
  simp only [if_neg Bool.false_ne_true, Option.some.injEq, Option.any_some, hc, if_true]

theorem isValueLine_iff {line : Line} : IsValueLine line ↔ lineKind line = .value := by
  constructor
  · rintro ⟨htab, hblank⟩
    rw [lineKind_of_blank_head htab rfl hblank, if_pos rfl]
  · intro h
    have hspec := lineKind_spec line
    rwa [h] at hspec

theorem isStray_iff {line : Line} : IsStray line ↔ lineKind line = .stray := by
  constructor
  · rintro ⟨c, rest, rfl, hc, htab, hblank⟩
    rw [lineKind_of_blank_head rfl hc hblank, if_neg htab]
  · intro h
    have hspec := lineKind_spec line
    rwa [h] at hspec

theorem allBlank_iff {line : Line} : allBlank line = true ↔ lineKind line = .blank := by
  constructor
  · intro h
    have hfence : ¬fence <+: line := by
      intro hp
      exact nomatch h.symm.trans (not_allBlank_of_head? (head?_of_fence hp) rfl)
    rw [lineKind_of_not_fence hfence, if_pos h]
  · intro h
    have hspec := lineKind_spec line
    rwa [h] at hspec

theorem fence_prefix_iff {line : Line} :
    fence <+: line ↔ ∃ language, lineKind line = .fence language := by
  constructor
  · rintro ⟨language, rfl⟩
    exact ⟨language, lineKind_fence_append language⟩
  · rintro ⟨language, h⟩
    exact ⟨language, (eq_of_lineKind_fence h).symm⟩

end DataOutline.Document
