import Mathlib.Data.List.Basic
import DataOutline.Document.Parser
import DataOutline.Proofs.Result

/-!
# The items of a source as a relation

`Document.gather` runs down the lines of a source with the code that is open in its hand. What it
yields is said here without that: outside fenced code every line is of one of six kinds, which the
line alone decides, and fenced code is a stretch of lines from its fence to the next line that
closes it. `Gathers` has one rule for each of these, and it relates lines and items exactly when
gathering succeeds.
-/

namespace DataOutline.Document

open Text

/-! ## Kinds of lines -/

/-- What a line is when no fenced code is open. -/
inductive LineKind where
  | fence (language : Line)
  | blank
  | header (level : Nat) (name : Line)
  | value
  /-- Something behind blanks that are not tabs. -/
  | stray
  | text
deriving DecidableEq, Repr

/-- The kind of a line. The order of the tests matters: what opens fenced code is neither text nor
a header, and a blank line may begin with a tab. -/
def lineKind (line : Line) : LineKind :=
  match fence.isPrefixOf? line with
  | some language => .fence language
  | none =>
    if allBlank line then .blank
    else
      match header? line with
      | some (level, name) => .header level name
      | none =>
        if line.head? = some '\t' then .value
        else if line.head?.any isBlank then .stray
        else .text

@[simp] theorem lineKind_nil : lineKind [] = .blank := rfl

theorem eq_of_lineKind_fence {line language : Line} (h : lineKind line = .fence language) :
    line = fence ++ language := by
  rw [lineKind] at h
  cases hp : fence.isPrefixOf? line with
  | some rest =>
    rw [hp] at h
    cases h
    exact (List.isPrefixOf?_eq_some_iff_append_eq.mp hp).symm
  | none =>
    rw [hp] at h
    simp only at h
    repeat' split at h
    all_goals exact nomatch h

theorem lineKind_fence_append (language : Line) :
    lineKind (fence ++ language) = .fence language := by
  rw [lineKind, List.isPrefixOf?_eq_some_iff_append_eq.mpr rfl]

/-! ## One line at a time -/

theorem gather_none_cons (n d : Nat) (line : Line) (rest : List Line) :
    gather n d none (line :: rest) =
      match lineKind line with
      | .fence language => gather (n + 1) d (some ⟨n, language, []⟩) rest
      | .blank => gather (n + 1) d none rest
      | .header level name =>
        if d + 1 < level then .error ⟨.levelJump level d, ⟨n, 1⟩⟩
        else if level = 1 then .error ⟨.secondRoot, ⟨n, 1⟩⟩
        else (.header (headerAt n level name line) :: ·) <$> gather (n + 1) level none rest
      | .value => consValue n line <$> gather (n + 1) d none rest
      | .stray => .error ⟨.strayIndentation, ⟨n, 1⟩⟩
      | .text => consText n line <$> gather (n + 1) d none rest := by
  rw [gather, lineKind]
  cases fence.isPrefixOf? line with
  | some language => rfl
  | none =>
    simp only
    split
    · rfl
    · rcases header? line with _ | ⟨level, name⟩
      · simp only
        split
        · rfl
        · split <;> rfl
      · simp only
        by_cases hjump : d + 1 < level
        · rw [if_pos hjump, if_pos hjump]
          rfl
        · rw [if_neg hjump, if_neg hjump]
          by_cases hroot : level = 1
          · rw [if_pos hroot, if_pos hroot]
            rfl
          · rw [if_neg hroot, if_neg hroot]
            rfl

theorem gather_some_append {n d : Nat} {code : OpenCode} {ls rest : List Line}
    (hls : ∀ l ∈ ls, l ≠ fence) :
    gather n d (some code) (ls ++ fence :: rest) =
      (.code code.line code.language (code.lines.reverse ++ ls) :: ·) <$>
        gather (n + ls.length + 1) d none rest := by
  induction ls generalizing n code with
  | nil =>
    rw [List.nil_append, gather, if_pos rfl, List.append_nil]
    rfl
  | cons l ls ih =>
    rw [List.cons_append, gather, if_neg (hls l List.mem_cons_self),
      ih fun l' h ↦ hls l' (List.mem_cons_of_mem l h), List.reverse_cons, List.append_assoc,
      List.singleton_append, List.length_cons, Nat.add_right_comm n 1, Nat.add_assoc n]

/-- Code that is closed somewhere has a first line that closes it. -/
theorem exists_fence_of_gather_some {n d : Nat} {code : OpenCode} {lines : List Line}
    {items : List Item} (h : gather n d (some code) lines = .ok items) :
    ∃ ls rest, lines = ls ++ fence :: rest ∧ ∀ l ∈ ls, l ≠ fence := by
  induction lines generalizing n code with
  | nil =>
    rw [gather] at h
    exact nomatch h
  | cons l lines ih =>
    rw [gather] at h
    by_cases hl : l = fence
    · exact ⟨[], lines, by rw [hl, List.nil_append], fun _ h ↦ absurd h List.not_mem_nil⟩
    · rw [if_neg hl] at h
      obtain ⟨ls, rest, rfl, hls⟩ := ih h
      exact ⟨l :: ls, rest, rfl, List.forall_mem_cons.mpr ⟨hl, hls⟩⟩

/-! ## The relation -/

/-- `Gathers n d lines items`: these lines, the first of them being line `n` of the source and
the last header before them being of level `d`, make up these items. -/
inductive Gathers : Nat → Nat → List Line → List Item → Prop
  | nil (n d : Nat) : Gathers n d [] []
  | blank {n d : Nat} {line : Line} {rest : List Line} {items : List Item}
      (kind : lineKind line = .blank) (more : Gathers (n + 1) d rest items) :
      Gathers n d (line :: rest) items
  | header {n d level : Nat} {line name : Line} {rest : List Line} {items : List Item}
      (kind : lineKind line = .header level name) (deep : level ≤ d + 1) (root : level ≠ 1)
      (more : Gathers (n + 1) level rest items) :
      Gathers n d (line :: rest) (.header (headerAt n level name line) :: items)
  | value {n d : Nat} {line : Line} {rest : List Line} {items : List Item}
      (kind : lineKind line = .value) (more : Gathers (n + 1) d rest items) :
      Gathers n d (line :: rest) (consValue n line items)
  | text {n d : Nat} {line : Line} {rest : List Line} {items : List Item}
      (kind : lineKind line = .text) (more : Gathers (n + 1) d rest items) :
      Gathers n d (line :: rest) (consText n line items)
  | code {n d : Nat} {line language : Line} {ls rest : List Line} {items : List Item}
      (kind : lineKind line = .fence language) (within : ∀ l ∈ ls, l ≠ fence)
      (more : Gathers (n + ls.length + 2) d rest items) :
      Gathers n d (line :: (ls ++ fence :: rest)) (.code n language ls :: items)

theorem gather_of_gathers {n d : Nat} {lines : List Line} {items : List Item}
    (h : Gathers n d lines items) : gather n d none lines = .ok items := by
  induction h with
  | nil n d => rw [gather]
  | blank kind _ ih => rw [gather_none_cons, kind, ih]
  | header kind deep root _ ih =>
    rw [gather_none_cons, kind]
    simp only [if_neg (Nat.not_lt.mpr deep), if_neg root, ih]
    rfl
  | value kind _ ih =>
    rw [gather_none_cons, kind, ih]
    rfl
  | text kind _ ih =>
    rw [gather_none_cons, kind, ih]
    rfl
  | @code n d line language ls rest items kind within _ ih =>
    rw [gather_none_cons, kind]
    simp only [gather_some_append within, List.reverse_nil, List.nil_append]
    rw [show n + 1 + ls.length + 1 = n + ls.length + 2 from by omega, ih]
    rfl

theorem gathers_of_gather {n d : Nat} {lines : List Line} {items : List Item}
    (h : gather n d none lines = .ok items) : Gathers n d lines items := by
  -- The lines behind fenced code are not the tail of the list, so the induction is on its length.
  induction hlen : lines.length using Nat.strongRecOn generalizing n d lines items with
  | _ len ih =>
    cases lines with
    | nil =>
      rw [gather] at h
      cases h
      exact .nil n d
    | cons line rest =>
      rw [List.length_cons] at hlen
      rw [gather_none_cons] at h
      cases hkind : lineKind line with
      | blank =>
        rw [hkind] at h
        exact .blank hkind (ih _ (by omega) h rfl)
      | stray =>
        rw [hkind] at h
        exact nomatch h
      | value =>
        rw [hkind] at h
        obtain ⟨items, hrest, rfl⟩ := map_eq_ok_iff.mp h
        exact .value hkind (ih _ (by omega) hrest rfl)
      | text =>
        rw [hkind] at h
        obtain ⟨items, hrest, rfl⟩ := map_eq_ok_iff.mp h
        exact .text hkind (ih _ (by omega) hrest rfl)
      | header level name =>
        simp only [hkind] at h
        split at h
        · exact nomatch h
        · next hdeep =>
          split at h
          · exact nomatch h
          · next hroot =>
            obtain ⟨items, hrest, rfl⟩ := map_eq_ok_iff.mp h
            exact .header hkind (Nat.not_lt.mp hdeep) hroot (ih _ (by omega) hrest rfl)
      | fence language =>
        simp only [hkind] at h
        obtain ⟨ls, rest, rfl, hls⟩ := exists_fence_of_gather_some h
        rw [gather_some_append hls] at h
        obtain ⟨items, hrest, rfl⟩ := map_eq_ok_iff.mp h
        rw [List.length_append, List.length_cons] at hlen
        rw [show n + 1 + ls.length + 1 = n + ls.length + 2 from by omega] at hrest
        exact .code hkind hls (ih _ (by omega) hrest rfl)

/-- **Gathering succeeds exactly along the rules.** -/
theorem gather_eq_ok_iff {n d : Nat} {lines : List Line} {items : List Item} :
    gather n d none lines = .ok items ↔ Gathers n d lines items :=
  ⟨gathers_of_gather, gather_of_gathers⟩

end DataOutline.Document
