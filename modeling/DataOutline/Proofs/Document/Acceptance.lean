import DataOutline.Proofs.Document.RoundTrip
import DataOutline.Proofs.Document.Tiling

/-!
# Which texts are documents

The shape of a document is settled before any of its values is read: the first line is a root
header, and no line that a scan of the others meets is out of place there. The first line that is
out of place is the one that reading reports, whatever the value blocks say. If there is none, the
value blocks are read from the first to the last, and the first of them that is no value is
reported.
-/

namespace DataOutline.Document

open Text

/-! ## Lines out of place -/

/-- Why a line cannot stand below a header of level `d`. -/
inductive Offends (d : Nat) (m : Met) : Fault → Prop
  | unclosed (opens : fence <+: m.line) (never : fence ∉ m.below) : Offends d m .unterminatedCode
  | jump {level : Nat} (header : IsHeader level m.line) (deep : d + 1 < level) :
      Offends d m (.levelJump level d)
  | root (header : IsHeader 1 m.line) : Offends d m .secondRoot
  | stray (stray : IsStray m.line) : Offends d m .strayIndentation

/-- The level of the last header among some lines, or `d` if there is no header among them. -/
inductive LastLevel (d : Nat) : List Met → Nat → Prop
  | none {before : List Met} (none : ∀ m ∈ before, ∀ level, ¬IsHeader level m.line) :
      LastLevel d before d
  | header {m : Met} {level : Nat} (before : List Met) {after : List Met}
      (header : IsHeader level m.line) (none : ∀ m ∈ after, ∀ level, ¬IsHeader level m.line) :
      LastLevel d (before ++ m :: after) level

/-- Line `n` is out of place among the lines that a scan meets, the header before these being of
level `d`. -/
def Breaks (d : Nat) (mets : List Met) (n : Nat) (fault : Fault) : Prop :=
  ∃ before m after level, mets = before ++ m :: after ∧ m.number = n ∧
    LastLevel d before level ∧ Offends level m fault

/-- Line `n` is the first that is out of place. -/
def BreaksFirst (d : Nat) (mets : List Met) (n : Nat) (fault : Fault) : Prop :=
  Breaks d mets n fault ∧ ∀ k < n, ∀ other, ¬Breaks d mets k other

/-- The level of the last header behind a line. -/
def behind (d : Nat) (m : Met) : Nat :=
  match lineKind m.line with
  | .header level _ => level
  | _ => d

theorem behind_of_isHeader {d level : Nat} {m : Met} (h : IsHeader level m.line) :
    behind d m = level := by
  obtain ⟨name, hname⟩ := isHeader_iff.mp h
  rw [behind, hname]

theorem behind_of_not_isHeader {d : Nat} {m : Met} (h : ∀ level, ¬IsHeader level m.line) :
    behind d m = d := by
  rw [behind]
  split
  · next level name hkind => exact absurd (isHeader_iff.mpr ⟨name, hkind⟩) (h level)
  · rfl

/-- The last header is the first line, or there is none, or it is below whatever stands above. -/
theorem LastLevel.of_cons {d level : Nat} {m : Met} {before : List Met}
    (h : LastLevel d (m :: before) level) :
    (IsHeader level m.line ∧ ∀ x ∈ before, ∀ l, ¬IsHeader l x.line) ∨
      (level = d ∧ ∀ x ∈ m :: before, ∀ l, ¬IsHeader l x.line) ∨ ∀ e, LastLevel e before level := by
  generalize hlist : m :: before = list at h
  cases h with
  | none none => exact Or.inr (Or.inl ⟨rfl, hlist ▸ none⟩)
  | header first header none =>
    rcases first with _ | ⟨x, first⟩
    · cases hlist
      exact Or.inl ⟨header, none⟩
    · cases hlist
      exact Or.inr (Or.inr fun e ↦ .header first header none)

theorem lastLevel_cons {d level : Nat} {m : Met} {before : List Met} :
    LastLevel d (m :: before) level ↔ LastLevel (behind d m) before level := by
  constructor
  · intro h
    rcases h.of_cons with ⟨header, none⟩ | ⟨rfl, none⟩ | hbelow
    · rw [behind_of_isHeader header]
      exact .none none
    · obtain ⟨hfirst, hmore⟩ := List.forall_mem_cons.mp none
      rw [behind_of_not_isHeader hfirst]
      exact .none hmore
    · exact hbelow _
  · intro h
    cases h with
    | none none =>
      by_cases hm : ∃ l, IsHeader l m.line
      · obtain ⟨l, hl⟩ := hm
        rw [behind_of_isHeader hl]
        exact .header [] hl none
      · have hnone : ∀ l, ¬IsHeader l m.line := fun l h ↦ hm ⟨l, h⟩
        rw [behind_of_not_isHeader hnone]
        exact .none (List.forall_mem_cons.mpr ⟨hnone, none⟩)
    | header first header none => exact .header (m :: first) header none

theorem breaks_cons {d n : Nat} {m : Met} {mets : List Met} {fault : Fault} :
    Breaks d (m :: mets) n fault ↔
      n = m.number ∧ Offends d m fault ∨ Breaks (behind d m) mets n fault := by
  constructor
  · rintro ⟨before, m', after, level, hsplit, hn, hlevel, hoffends⟩
    rcases before with _ | ⟨x, before⟩
    · cases hsplit
      generalize hempty : ([] : List Met) = list at hlevel
      cases hlevel with
      | none => exact Or.inl ⟨hn.symm, hoffends⟩
      | header first => exact absurd hempty.symm (by simp)
    · cases hsplit
      exact Or.inr ⟨before, m', after, level, rfl, hn, lastLevel_cons.mp hlevel, hoffends⟩
  · rintro (⟨rfl, hoffends⟩ | ⟨before, m', after, level, rfl, hn, hlevel, hoffends⟩)
    · exact ⟨[], m, mets, d, rfl, rfl, .none fun _ h ↦ absurd h List.not_mem_nil, hoffends⟩
    · exact ⟨m :: before, m', after, level, rfl, hn, lastLevel_cons.mpr hlevel, hoffends⟩

theorem not_breaks_nil {d n : Nat} {fault : Fault} : ¬Breaks d [] n fault := by
  rintro ⟨before, m, after, level, h, -⟩
  exact absurd h.symm (by simp)

theorem offends_iff {d : Nat} {m : Met} {fault : Fault} :
    Offends d m fault ↔
      match lineKind m.line with
      | .fence _ => fence ∉ m.below ∧ fault = .unterminatedCode
      | .header level _ =>
        d + 1 < level ∧ fault = .levelJump level d ∨ level = 1 ∧ fault = .secondRoot
      | .stray => fault = .strayIndentation
      | .blank | .value | .text => False := by
  constructor
  · rintro (⟨hopens, hnever⟩ | ⟨hheader, hdeep⟩ | hheader | hstray)
    · obtain ⟨language, hkind⟩ := fence_prefix_iff.mp hopens
      rw [hkind]
      exact ⟨hnever, rfl⟩
    · obtain ⟨name, hkind⟩ := isHeader_iff.mp hheader
      rw [hkind]
      exact Or.inl ⟨hdeep, rfl⟩
    · obtain ⟨name, hkind⟩ := isHeader_iff.mp hheader
      rw [hkind]
      exact Or.inr ⟨rfl, rfl⟩
    · rw [isStray_iff.mp hstray]
  · intro h
    split at h
    · next language hkind =>
      obtain ⟨hnever, rfl⟩ := h
      exact .unclosed (fence_prefix_iff.mpr ⟨language, hkind⟩) hnever
    · next level name hkind =>
      have hheader : IsHeader level m.line := isHeader_iff.mpr ⟨name, hkind⟩
      rcases h with ⟨hdeep, rfl⟩ | ⟨rfl, rfl⟩
      · exact .jump hheader hdeep
      · exact .root hheader
    · next hkind =>
      obtain rfl := h
      exact .stray (isStray_iff.mpr hkind)
    · exact h.elim
    · exact h.elim
    · exact h.elim

theorem Offends.unique {d : Nat} {m : Met} {fault fault' : Fault} (h : Offends d m fault)
    (h' : Offends d m fault') : fault = fault' := by
  rw [offends_iff] at h h'
  cases hkind : lineKind m.line with
  | fence language =>
    simp only [hkind] at h h'
    exact h.2.trans h'.2.symm
  | header level name =>
    simp only [hkind] at h h'
    rcases h with ⟨hdeep, rfl⟩ | ⟨rfl, rfl⟩ <;> rcases h' with ⟨hdeep', rfl⟩ | ⟨hlevel, rfl⟩
    · rfl
    · omega
    · omega
    · rfl
  | stray =>
    simp only [hkind] at h h'
    exact h.trans h'.symm
  | blank | value | text =>
    simp only [hkind] at h

theorem Breaks.unique {d n : Nat} {mets : List Met} {fault fault' : Fault}
    (sorted : mets.Pairwise fun a b ↦ a.number < b.number) (h : Breaks d mets n fault)
    (h' : Breaks d mets n fault') : fault = fault' := by
  induction mets generalizing d with
  | nil => exact absurd h not_breaks_nil
  | cons m mets ih =>
    obtain ⟨hfirst, hsorted⟩ := List.pairwise_cons.mp sorted
    have hbelow : ∀ {other}, Breaks (behind d m) mets n other → n ≠ m.number := by
      rintro other ⟨before, m', after, level, rfl, rfl, -⟩
      exact Nat.ne_of_gt (hfirst m' (by simp))
    rcases breaks_cons.mp h with ⟨hn, h⟩ | h <;> rcases breaks_cons.mp h' with ⟨hn', h'⟩ | h'
    · exact h.unique h'
    · exact absurd hn (hbelow h')
    · exact absurd hn' (hbelow h)
    · exact ih hsorted h h'

theorem sorted_scan (inside : Bool) (n : Nat) (lines : List Line) :
    (scan inside n lines).Pairwise fun a b ↦ a.number < b.number := by
  induction lines generalizing inside n with
  | nil =>
    rw [scan]
    exact .nil
  | cons l lines ih =>
    cases inside with
    | true =>
      rw [scan]
      exact ih _ _
    | false =>
      rw [scan]
      exact List.pairwise_cons.mpr ⟨fun m hm ↦ le_number_of_mem_scan hm, ih _ _⟩

/-! ## Gathering finds the first line out of place -/

/-- Gathering has come to an end at the first line out of place, or there is none. -/
def Finds (d : Nat) (mets : List Met) : Except SyntaxError (List Item) → Prop
  | .ok _ => ∀ n fault, ¬Breaks d mets n fault
  | .error e => ∃ n fault, BreaksFirst d mets n fault ∧ e = ⟨fault, ⟨n, 1⟩⟩

theorem Finds.map {d : Nat} {mets : List Met} {r : Except SyntaxError (List Item)}
    (h : Finds d mets r) (f : List Item → List Item) : Finds d mets (f <$> r) := by
  cases r with
  | ok items => exact h
  | error e => exact h

theorem Finds.here {d : Nat} {m : Met} {mets : List Met} {fault : Fault}
    (offends : Offends d m fault) (sorted : ∀ x ∈ mets, m.number < x.number) :
    Finds d (m :: mets) (.error ⟨fault, ⟨m.number, 1⟩⟩) := by
  refine ⟨m.number, fault, ⟨breaks_cons.mpr (Or.inl ⟨rfl, offends⟩), ?_⟩, rfl⟩
  intro k hk other hbreaks
  rcases breaks_cons.mp hbreaks with ⟨rfl, -⟩ | ⟨before, m', after, level, rfl, rfl, -⟩
  · exact Nat.lt_irrefl _ hk
  · have := sorted m' (by simp)
    omega

theorem Finds.below {d : Nat} {m : Met} {mets : List Met} {r : Except SyntaxError (List Item)}
    (inPlace : ∀ fault, ¬Offends d m fault) (h : Finds (behind d m) mets r) :
    Finds d (m :: mets) r := by
  have hbelow : ∀ {n fault}, Breaks d (m :: mets) n fault → Breaks (behind d m) mets n fault :=
    fun hbreaks ↦ (breaks_cons.mp hbreaks).resolve_left fun ⟨_, hoffends⟩ ↦ inPlace _ hoffends
  cases r with
  | ok items => exact fun n fault hbreaks ↦ h n fault (hbelow hbreaks)
  | error e =>
    obtain ⟨n, fault, ⟨hbreaks, hfirst⟩, rfl⟩ := h
    exact ⟨n, fault, ⟨breaks_cons.mpr (Or.inr hbreaks),
      fun k hk other h ↦ hfirst k hk other (hbelow h)⟩, rfl⟩

theorem gather_unclosed {n d : Nat} {code : OpenCode} {lines : List Line} (h : fence ∉ lines) :
    gather n d (some code) lines = .error ⟨.unterminatedCode, ⟨code.line, 1⟩⟩ := by
  induction lines generalizing n code with
  | nil => rw [gather]
  | cons l lines ih =>
    rw [List.mem_cons, not_or] at h
    rw [gather, if_neg (Ne.symm h.1), ih h.2]

private theorem Finds.inPlace {d n : Nat} {line : Line} {rest : List Line}
    {r : Except SyntaxError (List Item)} (hfence : ¬fence <+: line)
    (hkind : lineKind line = .blank ∨ lineKind line = .value ∨ lineKind line = .text)
    (h : Finds d (scan false (n + 1) rest) r) : Finds d (scan false n (line :: rest)) r := by
  rw [scan_line n rest hfence]
  refine Finds.below (fun fault hoffends ↦ ?_) ?_
  · rw [offends_iff] at hoffends
    rcases hkind with hkind | hkind | hkind <;> simp only [hkind] at hoffends
  · have hbehind : behind d ⟨n, line, rest⟩ = d := by
      rw [behind]
      rcases hkind with hkind | hkind | hkind <;> rw [hkind]
    rwa [hbehind]

/-- **Gathering fails at the first line out of place**, if there is one. -/
theorem gather_finds (n d : Nat) (lines : List Line) :
    Finds d (scan false n lines) (gather n d none lines) := by
  induction n, lines using scan_induction generalizing d with
  | nil n =>
    rw [gather]
    exact fun _ _ ↦ not_breaks_nil
  | line n line rest hfence ih =>
    have hsorted : ∀ m ∈ scan false (n + 1) rest, n < m.number :=
      fun m hm ↦ le_number_of_mem_scan hm
    rw [gather_none_cons]
    cases hkind : lineKind line with
    | fence language => exact absurd (fence_prefix_iff.mpr ⟨language, hkind⟩) hfence
    | blank => exact .inPlace hfence (Or.inl hkind) (ih d)
    | value => exact .inPlace hfence (Or.inr (Or.inl hkind)) ((ih d).map _)
    | text => exact .inPlace hfence (Or.inr (Or.inr hkind)) ((ih d).map _)
    | stray =>
      rw [scan_line n rest hfence]
      exact .here (m := ⟨n, line, rest⟩) (.stray (isStray_iff.mpr hkind)) hsorted
    | header level name =>
      have hheader : IsHeader level line := isHeader_iff.mpr ⟨name, hkind⟩
      rw [scan_line n rest hfence]
      simp only
      by_cases hdeep : d + 1 < level
      · rw [if_pos hdeep]
        exact .here (m := ⟨n, line, rest⟩) (.jump hheader hdeep) hsorted
      · rw [if_neg hdeep]
        by_cases hroot : level = 1
        · subst hroot
          rw [if_pos rfl]
          exact .here (m := ⟨n, line, rest⟩) (.root hheader) hsorted
        · rw [if_neg hroot]
          refine Finds.below (fun fault hoffends ↦ ?_) ?_
          · rw [offends_iff] at hoffends
            simp only [hkind] at hoffends
            exact hoffends.elim (fun h ↦ hdeep h.1) fun h ↦ hroot h.1
          · rw [behind_of_isHeader (m := ⟨n, line, rest⟩) hheader]
            exact (ih level).map _
  | code n language ls rest hls ih =>
    have hkind : lineKind (fence ++ language) = .fence language := lineKind_fence_append language
    rw [gather_none_cons, hkind, scan_fence, scan_inside (n + 1) rest hls]
    simp only [gather_some_append hls]
    have hnumber : n + 1 + ls.length + 1 = n + ls.length + 2 := by omega
    rw [hnumber]
    refine Finds.below (fun fault hoffends ↦ ?_) ?_
    · rw [offends_iff] at hoffends
      simp only [hkind] at hoffends
      exact hoffends.1 (by simp)
    · have hbehind : behind d ⟨n, fence ++ language, ls ++ fence :: rest⟩ = d := by
        rw [behind, hkind]
      rw [hbehind]
      exact (ih d).map _
  | unclosed n language rest hnever =>
    rw [gather_none_cons, lineKind_fence_append, scan_fence, scan_unclosed (n + 1) hnever]
    simp only [gather_unclosed hnever]
    exact .here (m := ⟨n, fence ++ language, rest⟩)
      (.unclosed (List.prefix_append _ _) hnever) fun _ h ↦ absurd h List.not_mem_nil

/-! ## Value blocks -/

/-- Value lines from line `n` on, as many as there are in a row among the lines that a scan
meets. -/
structure ValueBlock (mets : List Met) (n : Nat) (block : List Line) : Prop where
  nonempty : block ≠ []
  met : ∀ i l, block[i]? = some l → ∃ m ∈ mets, m.number = n + i ∧ m.line = l ∧ IsValueLine l
  above : ∀ m ∈ mets, m.number + 1 = n → ¬IsValueLine m.line
  below : ∀ m ∈ mets, m.number = n + block.length → ¬IsValueLine m.line

theorem eq_of_number_eq {mets : List Met} (sorted : mets.Pairwise fun a b ↦ a.number < b.number)
    {m m' : Met} (hm : m ∈ mets) (hm' : m' ∈ mets) (h : m.number = m'.number) : m = m' := by
  induction mets with
  | nil => exact absurd hm List.not_mem_nil
  | cons x mets ih =>
    obtain ⟨hfirst, hsorted⟩ := List.pairwise_cons.mp sorted
    rcases List.mem_cons.mp hm with rfl | hmem <;> rcases List.mem_cons.mp hm' with rfl | hmem'
    · rfl
    · exact absurd (hfirst m' hmem') (by omega)
    · exact absurd (hfirst m hmem) (by omega)
    · exact ih hsorted hmem hmem'

namespace ValueBlock

variable {mets : List Met} {n n' : Nat} {block block' : List Line}

theorem exists_value (h : ValueBlock mets n block) {k : Nat} (hk : n ≤ k)
    (hlt : k < n + block.length) :
    ∃ m ∈ mets, m.number = k ∧ block[k - n]? = some m.line ∧ IsValueLine m.line := by
  obtain ⟨l, hget⟩ : ∃ l, block[k - n]? = some l := ⟨_, List.getElem?_eq_getElem (by omega)⟩
  obtain ⟨m, hm, hnumber, hline, hvalue⟩ := h.met _ _ hget
  exact ⟨m, hm, by omega, by rw [hget, hline], hline ▸ hvalue⟩

/-- A block that starts within another one is this one. -/
theorem eq_of_starts_within (sorted : mets.Pairwise fun a b ↦ a.number < b.number)
    (h : ValueBlock mets n block) (h' : ValueBlock mets n' block') (hle : n ≤ n')
    (hlt : n' < n + block.length) : n = n' ∧ block = block' := by
  have hn : n = n' := by
    by_contra hne
    obtain ⟨m, hm, hnumber, -, hvalue⟩ := h.exists_value (k := n' - 1) (by omega) (by omega)
    exact h'.above m hm (by omega) hvalue
  subst hn
  have hlength : block.length = block'.length := by
    rcases Nat.lt_trichotomy block.length block'.length with hshort | heq | hlong
    · obtain ⟨m, hm, hnumber, -, hvalue⟩ :=
        h'.exists_value (k := n + block.length) (by omega) (by omega)
      exact absurd hvalue (h.below m hm hnumber)
    · exact heq
    · obtain ⟨m, hm, hnumber, -, hvalue⟩ :=
        h.exists_value (k := n + block'.length) (by omega) (by omega)
      exact absurd hvalue (h'.below m hm hnumber)
  refine ⟨rfl, List.ext_getElem hlength fun i hi hi' ↦ ?_⟩
  obtain ⟨m, hm, hnumber, hline, -⟩ := h.met i _ (List.getElem?_eq_getElem hi)
  obtain ⟨m', hm', hnumber', hline', -⟩ := h'.met i _ (List.getElem?_eq_getElem hi')
  rw [← hline, ← hline', eq_of_number_eq sorted hm hm' (hnumber.trans hnumber'.symm)]

end ValueBlock

/-- Of two items one stands before the other, unless they are the same. -/
theorem Tiles.trichotomy {n : Nat} {lines : List Line} {items : List Item}
    (h : Tiles n lines items) {a b : Item} (ha : a ∈ items) (hb : b ∈ items) :
    a = b ∨ Precedes a b ∨ Precedes b a := by
  have horder := h.precedes
  generalize items = list at ha hb horder
  induction list with
  | nil => exact absurd ha List.not_mem_nil
  | cons x list ih =>
    obtain ⟨hfirst, hrest⟩ := List.pairwise_cons.mp horder
    rcases List.mem_cons.mp ha with rfl | hmem <;> rcases List.mem_cons.mp hb with rfl | hmem'
    · exact Or.inl rfl
    · exact Or.inr (Or.inl (hfirst b hmem'))
    · exact Or.inr (Or.inr (hfirst a hmem))
    · exact ih hmem hmem' hrest

/-- **The runs of value lines among the items are the value blocks of the source.** -/
theorem Tiles.value_mem_iff {first : Nat} {lines : List Line} {items : List Item}
    (h : Tiles first lines items) {n : Nat} {block : List Line} :
    .value n block ∈ items ↔ ValueBlock (scan false first lines) n block := by
  have hblock : ∀ {n block}, .value n block ∈ items →
      ValueBlock (scan false first lines) n block := by
    intro n block hmem
    obtain ⟨hne, hkinds⟩ := h.proper _ hmem
    -- A value line right above or below would be in a run of its own, which does not touch this
    -- one.
    have htouch : ∀ m ∈ scan false first lines, IsValueLine m.line →
        m.number + 1 ≠ n ∧ m.number ≠ n + block.length := by
      intro m hm hvalue
      have hkind := isValueLine_iff.mp hvalue
      obtain ⟨item, hitem, hholds, hsame⟩ := h.exists_holds m hm (by rw [hkind]; nofun)
      have hlt := hholds.lt_bound
      have hle := hholds.1
      have hrun : item.SameRun (.value n block) ∧ (Item.value n block).SameRun item := by
        rw [Item.SameRun, Item.SameRun, hsame, hkind]
        exact ⟨⟨rfl, Or.inr rfl⟩, ⟨rfl, Or.inr rfl⟩⟩
      have hbound : (Item.value n block).bound = n + block.length := rfl
      rcases h.trichotomy hitem hmem with rfl | hbefore | hafter
      · change n ≤ m.number at hle
        omega
      · have := hbefore.2 hrun.1
        change item.bound < n at this
        omega
      · have := hafter.2 hrun.2
        omega
    refine ⟨hne, fun i l hget ↦ ?_, fun m hm hnumber hvalue ↦ (htouch m hm hvalue).1 hnumber,
      fun m hm hnumber hvalue ↦ (htouch m hm hvalue).2 hnumber⟩
    obtain ⟨m, hm, hnumber, hline⟩ := h.exists_met _ hmem nofun i l hget
    exact ⟨m, hm, hnumber, hline, isValueLine_iff.mpr (hkinds l (List.mem_of_getElem? hget))⟩
  refine ⟨hblock, fun hvalue ↦ ?_⟩
  have hpos := List.length_pos_iff.mpr hvalue.nonempty
  obtain ⟨m, hm, hnumber, -, hline⟩ := hvalue.exists_value (Nat.le_refl n) (by omega)
  have hkind := isValueLine_iff.mp hline
  obtain ⟨item, hitem, hholds, hsame⟩ := h.exists_holds m hm (by rw [hkind]; nofun)
  cases item with
  | header h' | text k ls | code k language ls => exact nomatch hsame.trans hkind
  | value k ls =>
    have hlt := hholds.lt_bound
    rw [hnumber] at hlt hholds
    obtain ⟨rfl, rfl⟩ :=
      (hblock hitem).eq_of_starts_within (sorted_scan _ _ _) hvalue hholds.1 hlt
    exact hitem

/-! ## Reading a document -/

/-- Line `n` of a source is not what its place asks for: the first line is no root header, or a
later one is out of place. -/
inductive Misplaced : List Line → Nat → Fault → Prop
  | root {first : Line} {rest : List Line} (none : ¬IsHeader 1 first) :
      Misplaced (first :: rest) 1 .noRootHeader
  | line {first : Line} {rest : List Line} {n : Nat} {fault : Fault}
      (breaks : Breaks 1 (scan false 2 rest) n fault) : Misplaced (first :: rest) n fault

/-- Line `n` is the first that is not what its place asks for. -/
def MisplacedFirst (ls : List Line) (n : Nat) (fault : Fault) : Prop :=
  Misplaced ls n fault ∧ ∀ k < n, ∀ other, ¬Misplaced ls k other

theorem Misplaced.isStructural {ls : List Line} {n : Nat} {fault : Fault}
    (h : Misplaced ls n fault) : fault.isStructural = true := by
  cases h with
  | root none => rfl
  | line breaks =>
    obtain ⟨before, m, after, level, -, -, -, hoffends⟩ := breaks
    cases hoffends <;> rfl

theorem exists_misplacedFirst {ls : List Line} {n : Nat} {fault : Fault}
    (h : Misplaced ls n fault) : ∃ k other, MisplacedFirst ls k other := by
  induction n using Nat.strongRecOn generalizing fault with
  | _ n ih =>
    by_cases hbefore : ∃ k < n, ∃ other, Misplaced ls k other
    · obtain ⟨k, hk, other, hother⟩ := hbefore
      exact ih k hk hother
    · exact ⟨n, fault, h, fun k hk other hother ↦ hbefore ⟨k, hk, other, hother⟩⟩

variable {U : Type}

theorem ofLines_of_root {first : Line} (rest : List Line) (h : IsHeader 1 first) :
    ∃ header, ofLines (U := U) (first :: rest) = gather 2 1 none rest >>= fun items ↦
      items.mapM Entry.ofItem >>= fun entries ↦ .ok ⟨header, nest entries⟩ := by
  obtain ⟨name, hname⟩ := exists_header?_of_isHeader h
  refine ⟨headerAt 1 1 name first, ?_⟩
  rw [ofLines, hname]
  rfl

theorem ofLines_of_not_root {first : Line} {rest : List Line} (h : ¬IsHeader 1 first) :
    ofLines (U := U) (first :: rest) = .error ⟨.noRootHeader, ⟨1, 1⟩⟩ := by
  rw [ofLines]
  split
  · next name hname => exact absurd (isHeader_of_header? hname) h
  · rfl

theorem ofLines_of_misplacedFirst {ls : List Line} {n : Nat} {fault : Fault}
    (h : MisplacedFirst ls n fault) : ofLines (U := U) ls = .error ⟨fault, ⟨n, 1⟩⟩ := by
  obtain ⟨hmisplaced, hfirst⟩ := h
  cases hmisplaced with
  | root none => exact ofLines_of_not_root none
  | @line first rest n fault breaks =>
    have hroot : IsHeader 1 first := by
      by_contra hnone
      obtain ⟨before, m, after, level, hsplit, rfl, -⟩ := breaks
      have hle : 2 ≤ m.number := le_number_of_mem_scan (by rw [hsplit]; simp)
      exact hfirst 1 (by omega) _ (.root hnone)
    obtain ⟨header, hread⟩ := ofLines_of_root (U := U) rest hroot
    have hfinds := gather_finds 2 1 rest
    rw [hread]
    cases hgather : gather 2 1 none rest with
    | ok items =>
      rw [hgather] at hfinds
      exact absurd breaks (hfinds n fault)
    | error e =>
      rw [hgather] at hfinds
      obtain ⟨k, other, ⟨hbreaks, hearliest⟩, rfl⟩ := hfinds
      obtain rfl : k = n := by
        rcases Nat.lt_trichotomy k n with hlt | heq | hlt
        · exact absurd (.line hbreaks) (hfirst k hlt other)
        · exact heq
        · exact absurd breaks (hearliest n hlt fault)
      rw [hbreaks.unique (sorted_scan _ _ _) breaks]
      rfl

theorem ofItem_eq_error_iff {item : Item} {e : SyntaxError} :
    Entry.ofItem (U := U) item = .error e ↔
      ∃ n block, item = .value n block ∧ readValue (U := U) n block = .error e := by
  constructor
  · intro h
    cases item with
    | value n block =>
      rcases bind_eq_error_iff.mp h with h | ⟨tree, -, h⟩
      · exact ⟨n, block, rfl, h⟩
      · exact nomatch h
    | header h' => exact nomatch h
    | text n block => exact nomatch h
    | code n language block => exact nomatch h
  · rintro ⟨n, block, rfl, h⟩
    exact bind_eq_error_iff.mpr (Or.inl h)

theorem exists_readValue_of_ofItem {n : Nat} {block : List Line}
    (h : ∃ entry, Entry.ofItem (U := U) (.value n block) = .ok entry) :
    ∃ t, readValue (U := U) n block = .ok t := by
  obtain ⟨entry, h⟩ := h
  obtain ⟨t, ht, -⟩ := bind_eq_ok_iff.mp h
  exact ⟨t, ht⟩

/-- If every line is in its place, reading ends at the first value block that is no value. -/
theorem ofLines_eq_error_iff {first : Line} {rest : List Line}
    (h : ∀ n fault, ¬Misplaced (first :: rest) n fault) {e : SyntaxError} :
    ofLines (U := U) (first :: rest) = .error e ↔
      ∃ n block, ValueBlock (scan false 2 rest) n block ∧ readValue (U := U) n block = .error e ∧
        ∀ k < n, ∀ earlier, ValueBlock (scan false 2 rest) k earlier →
          ∃ t, readValue (U := U) k earlier = .ok t := by
  have hroot : IsHeader 1 first := by
    by_contra hnone
    exact h 1 _ (.root hnone)
  obtain ⟨header, hread⟩ := ofLines_of_root (U := U) rest hroot
  have hfinds := gather_finds 2 1 rest
  rw [hread]
  cases hgather : gather 2 1 none rest with
  | error e' =>
    rw [hgather] at hfinds
    obtain ⟨n, fault, ⟨hbreaks, -⟩, -⟩ := hfinds
    exact absurd (.line hbreaks) (h n fault)
  | ok items =>
    have htiles := (gather_eq_ok_iff.mp hgather).tiles
    have hentries : ∀ r : Except SyntaxError (List (Entry U)),
        (r >>= fun entries ↦ .ok ⟨header, nest entries⟩) = (.error e : Except _ (Section U)) ↔
          r = .error e := by
      intro r
      rw [bind_eq_error_iff]
      exact or_iff_left fun ⟨_, _, h⟩ ↦ nomatch h
    rw [ok_bind, hentries, mapM_eq_error_iff]
    constructor
    · rintro ⟨before, item, after, hsplit, hbefore, hitem⟩
      obtain ⟨n, block, rfl, herror⟩ := ofItem_eq_error_iff.mp hitem
      have hmem : .value n block ∈ items := by
        rw [hsplit]
        simp
      refine ⟨n, block, htiles.value_mem_iff.mp hmem, herror, fun k hk earlier hblock ↦ ?_⟩
      have hearlier : .value k earlier ∈ items := htiles.value_mem_iff.mpr hblock
      have horder := hsplit ▸ htiles.precedes
      rw [hsplit, List.mem_append, List.mem_cons] at hearlier
      rcases hearlier with hmem | heq | hmem
      · exact exists_readValue_of_ofItem (hbefore _ hmem)
      · cases heq
        exact absurd hk (Nat.lt_irrefl _)
      · have hafter := (List.pairwise_cons.mp (List.pairwise_append.mp horder).2.1).1 _ hmem
        have hle : n + block.length ≤ k := hafter.1
        omega
    · rintro ⟨n, block, hblock, herror, hearlier⟩
      obtain ⟨before, after, hsplit⟩ := List.append_of_mem (htiles.value_mem_iff.mpr hblock)
      have horder := hsplit ▸ htiles.precedes
      refine ⟨before, _, after, hsplit, fun x hx ↦ ?_,
        ofItem_eq_error_iff.mpr ⟨n, block, rfl, herror⟩⟩
      cases hread : Entry.ofItem (U := U) x with
      | ok entry => exact ⟨entry, rfl⟩
      | error e' =>
        obtain ⟨k, earlier, rfl, herror'⟩ := ofItem_eq_error_iff.mp hread
        have hmem : .value k earlier ∈ items := by
          rw [hsplit]
          exact List.mem_append_left _ hx
        have hle : k + earlier.length ≤ n :=
          ((List.pairwise_append.mp horder).2.2 _ hx _ List.mem_cons_self).1
        have hpos := List.length_pos_iff.mpr (htiles.value_mem_iff.mp hmem).nonempty
        obtain ⟨t, ht⟩ := hearlier k (by omega) earlier (htiles.value_mem_iff.mp hmem)
        exact nomatch herror'.symm.trans ht

/-- **The first thing that is wrong is reported, and the shape of the document comes before its
values.** A text that is not empty is rejected for its shape exactly if one of its lines is
misplaced, and then for the first of these lines; otherwise it is rejected exactly if one of its
value blocks is, and then for the first of these blocks. -/
theorem parse_reports_first {source : String} (h : source ≠ "") :
    (∀ e, e.fault.isStructural = true → (parse (U := U) source = .error e ↔
      ∃ n fault, MisplacedFirst (lines source.toList) n fault ∧ e = ⟨fault, ⟨n, 1⟩⟩)) ∧
    ((∃ e, parse (U := U) source = .error e ∧ e.fault.isStructural = true) ↔
      ∃ n fault, Misplaced (lines source.toList) n fault) ∧
    ((∀ n fault, ¬Misplaced (lines source.toList) n fault) → ∀ e,
      (parse (U := U) source = .error e ↔
        ∃ n block, ValueBlock (scan false 2 (lines source.toList).tail) n block ∧
          readValue (U := U) n block = .error e ∧
          ∀ k < n, ∀ earlier, ValueBlock (scan false 2 (lines source.toList).tail) k earlier →
            ∃ t, readValue (U := U) k earlier = .ok t)) := by
  obtain ⟨first, rest, hlines⟩ : ∃ first rest, lines source.toList = first :: rest :=
    List.exists_cons_of_ne_nil fun hnil ↦
      List.splitOn_ne_nil '\n' source.toList (List.map_eq_nil_iff.mp hnil)
  rw [parse, if_neg h, hlines, List.tail_cons]
  -- No value block is at fault in the shape of the document, so the two kinds of error exclude
  -- each other.
  have hvalues : ∀ e, e.fault.isStructural = true →
      (∀ n fault, ¬Misplaced (first :: rest) n fault) →
        ofLines (U := U) (first :: rest) ≠ .error e := by
    intro e hstructural hnone herror
    obtain ⟨n, block, -, herror, -⟩ := (ofLines_eq_error_iff hnone).mp herror
    exact Bool.noConfusion (hstructural.symm.trans (errs_readValue n block e herror))
  refine ⟨fun e hstructural ↦ ⟨fun herror ↦ ?_, ?_⟩, ⟨?_, ?_⟩, fun hnone e ↦
    ofLines_eq_error_iff hnone⟩
  · by_cases hsome : ∃ n fault, Misplaced (first :: rest) n fault
    · obtain ⟨n, fault, hmisplaced⟩ := hsome
      obtain ⟨k, other, hfirst⟩ := exists_misplacedFirst hmisplaced
      have hread := ofLines_of_misplacedFirst (U := U) hfirst
      exact ⟨k, other, hfirst, Except.error.inj (herror.symm.trans hread)⟩
    · exact absurd herror (hvalues e hstructural fun n fault h ↦ hsome ⟨n, fault, h⟩)
  · rintro ⟨n, fault, hfirst, rfl⟩
    exact ofLines_of_misplacedFirst hfirst
  · rintro ⟨e, herror, hstructural⟩
    by_contra hnone
    exact hvalues e hstructural (fun n fault h ↦ hnone ⟨n, fault, h⟩) herror
  · rintro ⟨n, fault, hmisplaced⟩
    obtain ⟨k, other, hfirst⟩ := exists_misplacedFirst hmisplaced
    exact ⟨_, ofLines_of_misplacedFirst hfirst, hfirst.1.isStructural⟩

/-- A value block that is no value stands before a header that is too deep. -/
def deepHeader : String := "#\n\t*\tx\n\ty\n### A"

theorem parse_reports_first_deepHeader :
    deepHeader ≠ "" ∧ MisplacedFirst (lines deepHeader.toList) 4 (.levelJump 3 1) ∧
      readValue (U := Empty) 2 ["\t*\tx".toList, "\ty".toList]
        = .error ⟨.missingMarker, ⟨3, 1⟩⟩ := by
  have hread : parse (U := Empty) deepHeader = .error ⟨.levelJump 3 1, ⟨4, 1⟩⟩ := by rfl
  have hne : deepHeader ≠ "" := by decide
  obtain ⟨n, fault, hfirst, heq⟩ := ((parse_reports_first hne).1 _ rfl).mp hread
  cases heq
  exact ⟨hne, hfirst, by rfl⟩

end DataOutline.Document
