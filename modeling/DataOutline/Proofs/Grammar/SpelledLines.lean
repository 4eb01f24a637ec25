import DataOutline.Proofs.Grammar.Beginning

/-!
# The lines of spellings

Every line of a spelling counts where it is read: it is neither blank nor a comment, so it is not
dropped. For what introduces a part begins with a character that neither of these begins with,
whatever stands behind it, and a tab in front of a line makes no difference. The first line of a
spelling shows the kind of the value.
-/

namespace DataOutline

open Text Grammar

/-! ## Lines that count -/

/-- A line of a spelling: it is neither blank nor a comment, and it stays as it is where lines are
written one after the other and cut out again. -/
structure IsSpelled (line : Line) : Prop where
  notBlank : allBlank line = false
  notComment : Passage.isComment line = false
  oneLine : '\n' ∉ line
  noReturn : line.getLast? ≠ some '\r'

/-- What introduces a part: it begins with a character that neither a blank line nor a comment
begins with, and it holds no line break. -/
structure IsLead (lead : Line) : Prop where
  first : ∃ c more, lead = c :: more ∧ isBlank c = false ∧ c ≠ '/'
  oneLine : '\n' ∉ lead
  noReturn : '\r' ∉ lead

theorem IsSpelled.ne_nil {line : Line} (h : IsSpelled line) : line ≠ [] := by
  rintro rfl
  exact nomatch h.notBlank

theorem IsSpelled.indent {line : Line} (h : IsSpelled line) : IsSpelled (indent line) := by
  obtain ⟨c, cs, rfl⟩ := List.exists_cons_of_ne_nil h.ne_nil
  refine ⟨h.notBlank, h.notComment, ?_, ?_⟩
  · rw [DataOutline.indent, List.mem_cons, not_or]
    exact ⟨by decide, h.oneLine⟩
  · rw [DataOutline.indent, List.getLast?_cons_cons]
    exact h.noReturn

/-- Whatever stands behind a lead, its beginning is enough to make a line count. -/
theorem IsLead.counts {lead : Line} (h : IsLead lead) (tail : Line) :
    allBlank (lead ++ tail) = false ∧ Passage.isComment (lead ++ tail) = false := by
  obtain ⟨c, more, rfl, hblank, hslash⟩ := h.first
  constructor
  · rw [allBlank, List.cons_append, List.all_cons, hblank, Bool.false_and]
  · have htrim : trimStart (c :: (more ++ tail)) = c :: (more ++ tail) :=
      trimStart_eq_self fun d hd ↦ by cases hd; exact hblank
    rw [List.cons_append, Passage.isComment, htrim, List.isPrefixOf_cons_cons,
      beq_eq_false_iff_ne.mpr (Ne.symm hslash), Bool.false_and]

theorem IsLead.isSpelled_append {lead tail : Line} (h : IsLead lead) (oneLine : '\n' ∉ tail)
    (noReturn : tail.getLast? ≠ some '\r') : IsSpelled (lead ++ tail) := by
  refine ⟨(h.counts tail).1, (h.counts tail).2, ?_, ?_⟩
  · rw [List.mem_append, not_or]
    exact ⟨h.oneLine, oneLine⟩
  · rw [List.getLast?_append]
    cases hlast : tail.getLast? with
    | none => exact fun hreturn ↦ h.noReturn (List.mem_of_getLast? hreturn)
    | some d =>
      rw [hlast] at noReturn
      exact noReturn

theorem IsLead.isSpelled {lead : Line} (h : IsLead lead) : IsSpelled lead := by
  have hlead := h.isSpelled_append List.not_mem_nil (show ([] : Line).getLast? ≠ _ by decide)
  rwa [List.append_nil] at hlead

theorem Places.isSpelled {lead gap : Line} {inner here : List Line} (h : Places lead gap inner here)
    (isLead : IsLead lead) (oneLine : '\n' ∉ gap) (spelled : ∀ l ∈ inner, IsSpelled l) :
    ∀ l ∈ here, IsSpelled l := by
  have hindented : ∀ {ls : List Line}, (∀ l ∈ ls, IsSpelled l) →
      ∀ l ∈ ls.map indent, IsSpelled l := by
    intro ls hls l hl
    obtain ⟨l, hmem, rfl⟩ := List.mem_map.mp hl
    exact (hls l hmem).indent
  cases h with
  | inline l ls =>
    obtain ⟨hl, hls⟩ := List.forall_mem_cons.mp spelled
    refine List.forall_mem_cons.mpr ⟨isLead.isSpelled_append ?_ ?_, hindented hls⟩
    · rw [List.mem_append, not_or]
      exact ⟨oneLine, hl.oneLine⟩
    · rw [List.getLast?_append_of_ne_nil _ hl.ne_nil]
      exact hl.noReturn
  | below => exact List.forall_mem_cons.mpr ⟨isLead.isSpelled, hindented spelled⟩

theorem Places.exists_cons {lead gap : Line} {inner here : List Line}
    (h : Places lead gap inner here) : ∃ tail more, here = (lead ++ tail) :: more := by
  cases h with
  | inline l ls => exact ⟨gap ++ l, _, rfl⟩
  | below => exact ⟨[], _, by rw [List.append_nil]⟩

/-! ## What introduces a part -/

theorem isLead_markerOf (unordered : Bool) : IsLead (markerOf unordered) := by
  cases unordered
  · exact ⟨⟨_, _, rfl, rfl, by decide⟩, by decide, by decide⟩
  · exact ⟨⟨_, _, rfl, rfl, by decide⟩, by decide, by decide⟩

/-- Text that begins with a path is a lead, if no line break is behind it. -/
theorem IsPathText.isLead_append {cs tail : Line} (h : IsPathText cs) (oneLine : '\n' ∉ tail)
    (noReturn : '\r' ∉ tail) : IsLead (cs ++ tail) := by
  obtain ⟨c, more, rfl, hc⟩ := h.exists_cons
  refine ⟨⟨c, more ++ tail, rfl, isBlank_of_isPathChar hc, ?_⟩, ?_, ?_⟩
  · rintro rfl
    exact nomatch hc
  · rw [List.mem_append, not_or]
    exact ⟨fun hmem ↦ (nomatch h.chars _ hmem), oneLine⟩
  · rw [List.mem_append, not_or]
    exact ⟨fun hmem ↦ (nomatch h.chars _ hmem), noReturn⟩

theorem notMem_escapeName (c : Char) : '\n' ∉ escapeName c ∧ '\r' ∉ escapeName c := by
  unfold escapeName
  split
  · decide
  · decide
  · decide
  · decide
  · decide
  · next _ _ hnewline hreturn _ =>
    rw [List.mem_singleton, List.mem_singleton]
    exact ⟨Ne.symm hnewline, Ne.symm hreturn⟩

theorem SpellsName.isLead {form : KeyForm} {name text : Line} (h : SpellsName form name text) :
    IsLead (text ++ [':']) := by
  cases h with
  | quoted =>
    have hbody : ∀ {c}, (∀ d, c ∉ escapeName d) → c ∉ ['"', ':'] →
        c ∉ quoteName name ++ [':'] := by
      intro c hescape hend hmem
      simp only [quoteName, List.cons_append, List.append_assoc, List.mem_cons, List.mem_append,
        List.mem_flatMap, List.not_mem_nil, or_false, List.nil_append] at hmem hend
      rcases hmem with hc | ⟨d, -, hd⟩ | hc
      · exact hend (Or.inl hc)
      · exact hescape d hd
      · exact hend hc
    exact ⟨⟨'"', _, rfl, rfl, by decide⟩, hbody (fun d ↦ (notMem_escapeName d).1) (by decide),
      hbody (fun d ↦ (notMem_escapeName d).2) (by decide)⟩
  | bare admits => exact (IsPathText.of_admits admits).isLead_append (by decide) (by decide)
  | optional admits =>
    rw [List.append_assoc]
    exact (IsPathText.of_admits admits).isLead_append (by decide) (by decide)

variable {base : String} {removals : List String}

theorem isLead_addingHeader (h : IsBase base.toList) : IsLead (addingHeader base) :=
  (IsPathText.of_isPath h.path).isLead_append (by decide) (by decide)

theorem isLead_removingHeader (h : IsBase base.toList)
    (paths : ∀ path ∈ removals, isPath path.toList = true) {tail : Line} (oneLine : '\n' ∉ tail)
    (noReturn : '\r' ∉ tail) : IsLead (removingHeader base removals ++ tail) := by
  have hword : ∀ {c}, c ∉ ' ' :: clauseWord .removing → c ∉ pathList removals → c ∉ tail →
      c ∉ ' ' :: (clauseWord .removing ++ ' ' :: pathList removals) ++ tail := by
    intro c hword hpaths htail hmem
    simp only [List.cons_append, List.append_assoc, List.mem_cons, List.mem_append] at hmem hword
    rcases hmem with hc | hc | hc | hc | hc
    · exact hword (Or.inl hc)
    · exact hword (Or.inr hc)
    · exact hword (Or.inl hc)
    · exact hpaths hc
    · exact htail hc
  rw [removingHeader, List.append_assoc]
  refine (IsPathText.of_isPath h.path).isLead_append ?_ ?_
  · exact hword (by decide) (notMem_pathList paths (by decide) (by decide) rfl) oneLine
  · exact hword (by decide) (notMem_pathList paths (by decide) (by decide) rfl) noReturn

/-! ## Values -/

variable {U : Type}

theorem SpellsElements.isSpelled {unordered : Bool} {ts : List (ValueTree U)} {ls : List Line}
    (h : SpellsElements unordered ts ls)
    (spelled : ∀ t ∈ ts, ∀ ls, Spells t ls → ∀ l ∈ ls, IsSpelled l) : ∀ l ∈ ls, IsSpelled l := by
  induction ts generalizing ls with
  | nil =>
    cases h
    exact fun _ h ↦ absurd h List.not_mem_nil
  | cons t ts ih =>
    obtain ⟨ht, hts⟩ := List.forall_mem_cons.mp spelled
    cases h with
    | cons value placed more =>
      refine List.forall_mem_append.mpr ⟨?_, ih more hts⟩
      exact placed.isSpelled (isLead_markerOf unordered) List.not_mem_nil (ht _ value)

theorem SpellsEntries.isSpelled {form : KeyForm} {es : List (String × ValueTree U)} {ls : List Line}
    (h : SpellsEntries form es ls)
    (spelled : ∀ e ∈ es, ∀ ls, Spells e.2 ls → ∀ l ∈ ls, IsSpelled l) : ∀ l ∈ ls, IsSpelled l := by
  induction es generalizing ls with
  | nil =>
    cases h
    exact fun _ h ↦ absurd h List.not_mem_nil
  | cons e es ih =>
    obtain ⟨he, hes⟩ := List.forall_mem_cons.mp spelled
    cases h with
    | cons named value placed more =>
      refine List.forall_mem_append.mpr ⟨?_, ih more hes⟩
      exact placed.isSpelled named.isLead (by decide) (he _ value)

/-- All lines of a spelling count, and each can be written and cut out again. -/
theorem Spells.isSpelled {t : ValueTree U} (expressible : Expressible t) {ls : List Line}
    (h : Spells t ls) : ∀ l ∈ ls, IsSpelled l := by
  induction t using ValueTree.induction generalizing ls with
  | array block unordered elements ih =>
    cases expressible with
    | array _ _ nonempty each =>
      cases h with
      | array _ spelled => exact spelled.isSpelled fun t ht ls ↦ ih t ht (each t ht)
  | object block es ih =>
    cases expressible with
    | object _ nonempty each =>
      cases h with
      | object _ spelled => exact spelled.isSpelled fun e he ls ↦ ih e he (each e he)
  | mixin block base removals es ih =>
    cases expressible with
    | mixin _ isBase paths distinct changes each =>
      have hadded : ∀ {inner}, SpellsEntries .path es inner → ∀ l ∈ inner, IsSpelled l :=
        fun spelled ↦ spelled.isSpelled fun e he ls ↦ ih e he (each e he)
      cases h with
      | adding _ spelled placed =>
        exact placed.isSpelled (isLead_addingHeader isBase) (by decide) (hadded spelled)
      | removing _ _ removes =>
        have hlead : IsLead (removingHeader base removals ++ []) :=
          isLead_removingHeader isBase paths List.not_mem_nil List.not_mem_nil
        rw [List.append_nil] at hlead
        exact List.forall_mem_singleton.mpr hlead.isSpelled
      | combined _ removes adds spelled placed =>
        exact placed.isSpelled (isLead_removingHeader isBase paths (by decide) (by decide))
          (by decide) (hadded spelled)
  | expression block code =>
    cases expressible with
    | expression _ isCode =>
      cases h with
      | expression =>
        refine List.forall_mem_singleton.mpr ⟨?_, ?_, isCode.oneLine, ?_⟩
        · obtain ⟨c, cs, hcs⟩ := List.exists_cons_of_ne_nil isCode.nonempty
          have hc := isCode.first c (by rw [hcs]; rfl)
          rw [hcs, allBlank, List.all_cons, hc, Bool.false_and]
        · rw [Passage.isComment, trimStart_eq_self isCode.first, Bool.eq_false_iff, ne_eq,
            List.isPrefixOf_iff_prefix]
          exact isCode.noComment
        · exact fun hlast ↦ absurd (isCode.last _ hlast) (by decide)
  | compiled block unit => cases h

/-! ## First lines -/

theorem SpellsElements.exists_marker {unordered : Bool} {ts : List (ValueTree U)}
    {texts : List Line}
    (h : SpellsElements unordered ts texts) (nonempty : ts ≠ []) :
    ∃ l ls text, texts = l :: ls ∧ marker? l = some (unordered, text) := by
  cases h with
  | nil => exact absurd rfl nonempty
  | cons value placed more =>
    obtain ⟨tail, ls, rfl⟩ := placed.exists_cons
    exact ⟨_, _, tail, rfl, marker?_eq_some_iff.mpr rfl⟩

theorem SpellsEntries.exists_key {form : KeyForm} {es : List (String × ValueTree U)}
    {texts : List Line}
    (h : SpellsEntries form es texts) (nonempty : es ≠ []) :
    ∃ l ls key, texts = l :: ls ∧ key? form l = some key ∧ ∀ c ∈ l.head?, isBlank c = false := by
  cases h with
  | nil => exact absurd rfl nonempty
  | @cons _ name _ _ text _ _ below named value placed more =>
    have hfirst : ∀ tail, ∀ c ∈ (text ++ [':'] ++ tail).head?, isBlank c = false := by
      obtain ⟨c, lead, hlead, hblank, -⟩ := named.isLead.first
      intro tail d hd
      rw [hlead] at hd
      cases hd
      exact hblank
    cases placed with
    | inline l ls =>
      exact ⟨_, _, (name, l), rfl, key?_spelled named (Or.inl rfl), hfirst ([' '] ++ l)⟩
    | below ls =>
      have hhead := hfirst []
      rw [List.append_nil] at hhead
      exact ⟨_, _, (name, []), rfl, key?_spelled named (Or.inr ⟨rfl, rfl⟩), hhead⟩

theorem Spells.ne_nil {t : ValueTree U} (expressible : Expressible t) {ls : List Line}
    (h : Spells t ls) : ls ≠ [] := by
  cases h with
  | expression | removing => exact List.cons_ne_nil _ _
  | adding _ _ placed | combined _ _ _ _ placed =>
    obtain ⟨tail, more, rfl⟩ := placed.exists_cons
    exact List.cons_ne_nil _ _
  | array _ each =>
    cases expressible with
    | array _ _ nonempty _ =>
      obtain ⟨l, ls, text, rfl, -⟩ := each.exists_marker nonempty
      exact List.cons_ne_nil _ _
  | object _ each =>
    cases expressible with
    | object _ nonempty _ =>
      obtain ⟨l, ls, key, rfl, -⟩ := each.exists_key nonempty
      exact List.cons_ne_nil _ _

end DataOutline
