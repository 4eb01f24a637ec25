import DataOutline.Proofs.Grammar.SpelledLines

/-!
# Cutting the lines of a spelling

The lines of a spelling are cut exactly where one part ends and the next one begins: the lines of a
part below its first are indented, and what introduces the next part is not. A passage that is cut
out consists of the lines of the part's spelling, behind an empty line if none of them stood on the
line of what introduces it.
-/

namespace DataOutline

open Text Grammar

variable {U : Type}

/-! ## Passages -/

/-- A numbered line one level further in. -/
def NumberedLine.indent (l : NumberedLine) : NumberedLine :=
  { l with text := DataOutline.indent l.text }

/-- A passage consists of some lines, with nothing on the line in front of them or with no line in
front of them. -/
def Passage.Shows (p : Passage) (ls : List Line) : Prop :=
  p.lines.map (·.text) = ls ∨ p.lines.map (·.text) = [] :: ls

/-- No line of a passage is dropped but the empty one in front. -/
theorem Passage.Shows.content {p : Passage} {ls : List Line} (h : p.Shows ls)
    (spelled : ∀ l ∈ ls, IsSpelled l) (nonempty : ls ≠ []) : p.content.map (·.text) = ls := by
  have hfilter : ∀ {numbered : List NumberedLine}, numbered.map (·.text) = ls →
      numbered.filter (fun l ↦ !isComment l.text) = numbered := by
    rintro numbered rfl
    refine List.filter_eq_self.mpr fun l hl ↦ ?_
    rw [(spelled l.text (List.mem_map_of_mem hl)).notComment, Bool.not_false]
  rcases h with h | h
  · obtain ⟨l, ls, rfl⟩ := List.exists_cons_of_ne_nil nonempty
    have hfirst : p.first.text = l := (List.cons.inj h).1
    have hblank := (spelled l List.mem_cons_self).notBlank
    rw [Passage.content, hfirst, hblank, if_neg Bool.false_ne_true, hfilter h, h]
  · obtain ⟨hfirst, hmore⟩ := List.cons.inj h
    have hblank : allBlank p.first.text = true := by
      rw [show p.first.text = [] from hfirst]
      rfl
    rw [Passage.content, if_pos hblank, hfilter hmore, hmore]

theorem exists_of_map_indent {ls : List NumberedLine} {texts : List Line}
    (h : ls.map (·.text) = texts.map indent) :
    ∃ ls' : List NumberedLine, ls = ls'.map NumberedLine.indent ∧ ls'.map (·.text) = texts := by
  induction texts generalizing ls with
  | nil => exact ⟨[], List.map_eq_nil_iff.mp h, rfl⟩
  | cons text texts ih =>
    obtain ⟨l, ls, rfl, hl, hls⟩ := List.map_eq_cons_iff.mp h
    obtain ⟨ls', rfl, htexts⟩ := ih hls
    refine ⟨{ l with text := text } :: ls', ?_, by rw [List.map_cons, htexts]⟩
    rw [List.map_cons, NumberedLine.indent, ← hl]

/-- Lines at a place are a first line, which begins with the lead, and indented lines; without the
lead and the gap, and without the tabs, they show what stands at the place. -/
theorem Places.exists_lines {lead gap : Line} {inner here : List Line}
    (h : Places lead gap inner here) {ls : List NumberedLine} (hls : ls.map (·.text) = here) :
    ∃ (first : NumberedLine) (text : Line) (more : List NumberedLine),
      ls = first :: more.map NumberedLine.indent ∧
      (first.text = lead ++ (gap ++ text) ∨ first.text = lead ∧ text = []) ∧
      Passage.Shows ⟨{ first with text }, more⟩ inner := by
  cases h with
  | inline l texts =>
    obtain ⟨first, ls, rfl, hfirst, hls⟩ := List.map_eq_cons_iff.mp hls
    obtain ⟨more, rfl, hmore⟩ := exists_of_map_indent hls
    refine ⟨first, l, more, rfl, Or.inl hfirst, Or.inl ?_⟩
    rw [Passage.lines, List.map_cons, hmore]
  | below texts =>
    obtain ⟨first, ls, rfl, hfirst, hls⟩ := List.map_eq_cons_iff.mp hls
    obtain ⟨more, rfl, hmore⟩ := exists_of_map_indent hls
    refine ⟨first, [], more, rfl, Or.inr ⟨hfirst, rfl⟩, Or.inr ?_⟩
    rw [Passage.lines, List.map_cons, hmore]

namespace ValueTree

/-! ## Elements -/

theorem elements_marker {kind : Option Bool} {unordered : Bool} {line : NumberedLine}
    {rest below : List NumberedLine} {text : Line} {passages : List Passage}
    (kind_ok : ∀ k ∈ kind, k = unordered) (marker : marker? line.text = some (unordered, text))
    (more : elements (some unordered) rest = .ok (below, passages)) :
    elements kind (line :: rest) = .ok ([], ⟨{ line with text }, below⟩ :: passages) := by
  have hkind : kind.any (· ≠ unordered) = false := by
    cases kind with
    | none => rfl
    | some k =>
      rw [kind_ok k rfl]
      simp
  unfold elements
  simp only [marker, hkind, more]
  rfl

theorem elements_indented {unordered : Bool} {ls rest below : List NumberedLine}
    {passages : List Passage} (h : elements (some unordered) rest = .ok (below, passages)) :
    elements (some unordered) (ls.map NumberedLine.indent ++ rest) =
      .ok (ls ++ below, passages) := by
  induction ls with
  | nil => exact h
  | cons l ls ih =>
    have hmarker : marker? l.indent.text = none := marker?_eq_none (by decide) (by decide)
    have htab : unindent? l.indent.text = some l.text := rfl
    rw [List.map_cons, List.cons_append]
    unfold elements
    simp only [hmarker, htab, ih]
    rfl

theorem elements_spelled {unordered : Bool} {ts : List (ValueTree U)} {texts : List Line}
    (h : SpellsElements unordered ts texts) {kind : Option Bool}
    (kind_ok : ∀ k ∈ kind, k = unordered)
    {ls : List NumberedLine} (hls : ls.map (·.text) = texts) :
    ∃ passages, elements kind ls = .ok ([], passages) ∧
      List.Forall₂ (fun q t ↦ ∃ inner, Spells t inner ∧ q.Shows inner) passages ts := by
  induction ts generalizing texts kind ls with
  | nil =>
    cases h
    obtain rfl := List.map_eq_nil_iff.mp hls
    exact ⟨[], by rw [elements], .nil⟩
  | cons t ts ih =>
    cases h with
    | cons value placed more =>
      obtain ⟨here, below, rfl, hhere, hbelow⟩ := List.map_eq_append_iff.mp hls
      obtain ⟨first, text, mine, rfl, hfirst, hshows⟩ := placed.exists_lines hhere
      have hkind : ∀ k ∈ some unordered, k = unordered := fun k hk ↦ (Option.some.inj hk).symm
      obtain ⟨passages, hcut, hpassages⟩ := ih more hkind hbelow
      have hmarker : marker? first.text = some (unordered, text) := by
        refine marker?_eq_some_iff.mpr ?_
        rcases hfirst with hfirst | ⟨hfirst, rfl⟩
        · exact hfirst
        · exact hfirst
      -- The cut is made from below: `below` is cut already, the indented lines above it are handed
      -- up to the line of the marker.
      have hmore : elements (some unordered) (mine.map NumberedLine.indent ++ below)
          = .ok (mine ++ [], passages) := elements_indented hcut
      rw [List.append_nil] at hmore
      exact ⟨_, elements_marker kind_ok hmarker hmore, .cons ⟨_, value, hshows⟩ hpassages⟩

/-! ## Entries -/

/-- Passages that show the spellings of entries, one by one and under their names. -/
abbrev ShowEntries (named : List (String × Passage)) (es : List (String × ValueTree U)) : Prop :=
  List.Forall₂ (fun e e' ↦ e.1 = e'.1 ∧ ∃ inner, Spells e'.2 inner ∧ e.2.Shows inner) named es

theorem entries_key {form : KeyForm} {within : Bool} {line : NumberedLine}
    {rest below : List NumberedLine} {name : String} {text : Line}
    {named : List (String × Passage)} (key : key? form line.text = some (name, text))
    (more : entries form true rest = .ok (below, named)) :
    entries form within (line :: rest) =
      .ok ([], (name, ⟨{ line with text }, below⟩) :: named) := by
  unfold entries
  simp only [key, more]
  rfl

theorem entries_indented {form : KeyForm} {ls rest below : List NumberedLine}
    {named : List (String × Passage)} (h : entries form true rest = .ok (below, named)) :
    entries form true (ls.map NumberedLine.indent ++ rest) = .ok (ls ++ below, named) := by
  induction ls with
  | nil => exact h
  | cons l ls ih =>
    have hkey : key? form l.indent.text = none := key?_eq_none (by decide) rfl
    have htab : unindent? l.indent.text = some l.text := rfl
    rw [List.map_cons, List.cons_append]
    unfold entries
    simp only [hkey, htab, ih]
    rfl

theorem entries_spelled {form : KeyForm} {es : List (String × ValueTree U)} {texts : List Line}
    (h : SpellsEntries form es texts) {within : Bool} {ls : List NumberedLine}
    (hls : ls.map (·.text) = texts) :
    ∃ named, entries form within ls = .ok ([], named) ∧ ShowEntries named es := by
  induction es generalizing texts within ls with
  | nil =>
    cases h
    obtain rfl := List.map_eq_nil_iff.mp hls
    exact ⟨[], by rw [entries], .nil⟩
  | cons e es ih =>
    cases h with
    | cons spellsName value placed more =>
      obtain ⟨here, below, rfl, hhere, hbelow⟩ := List.map_eq_append_iff.mp hls
      obtain ⟨first, text, mine, rfl, hfirst, hshows⟩ := placed.exists_lines hhere
      obtain ⟨named, hcut, hnamed⟩ :
          ∃ named, entries form true below = .ok ([], named) ∧ _ := ih more hbelow
      have hmore : entries form true (mine.map NumberedLine.indent ++ below)
          = .ok (mine ++ [], named) := entries_indented hcut
      rw [List.append_nil] at hmore
      exact ⟨_, entries_key (key?_spelled spellsName hfirst) hmore,
        .cons ⟨rfl, _, value, hshows⟩ hnamed⟩

/-! ## Mixins -/

theorem unindentAll_indented (ls : List NumberedLine) :
    unindentAll (ls.map NumberedLine.indent) = .ok ls := by
  induction ls with
  | nil => rfl
  | cons l ls ih =>
    have htab : unindent? l.indent.text = some l.text := rfl
    rw [List.map_cons]
    unfold unindentAll
    simp only [htab, ih]
    rfl

theorem additions_spelled {es : List (String × ValueTree U)} {inner : List Line}
    (h : SpellsEntries .path es inner) (adds : es ≠ []) (spelled : ∀ l ∈ inner, IsSpelled l)
    {number : Nat} {text : Line} {more : List NumberedLine}
    (shows : Passage.Shows ⟨⟨number, text⟩, more⟩ inner) :
    ∃ named, additions number text (more.map NumberedLine.indent) = .ok named ∧
      ShowEntries named es := by
  obtain ⟨l, ls, key, hinner, hkey, -⟩ := h.exists_key adds
  have hcontent := shows.content spelled (by rw [hinner]; exact List.cons_ne_nil _ _)
  obtain ⟨named, hcut, hnamed⟩ :
      ∃ named, entries .path false _ = .ok ([], named) ∧ _ := entries_spelled h hcontent
  refine ⟨named, ?_, hnamed⟩
  unfold additions
  rw [unindentAll_indented, ok_bind]
  rw [hinner] at hcontent
  obtain ⟨head, rest, hlines, rfl, -⟩ := List.map_eq_cons_iff.mp hcontent
  rw [hlines] at hcut
  simp only [hlines, hkey, hcut, Option.isNone_some, Bool.false_eq_true, if_false]
  rfl

theorem follows_header {header line text : Line} (hline : line = header ++ ([' '] ++ text) ∨
    line = header ∧ text = []) (first : ∀ c ∈ text.head?, isBlank c = false) :
    ∃ tail, line = header ++ tail ∧ Follows tail text := by
  rcases hline with rfl | ⟨rfl, rfl⟩
  · exact ⟨' ' :: text, rfl, .space first⟩
  · exact ⟨[], by rw [List.append_nil], .nothing⟩

/-- The text in front of spelled entries begins with no blank: it is empty, or their first line. -/
theorem head?_of_shows {es : List (String × ValueTree U)} {inner : List Line}
    (h : SpellsEntries .path es inner) (adds : es ≠ []) {number : Nat} {text : Line}
    {more : List NumberedLine} (shows : Passage.Shows ⟨⟨number, text⟩, more⟩ inner) :
    ∀ c ∈ text.head?, isBlank c = false := by
  obtain ⟨l, ls, key, rfl, -, hfirst⟩ := h.exists_key adds
  rcases shows with hshows | hshows
  · obtain rfl : text = l := (List.cons.inj hshows).1
    exact hfirst
  · obtain rfl : text = [] := (List.cons.inj hshows).1
    exact nofun

/-- The header of a mixin and the lines below it are read as what it removes and as passages that
show the spellings of what it adds. -/
theorem mixinParts_spelled {block : Block} {base : String} {removals : List String}
    {es : List (String × ValueTree U)} {texts : List Line} (isBase : IsBase base.toList)
    (paths : ∀ path ∈ removals, isPath path.toList = true) (distinct : removals.Nodup)
    (changes : removals ≠ [] ∨ es ≠ [])
    (spelled : ∀ inner, SpellsEntries .path es inner → ∀ l ∈ inner, IsSpelled l)
    (h : Spells (.mixin block base removals es) texts) {head : NumberedLine}
    {rest : List NumberedLine} (hlines : (head :: rest).map (·.text) = texts) :
    ∃ tail clause text named, head.text = base.toList ++ ' ' :: tail ∧
      mixin? head.text = some (base, clause, text) ∧
      mixinParts clause head.number text rest = .ok (removals, named) ∧ ShowEntries named es := by
  cases h with
  | @adding _ _ _ inner _ each placed =>
    have adds := changes.resolve_left fun h ↦ h rfl
    obtain ⟨first, text, more, hsplit, hfirst, hshows⟩ := placed.exists_lines hlines
    obtain ⟨rfl, rfl⟩ := List.cons.inj hsplit
    obtain ⟨tail, hline, hfollows⟩ := follows_header hfirst (head?_of_shows each adds hshows)
    obtain ⟨named, hcut, hnamed⟩ := additions_spelled each adds (spelled inner each) hshows
    rw [addingHeader, List.append_assoc] at hline
    refine ⟨_, .adding, text, named, hline, ?_, ?_, hnamed⟩
    · rw [hline]
      exact mixin?_header isBase hfollows
    · rw [mixinParts, hcut]
      rfl
  | removing _ _ removes =>
    obtain ⟨hline, hrest⟩ := List.cons.inj hlines
    obtain rfl := List.map_eq_nil_iff.mp hrest
    have hfollows : Follows (' ' :: pathList removals) (pathList removals) := by
      have hhead := head?_pathList removes paths []
      rw [List.append_nil] at hhead
      exact .space hhead
    refine ⟨_, .removing, pathList removals, [], hline, ?_, ?_, .nil⟩
    · rw [show head.text = _ from hline]
      exact mixin?_header isBase hfollows
    · have hlist : (pathList removals ++ []).takeWhile (· ≠ ';') = pathList removals :=
        takeWhile_pathList paths (Or.inl rfl)
      rw [List.append_nil] at hlist
      unfold mixinParts
      simp only [hlist, removals_pathList head.number removes paths distinct, ok_bind,
        List.drop_length]
      rfl
  | @combined _ _ _ _ inner _ removes adds each placed =>
    obtain ⟨first, text, more, hsplit, hfirst, hshows⟩ := placed.exists_lines hlines
    obtain ⟨rfl, rfl⟩ := List.cons.inj hsplit
    obtain ⟨tail, hline, hfollows⟩ := follows_header hfirst (head?_of_shows each adds hshows)
    obtain ⟨named, hcut, hnamed⟩ := additions_spelled each adds (spelled inner each) hshows
    -- The list of paths ends at the semicolon, since no path holds one.
    have hclause : head.text = base.toList ++ ' ' :: (clauseWord .removing
        ++ ' ' :: (pathList removals ++ ';' :: ' ' :: (clauseWord .adding ++ tail))) := by
      rw [hline, combinedHeader, removingHeader]
      simp only [List.append_assoc, List.cons_append]
    refine ⟨_, .removing, pathList removals ++ ';' :: ' ' :: (clauseWord .adding ++ tail), named,
      hclause, ?_, ?_, hnamed⟩
    · rw [hclause]
      exact mixin?_header isBase (.space (head?_pathList removes paths _))
    · have hlist : (pathList removals ++ ';' :: ' ' :: (clauseWord .adding ++ tail)).takeWhile
          (· ≠ ';') = pathList removals := takeWhile_pathList paths (Or.inr rfl)
      unfold mixinParts
      simp only [hlist, removals_pathList head.number removes paths distinct, ok_bind,
        List.drop_left, additions?_header hfollows, hcut]
      rfl

end ValueTree

end DataOutline
