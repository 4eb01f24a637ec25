import Mathlib.Data.List.Forall2
import DataOutline.Proofs.Document.Parts
import DataOutline.Proofs.Grammar.Reading

/-!
# Where the lines of parts come from

The passages of the parts of a value are cut out of the lines that count of its own passage. Every
line goes to at most one part, in the order of the lines; it keeps its number and loses characters
at its start only. The first line of a passage shares its line with the marker, the key or the
header in front of it, and may be left with nothing. The lines below it lose one tab each, so none
of them becomes blank. By induction, this holds at every depth.
-/

namespace DataOutline

open Text Grammar

/-! ## Lines -/

/-- The end of a line, under the same number. -/
structure NumberedLine.EndOf (l l' : NumberedLine) : Prop where
  number : l.number = l'.number
  text : l.text <:+ l'.text

namespace NumberedLine.EndOf

instance : Std.Refl NumberedLine.EndOf := ⟨fun _ ↦ ⟨rfl, List.suffix_rfl⟩⟩

instance : IsTrans NumberedLine NumberedLine.EndOf :=
  ⟨fun _ _ _ h h' ↦ ⟨h.number.trans h'.number, h.text.trans h'.text⟩⟩

end NumberedLine.EndOf

/-- `EndsOf ls ls'`: some of the lines `ls'`, in their order, each without some characters at its
start, are the lines `ls`. -/
abbrev EndsOf : List NumberedLine → List NumberedLine → Prop :=
  List.SublistForall₂ NumberedLine.EndOf

namespace EndsOf

variable {ls ls' : List NumberedLine}

theorem of_forall₂ (h : List.Forall₂ NumberedLine.EndOf ls ls') : EndsOf ls ls' :=
  List.sublistForall₂_iff.mpr ⟨ls', h, List.Sublist.refl ls'⟩

theorem numbers (h : EndsOf ls ls') : (ls.map (·.number)).Sublist (ls'.map (·.number)) := by
  obtain ⟨ms, hends, hsub⟩ := List.sublistForall₂_iff.mp h
  have heq : ls.map (·.number) = ms.map (·.number) :=
    map_eq_map_of_forall₂ hends fun _ _ _ hl ↦ hl.number
  rw [heq]
  exact hsub.map _

theorem exists_of_mem (h : EndsOf ls ls') {l : NumberedLine} (hl : l ∈ ls) :
    ∃ l' ∈ ls', l.EndOf l' := by
  obtain ⟨ms, hends, hsub⟩ := List.sublistForall₂_iff.mp h
  obtain ⟨l', hl', hend⟩ := exists_of_forall₂ hends hl
  exact ⟨l', hsub.subset hl', hend⟩

end EndsOf

theorem allBlank_tab (text : Line) : allBlank ('\t' :: text) = allBlank text := rfl

namespace Passage

theorem content_sublist (p : Passage) : p.content.Sublist p.lines := by
  rw [content]
  split
  · exact (List.filter_sublist).trans (List.sublist_cons_self _ _)
  · exact List.filter_sublist

/-- No line but the first is blank. -/
def IsSolid (p : Passage) : Prop := ∀ l ∈ p.more, allBlank l.text = false

theorem IsSolid.content {p : Passage} (h : p.IsSolid) :
    ∀ l ∈ p.content, allBlank l.text = false := by
  intro l hl
  rw [Passage.content] at hl
  split at hl
  · exact h l (List.mem_of_mem_filter hl)
  · next hfirst =>
    rcases List.mem_cons.mp (List.mem_of_mem_filter hl) with rfl | hl
    · exact Bool.eq_false_iff.mpr hfirst
    · exact h l hl

end Passage

namespace ValueTree

/-! ## Cutting lines into passages -/

/-- Lines cut into passages, the lines in front of the first passage aside: a line opens a passage,
or it is indented and belongs to the one that is open. -/
inductive Cuts : List NumberedLine → List NumberedLine → List Passage → Prop
  | nil : Cuts [] [] []
  | opens {l : NumberedLine} {text : Line} {ls below : List NumberedLine} {passages : List Passage}
      (suffix : text <:+ l.text) (more : Cuts ls below passages) :
      Cuts (l :: ls) [] (⟨{ l with text }, below⟩ :: passages)
  | indented {l : NumberedLine} {text : Line} {ls below : List NumberedLine}
      {passages : List Passage} (tab : l.text = '\t' :: text) (more : Cuts ls below passages) :
      Cuts (l :: ls) ({ l with text } :: below) passages

theorem cuts_of_elements {kind : Option Bool} {ls below : List NumberedLine}
    {passages : List Passage} (h : elements kind ls = .ok (below, passages)) :
    Cuts ls below passages := by
  induction ls generalizing kind below passages with
  | nil =>
    cases h
    exact .nil
  | cons l ls ih =>
    unfold elements at h
    split at h
    · next unordered text hmarker =>
      split at h
      · exact nomatch h
      · obtain ⟨⟨below', passages'⟩, hmore, ⟨⟩⟩ := bind_eq_ok_iff.mp h
        refine .opens ?_ (ih hmore)
        rw [marker?_eq_some_iff.mp hmarker]
        exact (List.suffix_cons _ _).trans (List.suffix_cons _ _)
    · next text unordered _ htab =>
      obtain ⟨⟨below', passages'⟩, hmore, ⟨⟩⟩ := bind_eq_ok_iff.mp h
      exact .indented (unindent?_eq_some_iff.mp htab) (ih hmore)
    · exact nomatch h

theorem cuts_of_entries {form : KeyForm} {within : Bool} {ls below : List NumberedLine}
    {named : List (String × Passage)} (h : entries form within ls = .ok (below, named)) :
    Cuts ls below (named.map Prod.snd) := by
  induction ls generalizing within below named with
  | nil =>
    cases h
    exact .nil
  | cons l ls ih =>
    unfold entries at h
    split at h
    · next name text hkey =>
      obtain ⟨⟨below', named'⟩, hmore, ⟨⟩⟩ := bind_eq_ok_iff.mp h
      exact .opens (suffix_key? hkey) (ih hmore)
    · next text _ htab =>
      obtain ⟨⟨below', named'⟩, hmore, ⟨⟩⟩ := bind_eq_ok_iff.mp h
      exact .indented (unindent?_eq_some_iff.mp htab) (ih hmore)
    · exact nomatch h

namespace Cuts

variable {ls below : List NumberedLine} {passages : List Passage}

theorem lines (h : Cuts ls below passages) :
    List.Forall₂ NumberedLine.EndOf (below ++ passages.flatMap Passage.lines) ls := by
  induction h with
  | nil => exact .nil
  | opens suffix _ ih => exact .cons ⟨rfl, suffix⟩ ih
  | indented tab _ ih => exact .cons ⟨rfl, tab ▸ List.suffix_cons _ _⟩ ih

theorem solid (h : Cuts ls below passages) (notBlank : ∀ l ∈ ls, allBlank l.text = false) :
    (∀ l ∈ below, allBlank l.text = false) ∧ ∀ q ∈ passages, q.IsSolid := by
  induction h with
  | nil => exact ⟨nofun, nofun⟩
  | opens _ _ ih =>
    obtain ⟨hbelow, hpassages⟩ := ih (List.forall_mem_cons.mp notBlank).2
    exact ⟨nofun, List.forall_mem_cons.mpr ⟨hbelow, hpassages⟩⟩
  | @indented l text _ _ _ tab _ ih =>
    obtain ⟨hfirst, hmore⟩ := List.forall_mem_cons.mp notBlank
    obtain ⟨hbelow, hpassages⟩ := ih hmore
    rw [tab, allBlank_tab] at hfirst
    exact ⟨List.forall_mem_cons.mpr ⟨hfirst, hbelow⟩, hpassages⟩

end Cuts

theorem forall₂_of_unindentAll {ls ls' : List NumberedLine} (h : unindentAll ls = .ok ls') :
    List.Forall₂ (fun l l' ↦ l.number = l'.number ∧ l'.text = '\t' :: l.text) ls' ls := by
  induction ls generalizing ls' with
  | nil =>
    cases h
    exact .nil
  | cons l ls ih =>
    unfold unindentAll at h
    split at h
    · next text htab =>
      obtain ⟨more, hmore, ⟨⟩⟩ := bind_eq_ok_iff.mp h
      exact .cons ⟨rfl, unindent?_eq_some_iff.mp htab⟩ (ih hmore)
    · exact nomatch h

/-! ## The passages of parts -/

/-- What a passage is cut into: its lines that count, each without some characters at its start. -/
structure PartsOf (p : Passage) (passages : List Passage) : Prop where
  lines : EndsOf (passages.flatMap Passage.lines) p.content
  solid : p.IsSolid → ∀ q ∈ passages, q.IsSolid

theorem Cuts.endsOf {ls below : List NumberedLine} {passages : List Passage}
    (h : Cuts ls below passages) : EndsOf (passages.flatMap Passage.lines) ls :=
  IsTrans.trans _ _ _ (List.sublist_append_right _ _).sublistForall₂ (.of_forall₂ h.lines)

theorem Cuts.partsOf {p : Passage} {below : List NumberedLine} {passages : List Passage}
    (h : Cuts p.content below passages) : PartsOf p passages :=
  ⟨h.endsOf, fun hsolid ↦ (h.solid hsolid.content).2⟩

theorem additions_parts {p : Passage} {head : NumberedLine} {rest : List NumberedLine} {text : Line}
    {named : List (String × Passage)} (content : p.content = head :: rest)
    (suffix : text <:+ head.text) (h : additions head.number text rest = .ok named) :
    PartsOf p (named.map Prod.snd) := by
  unfold additions at h
  obtain ⟨below, hbelow, h⟩ := bind_eq_ok_iff.mp h
  have hunindented := forall₂_of_unindentAll hbelow
  have hclause : EndsOf (Passage.lines ⟨⟨head.number, text⟩, below⟩) p.content := by
    rw [content]
    refine .of_forall₂ (.cons ⟨rfl, suffix⟩ (hunindented.imp fun l l' hl ↦ ⟨hl.1, ?_⟩))
    exact hl.2 ▸ List.suffix_cons _ _
  have hsolid : p.IsSolid → Passage.IsSolid ⟨⟨head.number, text⟩, below⟩ := by
    intro hp l hl
    obtain ⟨l', hl', -, htab⟩ := exists_of_forall₂ hunindented hl
    rw [← allBlank_tab, ← htab]
    exact hp.content l' (content ▸ List.mem_cons_of_mem _ hl')
  simp only at h
  split at h
  · exact nomatch h
  · next first more hcontent =>
    split at h
    · exact nomatch h
    · obtain ⟨⟨below', named'⟩, hentries, ⟨⟩⟩ := bind_eq_ok_iff.mp h
      have hcuts := cuts_of_entries hentries
      have hcounts : EndsOf (first :: more) (Passage.lines ⟨⟨head.number, text⟩, below⟩) :=
        hcontent ▸ (Passage.content_sublist _).sublistForall₂
      exact ⟨IsTrans.trans _ _ _ hcuts.endsOf (IsTrans.trans _ _ _ hcounts hclause),
        fun hp ↦ (hcuts.solid (hcontent ▸ (hsolid hp).content)).2⟩

theorem mixinParts_parts {p : Passage} {head : NumberedLine} {rest : List NumberedLine}
    {clause : Clause} {text : Line} {removals : List String} {named : List (String × Passage)}
    (content : p.content = head :: rest) (suffix : text <:+ head.text)
    (h : mixinParts clause head.number text rest = .ok (removals, named)) :
    PartsOf p (named.map Prod.snd) := by
  unfold mixinParts at h
  split at h
  · obtain ⟨named', hadditions, ⟨⟩⟩ := bind_eq_ok_iff.mp h
    exact additions_parts content suffix hadditions
  · obtain ⟨removals', hremovals, h⟩ := bind_eq_ok_iff.mp h
    simp only at h
    split at h
    · next c tail hdrop =>
      split at h
      · next text' htext =>
        obtain ⟨named', hadditions, ⟨⟩⟩ := bind_eq_ok_iff.mp h
        have htail : tail <:+ text := by
          refine (List.suffix_cons c tail).trans ?_
          rw [← hdrop]
          exact List.drop_suffix _ _
        exact additions_parts content (((suffix_additions? htext).trans htail).trans suffix)
          hadditions
      · exact nomatch h
    · split at h
      · cases h
        exact ⟨.nil, fun _ ↦ nofun⟩
      · exact nomatch h

variable {U : Type}

/-- **The children of a value are read of passages that its own passage is cut into.** -/
theorem exists_parts_of_read {p : Passage} {t : ValueTree U} (h : read p = .ok t) :
    ∃ passages, PartsOf p passages ∧
      List.Forall₂ (fun q child ↦ read q = .ok child) passages t.children := by
  have hnamed : ∀ {named : List (String × Passage)} {es : List (String × ValueTree U)},
      List.Forall₂ ReadsNamed named es → List.Forall₂ (fun q child ↦ read q = .ok child)
        (named.map Prod.snd) (es.map Prod.snd) := by
    intro named es hreads
    rw [List.forall₂_map_left_iff, List.forall₂_map_right_iff]
    exact hreads.imp fun _ _ he ↦ he.2
  cases read_eq_ok_iff.mp h with
  | array content marker cut parts =>
    rw [← content] at cut
    exact ⟨_, (cuts_of_elements cut).partsOf, parts⟩
  | object content marker key cut parts =>
    rw [← content] at cut
    exact ⟨_, (cuts_of_entries cut).partsOf, hnamed parts⟩
  | mixin content marker key mixin cut parts =>
    exact ⟨_, mixinParts_parts content (suffix_mixin? mixin) cut, hnamed parts⟩
  | expression => exact ⟨[], ⟨.nil, fun _ ↦ nofun⟩, .nil⟩

/-- What a passage hands on to those that it is cut into holds of the passages of all parts. -/
theorem exists_passage_of_mem_parts {P : Passage → Prop}
    (step : ∀ p passages, P p → PartsOf p passages → ∀ q ∈ passages, P q) {p : Passage} (hp : P p)
    {t part : ValueTree U} (h : read p = .ok t) (hpart : part ∈ t.parts) :
    ∃ q, P q ∧ read q = .ok part := by
  induction t using ValueTree.childInduction generalizing p with
  | step t ih =>
    rw [parts_eq, List.mem_cons, List.mem_flatMap] at hpart
    rcases hpart with rfl | ⟨child, hchild, hpart⟩
    · exact ⟨p, hp, h⟩
    · obtain ⟨passages, hparts, hreads⟩ := exists_parts_of_read h
      obtain ⟨q, hq, hread⟩ := exists_of_forall₂ hreads.flip hchild
      exact ih child hchild (step p passages hp hparts q hq) hread hpart

end ValueTree

end DataOutline
