import DataOutline.Proofs.Grammar.Reading
import DataOutline.Proofs.Grammar.Spelling

/-!
# Reading the beginnings of lines

What was put in front of a part is found there again: a name in quotes or without them, the header
of a mixin, and the paths that it removes. The characters of names without quotes and of paths are
few, and none of them is one that ends a name or a path, so the reader stops where the name does.
-/

namespace DataOutline

open Text Grammar

/-! ## Characters of paths -/

def isPathChar (c : Char) : Bool := isWordChar c || c == '.'

theorem isBlank_of_isPathChar {c : Char} (h : isPathChar c = true) : isBlank c = false := by
  have hrange : 48 ≤ c.toNat ∧ c.toNat ≤ 57 ∨ 65 ≤ c.toNat ∧ c.toNat ≤ 90 ∨
      97 ≤ c.toNat ∧ c.toNat ≤ 122 ∨ c = '_' ∨ c = '$' ∨ c = '.' := by
    simp only [isPathChar, isWordChar, isAsciiLetter, isDigit, Bool.or_eq_true, beq_iff_eq] at h
    rcases h with (((h | h) | h) | h) | h
    · rcases Bool.or_eq_true_iff.mp h with h | h
      · exact Or.inr (Or.inl (of_decide_eq_true h))
      · obtain ⟨hle, hge⟩ := Bool.and_eq_true_iff.mp h
        exact Or.inr (Or.inr (Or.inl ⟨of_decide_eq_true hle, of_decide_eq_true hge⟩))
    · obtain ⟨hle, hge⟩ := Bool.and_eq_true_iff.mp h
      exact Or.inl ⟨of_decide_eq_true hle, of_decide_eq_true hge⟩
    · exact Or.inr (Or.inr (Or.inr (Or.inl h)))
    · exact Or.inr (Or.inr (Or.inr (Or.inr (Or.inl h))))
    · exact Or.inr (Or.inr (Or.inr (Or.inr (Or.inr h))))
  -- Every blank lies outside of the visible characters with the lowest numbers.
  have hletter : ∀ n, 33 ≤ n → n ≤ 126 → n = c.toNat → isBlank c = false := by
    rintro n hlow hhigh rfl
    simp only [isBlank, Bool.or_eq_false_iff, Bool.and_eq_false_iff, decide_eq_false_iff_not,
      beq_eq_false_iff_ne]
    omega
  rcases hrange with h | h | h | rfl | rfl | rfl
  · exact hletter _ (by omega) (by omega) rfl
  · exact hletter _ (by omega) (by omega) rfl
  · exact hletter _ (by omega) (by omega) rfl
  · rfl
  · rfl
  · rfl

/-- One or more characters of words and dots. -/
structure IsPathText (cs : List Char) : Prop where
  nonempty : cs ≠ []
  chars : ∀ c ∈ cs, isPathChar c = true

theorem IsPathText.exists_cons {cs : List Char} (h : IsPathText cs) :
    ∃ c more, cs = c :: more ∧ isPathChar c = true := by
  obtain ⟨c, more, rfl⟩ := List.exists_cons_of_ne_nil h.nonempty
  exact ⟨c, more, rfl, h.chars c List.mem_cons_self⟩

theorem mem_intercalate {sep : Line} {c : Char} {parts : List Line}
    (h : c ∈ sep.intercalate parts) : c ∈ sep ∨ ∃ part ∈ parts, c ∈ part := by
  induction parts with
  | nil => exact absurd h List.not_mem_nil
  | cons part parts ih =>
    rcases parts with _ | ⟨next, parts⟩
    · rw [List.intercalate_singleton] at h
      exact Or.inr ⟨part, List.mem_cons_self, h⟩
    · rw [List.intercalate_cons_cons, List.mem_append, List.mem_append] at h
      rcases h with (h | h) | h
      · exact Or.inr ⟨part, List.mem_cons_self, h⟩
      · exact Or.inl h
      · exact (ih h).imp_right fun ⟨p, hp, hc⟩ ↦ ⟨p, List.mem_cons_of_mem _ hp, hc⟩

theorem IsPathText.of_isPath {cs : List Char} (h : isPath cs = true) : IsPathText cs := by
  rw [isPath, List.all_eq_true] at h
  refine ⟨?_, fun c hc ↦ ?_⟩
  · rintro rfl
    rw [List.splitOn_nil] at h
    exact nomatch h [] List.mem_cons_self
  · have hparts : ['.'].intercalate (cs.splitOn '.') = cs := List.intercalate_splitOn '.'
    rw [← hparts] at hc
    rcases mem_intercalate hc with hc | ⟨part, hpart, hc⟩
    · rw [List.mem_singleton.mp hc]
      rfl
    · have hword := (Bool.and_eq_true_iff.mp (h part hpart)).2
      rw [isPathChar, List.all_eq_true.mp hword c hc, Bool.true_or]

theorem IsPathText.of_admits {form : KeyForm} {cs : List Char} (h : form.admits cs = true) :
    IsPathText cs := by
  cases form with
  | path => exact .of_isPath h
  | word =>
    obtain ⟨hne, hword⟩ := Bool.and_eq_true_iff.mp h
    refine ⟨?_, fun c hc ↦ ?_⟩
    · rintro rfl
      exact nomatch hne
    · rw [isPathChar, List.all_eq_true.mp hword c hc, Bool.true_or]

theorem pathPart_eq {cs rest : Line} (h : ∀ c ∈ cs, isPathChar c = true)
    (stop : ∀ c ∈ rest.head?, isPathChar c = false) : pathPart (cs ++ rest) = (cs, rest) := by
  have hstop : rest.takeWhile isPathChar = [] ∧ rest.dropWhile isPathChar = rest := by
    rcases rest with _ | ⟨c, rest⟩
    · exact ⟨rfl, rfl⟩
    · rw [List.takeWhile_cons, List.dropWhile_cons, stop c rfl]
      exact ⟨rfl, rfl⟩
  rw [pathPart, List.span_eq_takeWhile_dropWhile]
  change ((cs ++ rest).takeWhile isPathChar, (cs ++ rest).dropWhile isPathChar) = _
  rw [List.takeWhile_append_of_pos h, List.dropWhile_append_of_pos h, hstop.1, hstop.2,
    List.append_nil]

/-! ## Names -/

theorem quotedBody_escapeName (c : Char) (line : Line) :
    quotedBody (escapeName c ++ line) =
      (quotedBody line).map fun (name, rest) ↦ (c :: name, rest) := by
  unfold escapeName
  split
  · rfl
  · rfl
  · rfl
  · rfl
  · rfl
  · next hquote hslash _ _ _ =>
    rw [List.singleton_append, quotedBody]
    · exact hquote
    · exact hslash

theorem quotedBody_flatMap_escapeName (name rest : Line) :
    quotedBody (name.flatMap escapeName ++ '"' :: rest) = some (name, rest) := by
  induction name with
  | nil => rfl
  | cons c name ih => rw [List.flatMap_cons, List.append_assoc, quotedBody_escapeName, ih]; rfl

theorem keyName?_of_head_ne {form : KeyForm} {line : Line} (h : line.head? ≠ some '"') :
    keyName? form line =
      if form.admits (pathPart line).1 then
        match (pathPart line).2 with
        | '?' :: rest => some ((pathPart line).1 ++ ['?'], rest)
        | rest => some ((pathPart line).1, rest)
      else none := by
  rw [keyName?.eq_def]
  split
  · exact absurd rfl h
  · rfl

theorem keyName?_spelled {form : KeyForm} {name text : Line} (h : SpellsName form name text)
    (rest : Line) : keyName? form (text ++ ':' :: rest) = some (name, ':' :: rest) := by
  have hhead : ∀ {cs more : Line}, IsPathText cs → (cs ++ more).head? ≠ some '"' := by
    intro cs more hcs hquote
    obtain ⟨c, cs, rfl, hc⟩ := hcs.exists_cons
    rw [Option.some.inj hquote] at hc
    exact nomatch hc
  cases h with
  | quoted =>
    rw [quoteName, List.cons_append, keyName?, List.append_assoc, List.singleton_append,
      quotedBody_flatMap_escapeName]
  | bare admits =>
    have hname := IsPathText.of_admits admits
    have hpart : pathPart (name ++ ':' :: rest) = (name, ':' :: rest) :=
      pathPart_eq hname.chars fun c hc ↦ by cases hc; rfl
    rw [keyName?_of_head_ne (hhead hname), hpart, if_pos admits]
    simp
  | @optional bare admits =>
    have hname := IsPathText.of_admits admits
    have hpart : pathPart (bare ++ '?' :: ':' :: rest) = (bare, '?' :: ':' :: rest) :=
      pathPart_eq hname.chars fun c hc ↦ by cases hc; rfl
    rw [List.append_assoc, List.singleton_append, keyName?_of_head_ne (hhead hname), hpart,
      if_pos admits]
    rfl

theorem key?_spelled {form : KeyForm} {name : String} {text line rest : Line}
    (h : SpellsName form name.toList text)
    (hline : line = text ++ [':'] ++ ([' '] ++ rest) ∨ line = text ++ [':'] ∧ rest = []) :
    key? form line = some (name, rest) := by
  rcases hline with rfl | ⟨rfl, rfl⟩
  · rw [List.append_assoc, List.singleton_append, List.singleton_append, key?, keyName?_spelled h]
    simp only [String.ofList_toList]
  · rw [key?, keyName?_spelled h]
    simp only [String.ofList_toList]

theorem key?_eq_none {form : KeyForm} {c : Char} {line : Line} (hquote : c ≠ '"')
    (h : isPathChar c = false) : key? form (c :: line) = none := by
  have hpart : pathPart ([] ++ c :: line) = ([], c :: line) :=
    pathPart_eq (fun _ h ↦ absurd h List.not_mem_nil) fun d hd ↦ by cases hd; exact h
  rw [List.nil_append] at hpart
  have hadmits : form.admits [] = false := by cases form <;> rfl
  have hname : keyName? form (c :: line) = none := by
    have hhead : (c :: line).head? ≠ some '"' := fun hhead ↦ hquote (Option.some.inj hhead)
    rw [keyName?_of_head_ne hhead, hpart, hadmits]
    rfl
  rw [key?, hname]

theorem marker?_eq_none {c : Char} {line : Line} (hordered : c ≠ '*') (hunordered : c ≠ '@') :
    marker? (c :: line) = none := by
  cases h : marker? (c :: line) with
  | none => rfl
  | some found =>
    have hline := marker?_eq_some_iff.mp (show marker? (c :: line) = some (found.1, found.2) from h)
    rw [List.cons.injEq] at hline
    split at hline
    · exact absurd hline.1 hunordered
    · exact absurd hline.1 hordered

theorem marker?_eq_none_of_key {form : KeyForm} {line : Line} {key : String × Line}
    (h : key? form line = some key) : marker? line = none := by
  cases hmarker : marker? line with
  | none => rfl
  | some found =>
    obtain ⟨unordered, text⟩ := found
    rw [marker?_eq_some_iff.mp hmarker] at h
    cases unordered
    · exact nomatch h.symm.trans (key?_eq_none (by decide) rfl)
    · exact nomatch h.symm.trans (key?_eq_none (by decide) rfl)

/-! ## Headers of mixins -/

theorem trimStart_eq_self {cs : Line} (h : ∀ c ∈ cs.head?, isBlank c = false) :
    trimStart cs = cs := by
  rcases cs with _ | ⟨c, cs⟩
  · rfl
  · rw [trimStart, List.dropWhile_cons, h c rfl]
    rfl

theorem trimStart_space (cs : Line) : trimStart (' ' :: cs) = trimStart cs := rfl

theorem trim_eq_self {cs : Line} (first : ∀ c ∈ cs.head?, isBlank c = false)
    (last : ∀ c ∈ cs.getLast?, isBlank c = false) : trim cs = cs := by
  have hend : cs.reverse.dropWhile isBlank = cs.reverse :=
    trimStart_eq_self fun c hc ↦ last c (by rwa [← List.head?_reverse])
  rw [trim, trimStart_eq_self first, trimEnd, hend, List.reverse_reverse]

/-- What can stand behind the word of a clause: nothing, or something behind one space. -/
inductive Follows : Line → Line → Prop
  | nothing : Follows [] []
  | space {line : Line} (first : ∀ c ∈ line.head?, isBlank c = false) : Follows (' ' :: line) line

theorem firstWord_clauseWord {clause : Clause} {tail rest : Line} (h : Follows tail rest) :
    firstWord (clauseWord clause ++ tail) = (clauseWord clause, rest) := by
  have hall : (clauseWord clause).all (!isBlank ·) = true := by
    cases clause <;> rfl
  have hword : ∀ c ∈ clauseWord clause, (!isBlank c) = true := List.all_eq_true.mp hall
  have htail : tail.takeWhile (fun c ↦ !isBlank c) = [] ∧
      trimStart (tail.dropWhile fun c ↦ !isBlank c) = rest := by
    cases h with
    | nothing => exact ⟨rfl, rfl⟩
    | space first => exact ⟨rfl, trimStart_eq_self first⟩
  rw [firstWord, List.takeWhile_append_of_pos hword, List.dropWhile_append_of_pos hword, htail.1,
    htail.2, List.append_nil]

theorem ofWord?_clauseWord (clause : Clause) :
    Clause.ofWord? (clauseWord clause) = some clause := by
  cases clause <;> rfl

theorem head?_clauseWord (clause : Clause) (tail : Line) :
    ∀ c ∈ (clauseWord clause ++ tail).head?, isBlank c = false := by
  cases clause <;> exact fun c hc ↦ by cases hc; rfl

theorem mixin?_header {base : String} (h : IsBase base.toList) {clause : Clause} {tail rest : Line}
    (follows : Follows tail rest) :
    mixin? (base.toList ++ ' ' :: (clauseWord clause ++ tail)) = some (base, clause, rest) := by
  have hpart : pathPart (base.toList ++ ' ' :: (clauseWord clause ++ tail))
      = (base.toList, ' ' :: (clauseWord clause ++ tail)) :=
    pathPart_eq (IsPathText.of_isPath h.path).chars fun c hc ↦ by cases hc; rfl
  have hdigit : base.toList.head?.any isDigit = false := by
    cases hhead : base.toList.head? with
    | none => rfl
    | some c => exact h.first c hhead
  rw [mixin?, hpart]
  simp only [trimStart_space, trimStart_eq_self (head?_clauseWord clause tail),
    firstWord_clauseWord follows, List.drop_left, h.path, hdigit, ofWord?_clauseWord,
    String.ofList_toList]
  rfl

/-- The header of a mixin is neither a marker nor a key. -/
theorem header_eq_none {base : String} (h : IsBase base.toList) (tail : Line) :
    marker? (base.toList ++ ' ' :: tail) = none ∧
      key? .word (base.toList ++ ' ' :: tail) = none := by
  have hpath := IsPathText.of_isPath h.path
  have hpart : pathPart (base.toList ++ ' ' :: tail) = (base.toList, ' ' :: tail) :=
    pathPart_eq hpath.chars fun c hc ↦ by cases hc; rfl
  obtain ⟨c, cs, hbase, hc⟩ := hpath.exists_cons
  have hne : ∀ d, isPathChar d = false → c ≠ d := by
    rintro d hd rfl
    exact nomatch hc.symm.trans hd
  have hhead : (base.toList ++ ' ' :: tail).head? ≠ some '"' := by
    rw [hbase]
    exact fun hquote ↦ hne '"' rfl (Option.some.inj hquote)
  constructor
  · rw [hbase]
    exact marker?_eq_none (hne '*' rfl) (hne '@' rfl)
  · rw [key?, keyName?_of_head_ne hhead, hpart]
    by_cases hadmits : KeyForm.word.admits base.toList = true
    · rw [if_pos hadmits]
      rfl
    · rw [if_neg hadmits]

theorem additions?_header {tail rest : Line} (follows : Follows tail rest) :
    additions? (' ' :: (clauseWord .adding ++ tail)) = some rest := by
  rw [additions?, trimStart_space, trimStart_eq_self (head?_clauseWord .adding tail),
    firstWord_clauseWord follows]
  simp only [ofWord?_clauseWord, if_true]

/-! ## Lists of paths -/

theorem mem_pathList {paths : List String} (h : ∀ path ∈ paths, isPath path.toList = true)
    {c : Char}
    (hc : c ∈ pathList paths) : c = ',' ∨ c = ' ' ∨ isPathChar c = true := by
  rcases mem_intercalate hc with hc | ⟨part, hpart, hc⟩
  · rcases List.mem_cons.mp hc with rfl | hc
    · exact Or.inl rfl
    · exact Or.inr (Or.inl (List.mem_singleton.mp hc))
  · obtain ⟨path, hpath, rfl⟩ := List.mem_map.mp hpart
    exact Or.inr (Or.inr ((IsPathText.of_isPath (h path hpath)).chars c hc))

theorem notMem_pathList {paths : List String} (h : ∀ path ∈ paths, isPath path.toList = true)
    {c : Char} (hcomma : c ≠ ',') (hspace : c ≠ ' ') (hpath : isPathChar c = false) :
    c ∉ pathList paths := by
  intro hmem
  rcases mem_pathList h hmem with hc | hc | hc
  · exact hcomma hc
  · exact hspace hc
  · exact nomatch hpath.symm.trans hc

private theorem intercalate_cons_head (sep : Line) (c : Char) (l : Line) (ls : List Line) :
    sep.intercalate ((c :: l) :: ls) = c :: sep.intercalate (l :: ls) := by
  cases ls with
  | nil => rw [List.intercalate_singleton, List.intercalate_singleton]
  | cons l' ls =>
    rw [List.intercalate_cons_cons, List.intercalate_cons_cons, List.cons_append, List.cons_append]

/-- A comma and a space between two paths are a comma, and a space in front of the second. -/
theorem pathList_cons (path : String) (paths : List String) :
    pathList (path :: paths)
      = [','].intercalate (path.toList :: paths.map fun p ↦ ' ' :: p.toList) := by
  induction paths generalizing path with
  | nil => rw [pathList, List.map_cons, List.map_nil, List.map_nil, List.intercalate_singleton,
      List.intercalate_singleton]
  | cons next paths ih =>
    have hmore := ih next
    rw [pathList, List.map_cons] at hmore ⊢
    rw [List.map_cons, List.intercalate_cons_cons, hmore, List.map_cons, List.intercalate_cons_cons,
      intercalate_cons_head]
    simp only [List.append_assoc, List.cons_append, List.nil_append]

theorem takeWhile_pathList {paths : List String} (h : ∀ path ∈ paths, isPath path.toList = true)
    {tail : Line} (stop : tail = [] ∨ tail.head? = some ';') :
    (pathList paths ++ tail).takeWhile (· ≠ ';') = pathList paths := by
  have hlist : ∀ c ∈ pathList paths, decide (c ≠ ';') = true := by
    intro c hc
    rw [decide_eq_true_eq]
    rintro rfl
    exact notMem_pathList h (by decide) (by decide) rfl hc
  rw [List.takeWhile_append_of_pos hlist]
  rcases tail with _ | ⟨c, tail⟩
  · rw [List.takeWhile_nil, List.append_nil]
  · rcases stop with stop | stop
    · exact nomatch stop
    · obtain rfl := Option.some.inj stop
      rw [List.takeWhile_cons_of_neg (by decide), List.append_nil]

theorem exists_pathList_cons {paths : List String} (nonempty : paths ≠ [])
    (h : ∀ path ∈ paths, isPath path.toList = true) :
    ∃ c more, pathList paths = c :: more ∧ isPathChar c = true := by
  obtain ⟨path, paths, rfl⟩ := List.exists_cons_of_ne_nil nonempty
  obtain ⟨c, cs, hcs, hc⟩ := (IsPathText.of_isPath (h path List.mem_cons_self)).exists_cons
  exact ⟨c, _, by rw [pathList_cons, hcs, intercalate_cons_head], hc⟩

theorem head?_pathList {paths : List String} (nonempty : paths ≠ [])
    (h : ∀ path ∈ paths, isPath path.toList = true) (tail : Line) :
    ∀ c ∈ (pathList paths ++ tail).head?, isBlank c = false := by
  obtain ⟨c, more, hlist, hc⟩ := exists_pathList_cons nonempty h
  rw [hlist]
  exact fun d hd ↦ by cases hd; exact isBlank_of_isPathChar hc

theorem splitOn_pathList {paths : List String} (nonempty : paths ≠ [])
    (h : ∀ path ∈ paths, isPath path.toList = true) :
    ((pathList paths).splitOn ',').map trim = paths.map String.toList := by
  obtain ⟨path, paths, rfl⟩ := List.exists_cons_of_ne_nil nonempty
  have hchars : ∀ p ∈ path :: paths, ∀ c ∈ p.toList, isPathChar c = true :=
    fun p hp ↦ (IsPathText.of_isPath (h p hp)).chars
  have hcomma : ∀ p ∈ path :: paths, ',' ∉ p.toList := fun p hp hc ↦ nomatch hchars p hp _ hc
  have htrim : ∀ p ∈ path :: paths, trim p.toList = p.toList := fun p hp ↦
    trim_eq_self (fun c hc ↦ isBlank_of_isPathChar (hchars p hp c (List.mem_of_mem_head? hc)))
      fun c hc ↦ isBlank_of_isPathChar (hchars p hp c (List.mem_of_mem_getLast? hc))
  have hpieces : ∀ l ∈ path.toList :: paths.map (fun p ↦ ' ' :: p.toList), ',' ∉ l := by
    refine List.forall_mem_cons.mpr ⟨hcomma path List.mem_cons_self, fun l hl ↦ ?_⟩
    obtain ⟨p, hp, rfl⟩ := List.mem_map.mp hl
    rw [List.mem_cons, not_or]
    exact ⟨by decide, hcomma p (List.mem_cons_of_mem _ hp)⟩
  rw [pathList_cons, List.splitOn_intercalate ',' hpieces (List.cons_ne_nil _ _), List.map_cons,
    htrim path List.mem_cons_self, List.map_map, List.map_cons]
  refine congrArg _ (List.map_congr_left fun p hp ↦ ?_)
  exact htrim p (List.mem_cons_of_mem _ hp)

/-- Paths are collected as they come, if none of them was there before. -/
private theorem foldlM_removals (line : Nat) {paths found : List String}
    (h : ∀ path ∈ paths, isPath path.toList = true) (distinct : (found ++ paths).Nodup) :
    (paths.map String.toList).foldlM (fun found path ↦
      if !isPath path then ValueTree.faultAt (.invalidPath (String.ofList path)) line
      else
        let path := String.ofList path
        return if path ∈ found then found else found ++ [path]) found = .ok (found ++ paths) := by
  induction paths generalizing found with
  | nil =>
    rw [List.append_nil]
    rfl
  | cons path paths ih =>
    obtain ⟨hpath, hpaths⟩ := List.forall_mem_cons.mp h
    have hnew : path ∉ found := fun hmem ↦
      (List.nodup_append.mp distinct).2.2 path hmem path List.mem_cons_self rfl
    -- The path goes over to those that were found, and the list as a whole stays the same.
    rw [List.append_cons] at distinct
    rw [List.map_cons, List.foldlM_cons, hpath, List.append_cons, ← ih hpaths distinct]
    simp only [Bool.not_true, Bool.false_eq_true, if_false, String.ofList_toList, if_neg hnew]
    rfl

theorem removals_pathList (line : Nat) {paths : List String} (nonempty : paths ≠ [])
    (h : ∀ path ∈ paths, isPath path.toList = true) (distinct : paths.Nodup) :
    ValueTree.removals line (pathList paths) = .ok paths := by
  obtain ⟨c, more, hlist, hc⟩ := exists_pathList_cons nonempty h
  have hblank : allBlank (pathList paths) = false := by
    rw [hlist, allBlank, List.all_cons, isBlank_of_isPathChar hc, Bool.false_and]
  rw [ValueTree.removals, hblank, splitOn_pathList nonempty h]
  exact foldlM_removals line h distinct

end DataOutline
