import Mathlib.Data.List.TakeDrop
import DataOutline.Grammar.Value
import DataOutline.Proofs.Result

/-!
# Reading a value, one level at a time

A value is read from the lines that count: they are cut into the passages of its parts, and each of
these is read in its turn. Every marker and every key takes characters away, so the passage of a
part is shorter than the one that it was cut from, and the bound on the depth of the recursion is
never reached. What is read is settled by one level and by what is read of the parts.
-/

namespace DataOutline

open Text Grammar

/-! ## Sizes of passages -/

/-- The number of characters of some lines. -/
private def weight (ls : List NumberedLine) : Nat := ls.foldr (fun l n ↦ l.text.length + n) 0

private theorem weight_cons (l : NumberedLine) (ls : List NumberedLine) :
    weight (l :: ls) = l.text.length + weight ls := by
  rw [weight, List.foldr_cons, ← weight]

private theorem size_mk (first : NumberedLine) (more : List NumberedLine) :
    Passage.size ⟨first, more⟩ = first.text.length + weight more := by
  rw [Passage.size, Passage.lines, ← weight, weight_cons]

private theorem weight_filter_le (p : NumberedLine → Bool) (ls : List NumberedLine) :
    weight (ls.filter p) ≤ weight ls := by
  induction ls with
  | nil => exact Nat.le_refl _
  | cons l ls ih =>
    rw [weight_cons, List.filter_cons]
    split
    · rw [weight_cons]
      omega
    · omega

private theorem weight_content_le (p : Passage) : weight p.content ≤ p.size := by
  rw [size_mk, Passage.content]
  split
  · exact Nat.le_trans (weight_filter_le _ _) (Nat.le_add_left _ _)
  · rw [← weight_cons]
    exact weight_filter_le _ _

/-- The number of characters of some passages and of what was in front of each. -/
private def load (passages : List Passage) : Nat := passages.foldr (fun q n ↦ q.size + 1 + n) 0

private theorem load_cons (q : Passage) (passages : List Passage) :
    load (q :: passages) = q.size + 1 + load passages := by
  rw [load, List.foldr_cons, ← load]

private theorem size_lt_load {q : Passage} {passages : List Passage} (h : q ∈ passages) :
    q.size < load passages := by
  induction passages with
  | nil => exact absurd h List.not_mem_nil
  | cons q' passages ih =>
    rw [load_cons]
    rcases List.mem_cons.mp h with rfl | h
    · omega
    · have := ih h
      omega

/-! ### Beginnings of lines -/

theorem marker?_eq_some_iff {line text : Line} {unordered : Bool} :
    marker? line = some (unordered, text) ↔
      line = (if unordered then '@' else '*') :: '\t' :: text := by
  rw [marker?.eq_def]
  cases unordered <;> split <;> simp_all [eq_comm]

theorem unindent?_eq_some_iff {line text : Line} :
    unindent? line = some text ↔ line = '\t' :: text := by
  rw [unindent?.eq_def]
  split <;> simp_all [eq_comm]

private theorem length_marker? {line text : Line} {unordered : Bool}
    (h : marker? line = some (unordered, text)) : line.length = text.length + 2 := by
  rw [marker?_eq_some_iff.mp h, List.length_cons, List.length_cons]

private theorem length_unindent? {line text : Line} (h : unindent? line = some text) :
    line.length = text.length + 1 := by
  rw [unindent?_eq_some_iff.mp h, List.length_cons]

private theorem suffix_quotedBody {line rest : Line} {name : List Char}
    (h : quotedBody line = some (name, rest)) : rest <:+ line := by
  induction line using quotedBody.induct generalizing name with
  | case1 => exact nomatch h
  | case2 rest' =>
    rw [quotedBody] at h
    cases h
    exact List.suffix_cons _ _
  | case3 => exact nomatch h
  | case4 c rest' ih =>
    rw [quotedBody] at h
    obtain ⟨⟨name', rest''⟩, hbody, ⟨⟩⟩ := Option.map_eq_some_iff.mp h
    exact ((ih hbody).trans (List.suffix_cons _ _)).trans (List.suffix_cons _ _)
  | case5 c rest' hquote hslash ih =>
    rw [quotedBody] at h
    · obtain ⟨⟨name', rest''⟩, hbody, ⟨⟩⟩ := Option.map_eq_some_iff.mp h
      exact (ih hbody).trans (List.suffix_cons _ _)
    · exact hquote
    · exact hslash

theorem pathPart_append (line : Line) : (pathPart line).1 ++ (pathPart line).2 = line := by
  rw [pathPart, List.span_eq_takeWhile_dropWhile]
  exact List.takeWhile_append_dropWhile

private theorem suffix_keyName? {form : KeyForm} {line rest : Line} {name : List Char}
    (h : keyName? form line = some (name, rest)) : rest <:+ line := by
  rw [keyName?.eq_def] at h
  split at h
  · exact (suffix_quotedBody h).trans (List.suffix_cons _ _)
  · have hmore : (pathPart line).2 <:+ line := ⟨_, pathPart_append line⟩
    generalize pathPart line = part at h hmore
    simp only at h
    split at h
    · split at h
      · next hrest =>
        cases h
        rw [hrest] at hmore
        exact (List.suffix_cons _ _).trans hmore
      · cases h
        exact hmore
    · exact nomatch h

/-- Some character of the line stands right before what a key introduces. -/
private theorem exists_suffix_key? {form : KeyForm} {line text : Line} {name : String}
    (h : key? form line = some (name, text)) : ∃ c, c :: text <:+ line := by
  rw [key?.eq_def] at h
  split at h
  · next hname =>
    have hsuffix := suffix_keyName? hname
    cases h
    exact ⟨' ', (List.suffix_cons _ _).trans hsuffix⟩
  · next hname =>
    have hsuffix := suffix_keyName? hname
    cases h
    exact ⟨':', hsuffix⟩
  · exact nomatch h

theorem suffix_key? {form : KeyForm} {line text : Line} {name : String}
    (h : key? form line = some (name, text)) : text <:+ line := by
  obtain ⟨c, hsuffix⟩ := exists_suffix_key? h
  exact (List.suffix_cons c text).trans hsuffix

private theorem length_key? {form : KeyForm} {line text : Line} {name : String}
    (h : key? form line = some (name, text)) : text.length < line.length := by
  obtain ⟨c, hsuffix⟩ := exists_suffix_key? h
  exact hsuffix.length_le

private theorem length_dropWhile_le (p : Char → Bool) (line : Line) :
    (line.dropWhile p).length ≤ line.length :=
  (List.dropWhile_suffix p).length_le

private theorem length_firstWord (line : Line) :
    (firstWord line).1.length + (firstWord line).2.length ≤ line.length := by
  have hsplit := congrArg List.length
    (List.takeWhile_append_dropWhile (p := fun c ↦ !isBlank c) (l := line))
  rw [List.length_append] at hsplit
  have := length_dropWhile_le isBlank (line.dropWhile fun c ↦ !isBlank c)
  rw [firstWord, trimStart]
  simp only
  omega

private theorem suffix_firstWord (line : Line) : (firstWord (trimStart line)).2 <:+ line :=
  ((List.dropWhile_suffix _).trans (List.dropWhile_suffix _)).trans (List.dropWhile_suffix _)

private theorem length_pos_of_ofWord? {word : List Char} {clause : Clause}
    (h : Clause.ofWord? word = some clause) : 0 < word.length := by
  rcases word with _ | ⟨c, word⟩
  · exact nomatch h
  · exact Nat.succ_pos _

private theorem length_mixin? {line text : Line} {base : String} {clause : Clause}
    (h : mixin? line = some (base, clause, text)) : text.length < line.length := by
  rw [mixin?] at h
  simp only at h
  split at h
  · obtain ⟨clause', hword, ⟨⟩⟩ := Option.map_eq_some_iff.mp h
    have hsplit := congrArg List.length (pathPart_append line)
    have hwords := length_firstWord (trimStart (pathPart line).2)
    have hpos := length_pos_of_ofWord? hword
    have := length_dropWhile_le isBlank (pathPart line).2
    rw [List.length_append] at hsplit
    rw [trimStart] at hwords hpos ⊢
    omega
  · exact nomatch h

theorem suffix_mixin? {line text : Line} {base : String} {clause : Clause}
    (h : mixin? line = some (base, clause, text)) : text <:+ line := by
  rw [mixin?] at h
  simp only at h
  split at h
  · obtain ⟨clause', hword, ⟨⟩⟩ := Option.map_eq_some_iff.mp h
    exact (suffix_firstWord _).trans ⟨_, pathPart_append line⟩
  · exact nomatch h

theorem suffix_additions? {line text : Line} (h : additions? line = some text) : text <:+ line := by
  rw [additions?] at h
  simp only at h
  split at h
  · cases h
    exact suffix_firstWord line
  · exact nomatch h

/-! ### Passages of parts -/

namespace ValueTree

private theorem load_elements {kind : Option Bool} {ls below : List NumberedLine}
    {passages : List Passage} (h : elements kind ls = .ok (below, passages)) :
    weight below + load passages ≤ weight ls := by
  induction ls generalizing kind below passages with
  | nil =>
    cases h
    exact Nat.le_refl 0
  | cons l ls ih =>
    rw [weight_cons]
    unfold elements at h
    split at h
    · next unordered text hmarker =>
      split at h
      · exact nomatch h
      · obtain ⟨⟨below', passages'⟩, hmore, ⟨⟩⟩ := bind_eq_ok_iff.mp h
        have := ih hmore
        -- The passage counts for one more than its size, and the marker takes two characters.
        have hlength := length_marker? hmarker
        rw [load_cons, size_mk]
        change 0 + (text.length + weight below' + 1 + load passages') ≤ _
        omega
    · next text unordered _ htab =>
      obtain ⟨⟨below', passages'⟩, hmore, ⟨⟩⟩ := bind_eq_ok_iff.mp h
      have := ih hmore
      have hlength := length_unindent? htab
      rw [weight_cons]
      change text.length + weight below' + load passages ≤ _
      omega
    · exact nomatch h

private theorem load_entries {form : KeyForm} {within : Bool} {ls below : List NumberedLine}
    {named : List (String × Passage)} (h : entries form within ls = .ok (below, named)) :
    weight below + load (named.map Prod.snd) ≤ weight ls := by
  induction ls generalizing within below named with
  | nil =>
    cases h
    exact Nat.le_refl 0
  | cons l ls ih =>
    rw [weight_cons]
    unfold entries at h
    split at h
    · next name text hkey =>
      obtain ⟨⟨below', named'⟩, hmore, ⟨⟩⟩ := bind_eq_ok_iff.mp h
      have := ih hmore
      have := length_key? hkey
      rw [List.map_cons, load_cons, size_mk]
      change 0 + (text.length + weight below' + 1 + load (named'.map Prod.snd)) ≤ _
      omega
    · next text _ htab =>
      obtain ⟨⟨below', named'⟩, hmore, ⟨⟩⟩ := bind_eq_ok_iff.mp h
      have := ih hmore
      have hlength := length_unindent? htab
      rw [weight_cons]
      change text.length + weight below' + load (named.map Prod.snd) ≤ _
      omega
    · exact nomatch h

private theorem weight_unindentAll {ls ls' : List NumberedLine} (h : unindentAll ls = .ok ls') :
    weight ls' ≤ weight ls := by
  induction ls generalizing ls' with
  | nil =>
    cases h
    exact Nat.le_refl _
  | cons l ls ih =>
    unfold unindentAll at h
    split at h
    · next text htab =>
      obtain ⟨more, hmore, ⟨⟩⟩ := bind_eq_ok_iff.mp h
      have := ih hmore
      have hlength := length_unindent? htab
      rw [weight_cons, weight_cons]
      change text.length + weight more ≤ _
      omega
    · exact nomatch h

private theorem load_additions {number : Nat} {text : Line} {below : List NumberedLine}
    {named : List (String × Passage)} (h : additions number text below = .ok named) :
    load (named.map Prod.snd) ≤ text.length + weight below := by
  unfold additions at h
  obtain ⟨below', hbelow, h⟩ := bind_eq_ok_iff.mp h
  have hweight := weight_content_le ⟨⟨number, text⟩, below'⟩
  have := weight_unindentAll hbelow
  rw [size_mk] at hweight
  simp only at h hweight
  split at h
  · exact nomatch h
  · next head rest hcontent =>
    split at h
    · exact nomatch h
    · obtain ⟨⟨below'', named'⟩, hentries, ⟨⟩⟩ := bind_eq_ok_iff.mp h
      have := load_entries hentries
      rw [hcontent] at hweight
      simp only at this ⊢
      omega

private theorem load_mixinParts {clause : Clause} {number : Nat} {text : Line}
    {below : List NumberedLine} {removals : List String} {named : List (String × Passage)}
    (h : mixinParts clause number text below = .ok (removals, named)) :
    load (named.map Prod.snd) ≤ text.length + weight below := by
  unfold mixinParts at h
  split at h
  · obtain ⟨named', hadditions, ⟨⟩⟩ := bind_eq_ok_iff.mp h
    exact load_additions hadditions
  · obtain ⟨removals', hremovals, h⟩ := bind_eq_ok_iff.mp h
    simp only at h
    split at h
    · next c tail hdrop =>
      have hlength := congrArg List.length hdrop
      rw [List.length_drop, List.length_cons] at hlength
      split at h
      · next text' htext =>
        obtain ⟨named', hadditions, ⟨⟩⟩ := bind_eq_ok_iff.mp h
        have := load_additions hadditions
        have := (suffix_additions? htext).length_le
        omega
      · exact nomatch h
    · split at h
      · cases h
        exact Nat.zero_le _
      · exact nomatch h

/-! ## One level -/

variable {U : Type}

/-- The value of a passage when `part` reads the values of the passages that it is cut into. -/
def readWith (part : Passage → Except SyntaxError (ValueTree U)) (p : Passage) :
    Except SyntaxError (ValueTree U) :=
  match p.content with
  | [] => .error ⟨.missingValue, p.span⟩
  | head :: rest =>
    let block : Block := ⟨p.span, String.ofList (unlines ((head :: rest).map (·.text)))⟩
    match marker? head.text with
    | some (unordered, _) => do
      let (_, passages) ← elements none (head :: rest)
      return .array block unordered (← passages.mapM part)
    | none =>
      if (key? .word head.text).isSome then do
        let (_, named) ← entries .word false (head :: rest)
        return .object block (← named.mapM fun (name, q) => do return (name, ← part q))
      else
        match mixin? head.text with
        | some (base, clause, text) => do
          let (removals, named) ← mixinParts clause head.number text rest
          return .mixin block base removals (← named.mapM fun (name, q) => do
            return (name, ← part q))
        | none =>
          if rest.isEmpty then .ok (.expression block (String.ofList (trim head.text)))
          else .error ⟨.malformedValue, p.span⟩

theorem readFrom_succ (fuel : Nat) (p : Passage) :
    readFrom (U := U) (fuel + 1) p = readWith (readFrom fuel) p := rfl

/-- Only what is read of shorter passages matters to what is read of a passage. -/
theorem readWith_congr {part part' : Passage → Except SyntaxError (ValueTree U)} {p : Passage}
    (h : ∀ q, q.size < p.size → part q = part' q) : readWith part p = readWith part' p := by
  have hweight := weight_content_le p
  have hnamed : ∀ named : List (String × Passage), load (named.map Prod.snd) ≤ p.size →
      named.mapM (fun (name, q) ↦ do return (name, ← part q))
        = named.mapM (fun (name, q) ↦ do return (name, ← part' q)) := by
    intro named hload
    refine mapM_congr fun (name, q) hq ↦ ?_
    -- What a passage is cut into is lighter than the passage, whichever way it was cut.
    have := size_lt_load (List.mem_map_of_mem (f := Prod.snd) hq)
    simp only [h q (Nat.lt_of_lt_of_le this hload)]
  rw [readWith, readWith]
  cases hcontent : p.content with
  | nil => rfl
  | cons head rest =>
    rw [hcontent] at hweight
    simp only
    cases hmarker : marker? head.text with
    | some marker =>
      simp only
      refine bind_congr_ok fun (below, passages) hcut ↦ ?_
      have hload := load_elements hcut
      simp only
      rw [mapM_congr fun q hq ↦ h q (Nat.lt_of_lt_of_le (size_lt_load hq) (by omega))]
    | none =>
      simp only
      split
      · refine bind_congr_ok fun (below, named) hcut ↦ ?_
        have hload := load_entries hcut
        simp only
        rw [hnamed named (by omega)]
      · cases hmixin : mixin? head.text with
        | none => rfl
        | some found =>
          obtain ⟨base, clause, text⟩ := found
          simp only
          refine bind_congr_ok fun (removals, named) hcut ↦ ?_
          have hload := load_mixinParts hcut
          have := length_mixin? hmixin
          rw [weight_cons] at hweight
          simp only
          rw [hnamed named (by omega)]

/-- The bound on the depth does not matter once it exceeds the size of the passage. -/
theorem readFrom_eq_readFrom {fuel fuel' : Nat} {p : Passage} (h : p.size < fuel)
    (h' : p.size < fuel') : readFrom (U := U) fuel p = readFrom fuel' p := by
  induction fuel generalizing fuel' p with
  | zero => exact absurd h (Nat.not_lt_zero _)
  | succ fuel ih =>
    obtain ⟨fuel', rfl⟩ := Nat.exists_eq_succ_of_ne_zero (Nat.ne_zero_of_lt h')
    rw [readFrom_succ, readFrom_succ]
    exact readWith_congr fun q hq ↦ ih (by omega) (by omega)

/-- **A passage is read by reading its parts.** -/
theorem read_eq_readWith (p : Passage) : read (U := U) p = readWith read p := by
  rw [read, readFrom_succ]
  exact readWith_congr fun q hq ↦ readFrom_eq_readFrom hq (Nat.lt_succ_self _)

/-- The block of a value: where its passage stands, and the lines that count. -/
def blockOf (p : Passage) : Block := ⟨p.span, String.ofList (unlines (p.content.map (·.text)))⟩

/-- A named passage is read as a named value. -/
def ReadsNamed (e : String × Passage) (e' : String × ValueTree U) : Prop :=
  e.1 = e'.1 ∧ read e.2 = .ok e'.2

/-- The value of a passage: its kind is settled by the first line that counts, its parts are what
is read of the passages that the lines are cut into. -/
inductive ReadsAs (p : Passage) : ValueTree U → Prop
  | array {head : NumberedLine} {rest below : List NumberedLine} {unordered : Bool} {text : Line}
      {passages : List Passage} {ts : List (ValueTree U)} (content : p.content = head :: rest)
      (marker : marker? head.text = some (unordered, text))
      (cut : elements none (head :: rest) = .ok (below, passages))
      (parts : List.Forall₂ (fun q t ↦ read q = .ok t) passages ts) :
      ReadsAs p (.array (blockOf p) unordered ts)
  | object {head : NumberedLine} {rest below : List NumberedLine} {key : String × Line}
      {named : List (String × Passage)} {es : List (String × ValueTree U)}
      (content : p.content = head :: rest) (marker : marker? head.text = none)
      (key : key? .word head.text = some key)
      (cut : entries .word false (head :: rest) = .ok (below, named))
      (parts : List.Forall₂ ReadsNamed named es) : ReadsAs p (.object (blockOf p) es)
  | mixin {head : NumberedLine} {rest : List NumberedLine} {base : String} {clause : Clause}
      {text : Line} {removals : List String} {named : List (String × Passage)}
      {es : List (String × ValueTree U)} (content : p.content = head :: rest)
      (marker : marker? head.text = none) (key : key? .word head.text = none)
      (mixin : mixin? head.text = some (base, clause, text))
      (cut : mixinParts clause head.number text rest = .ok (removals, named))
      (parts : List.Forall₂ ReadsNamed named es) :
      ReadsAs p (.mixin (blockOf p) base removals es)
  | expression {line : NumberedLine} (content : p.content = [line])
      (marker : marker? line.text = none) (key : key? .word line.text = none)
      (mixin : mixin? line.text = none) :
      ReadsAs p (.expression (blockOf p) (String.ofList (trim line.text)))

private theorem mapM_named_eq_ok_iff {named : List (String × Passage)}
    {es : List (String × ValueTree U)} :
    named.mapM (fun (name, q) ↦ do return (name, ← read q)) = (.ok es : Except SyntaxError _) ↔
      List.Forall₂ ReadsNamed named es := by
  have hone : ∀ (e : String × Passage) (e' : String × ValueTree U),
      (do return (e.1, ← read e.2)) = (.ok e' : Except SyntaxError _) ↔ ReadsNamed e e' := by
    rintro ⟨name, q⟩ ⟨name', t⟩
    rw [bind_eq_ok_iff]
    constructor
    · rintro ⟨t', hread, ⟨⟩⟩
      exact ⟨rfl, hread⟩
    · rintro ⟨rfl, hread⟩
      exact ⟨t, hread, rfl⟩
  rw [mapM_eq_ok_iff]
  exact ⟨fun h ↦ h.imp fun e e' ↦ (hone e e').mp, fun h ↦ h.imp fun e e' ↦ (hone e e').mpr⟩

/-- **What is read of a passage**, level by level. -/
theorem read_eq_ok_iff {p : Passage} {t : ValueTree U} : read p = .ok t ↔ ReadsAs p t := by
  rw [read_eq_readWith]
  constructor
  · intro h
    rw [readWith] at h
    split at h
    · exact nomatch h
    · next head rest hcontent =>
      have hblock : (⟨p.span, String.ofList (unlines ((head :: rest).map (·.text)))⟩ : Block)
          = blockOf p := by
        rw [blockOf, hcontent]
      simp only [hblock] at h
      split at h
      · next unordered text hmarker =>
        obtain ⟨⟨below, passages⟩, hcut, h⟩ := bind_eq_ok_iff.mp h
        obtain ⟨ts, hparts, ⟨⟩⟩ := bind_eq_ok_iff.mp h
        exact .array hcontent hmarker hcut (mapM_eq_ok_iff.mp hparts)
      · next hmarker =>
        split at h
        · next hkey =>
          obtain ⟨key, hkey⟩ := Option.isSome_iff_exists.mp hkey
          obtain ⟨⟨below, named⟩, hcut, h⟩ := bind_eq_ok_iff.mp h
          obtain ⟨es, hparts, ⟨⟩⟩ := bind_eq_ok_iff.mp h
          exact .object hcontent hmarker hkey hcut (mapM_named_eq_ok_iff.mp hparts)
        · next hkey =>
          rw [Option.not_isSome_iff_eq_none] at hkey
          split at h
          · next base clause text hmixin =>
            obtain ⟨⟨removals, named⟩, hcut, h⟩ := bind_eq_ok_iff.mp h
            obtain ⟨es, hparts, ⟨⟩⟩ := bind_eq_ok_iff.mp h
            exact .mixin hcontent hmarker hkey hmixin hcut (mapM_named_eq_ok_iff.mp hparts)
          · next hmixin =>
            split at h
            · next hempty =>
              obtain rfl := List.isEmpty_iff.mp hempty
              cases h
              exact .expression hcontent hmarker hkey hmixin
            · exact nomatch h
  · intro h
    rw [readWith]
    cases h with
    | array content marker cut parts =>
      rw [blockOf]
      simp only [content, marker, cut]
      exact bind_eq_ok_iff.mpr ⟨_, rfl, bind_eq_ok_iff.mpr ⟨_, mapM_eq_ok_iff.mpr parts, rfl⟩⟩
    | object content marker key cut parts =>
      rw [blockOf]
      simp only [content, marker, key, cut, Option.isSome_some, if_true]
      exact bind_eq_ok_iff.mpr ⟨_, rfl, bind_eq_ok_iff.mpr ⟨_, mapM_named_eq_ok_iff.mpr parts, rfl⟩⟩
    | mixin content marker key mixin cut parts =>
      rw [blockOf]
      simp only [content, marker, key, mixin, cut, Option.isSome_none, Bool.false_eq_true, if_false]
      exact bind_eq_ok_iff.mpr ⟨_, rfl, bind_eq_ok_iff.mpr ⟨_, mapM_named_eq_ok_iff.mpr parts, rfl⟩⟩
    | expression content marker key mixin =>
      rw [blockOf]
      simp only [content, marker, key, mixin, Option.isSome_none, Bool.false_eq_true, if_false,
        List.isEmpty_nil, if_true]

theorem exists_content_of_read {p : Passage} {t : ValueTree U} (h : read p = .ok t) :
    ∃ head rest, p.content = head :: rest := by
  cases read_eq_ok_iff.mp h with
  | array content | object content | mixin content | expression content => exact ⟨_, _, content⟩

theorem block_of_read {p : Passage} {t : ValueTree U} (h : read p = .ok t) :
    t.block = blockOf p := by
  cases read_eq_ok_iff.mp h <;> rfl

end ValueTree

end DataOutline
