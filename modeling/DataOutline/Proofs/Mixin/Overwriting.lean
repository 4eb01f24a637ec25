import DataOutline.Proofs.Mixin.Order

/-!
# Overwriting what was added, and taking it back

Where an addition goes, whether it gets through and what is wrong if it does not: all this depends
on the path and on the value that is added to, never on what is added. So a second addition at the
same path finds the places of the first one, and an item that the first one had to put behind the
others is in place for it. Nothing is left of what the first one added.

A removal at the same path takes an addition back if there is nothing else that the addition did: it
made no objects on its way, and it put its value where nothing was.
-/

namespace DataOutline.Mixin

/-! ## Adding twice -/

/-- The additions of `x` and of `y` at the same path of a value have the same error, or adding `y`
to what comes of adding `x` gives what comes of adding `y` alone. -/
def Overwrites (x y : Value) (p : Path) (v : Value) : Prop :=
  Corresponds Eq (fun w w' ↦ add y w p = .ok w') (add x v p) (add y v p)

namespace Overwrites

variable {x y : Value}

theorem each {k : String} {rest : Path} {items : List Value} (unordered : Bool)
    (h : ∀ z ∈ items, Overwrites x y (.key k :: rest) z) :
    Overwrites x y (.key k :: rest) (.array items unordered) := by
  have hitems : Corresponds Eq (List.Forall₂ fun w w' ↦ add y w (.key k :: rest) = .ok w')
      (items.mapM (add x · (.key k :: rest))) (items.mapM (add y · (.key k :: rest))) := by
    refine Corresponds.mapM (S := fun z z' ↦ z ∈ items ∧ z = z') ?_ ?_
    · exact List.forall₂_same.mpr fun z hz ↦ ⟨hz, rfl⟩
    · rintro z _ ⟨hz, rfl⟩
      exact h z hz
  rw [Overwrites, add_each, add_each]
  refine hitems.map fun ws ws' hws ↦ ?_
  rw [add_each, mapM_eq_ok_iff.mpr hws]
  rfl

theorem item {s : Segment} {rest : Path} {items : List Value} {i : Nat} {z : Value}
    (unordered : Bool) (hz : items[i]? = some z) (h : Overwrites x y (s :: rest) z) :
    Overwrites x y (.index i :: s :: rest) (.array items unordered) := by
  obtain ⟨hi, -⟩ := List.getElem?_eq_some_iff.mp hz
  rw [Overwrites, add_index_cons hz, add_index_cons hz]
  refine h.map fun w w' hw ↦ ?_
  rw [add_index_cons (List.getElem?_set_self hi), hw]
  exact congrArg (fun zs ↦ Except.ok (Value.array zs unordered)) (List.set_set w)

theorem entry {k : String} {s : Segment} {rest : Path} {entries : Entries Value}
    (h : Overwrites x y (s :: rest) ((entries.get? k).getD (.object []))) :
    Overwrites x y (.key k :: s :: rest) (.object entries) := by
  rw [Overwrites, add_key_cons, add_key_cons]
  refine h.map fun w w' hw ↦ ?_
  rw [add_key_cons, Entries.get?_insert_self, Option.getD_some, hw,
    ← Entries.insert_insert_self k w w']
  rfl

theorem lastKey (k : String) (entries : Entries Value) :
    Overwrites x y [.key k] (.object entries) := by
  refine .ok ?_
  rw [← Entries.insert_insert_self k x y]
  rfl

/-- An item that the first addition put behind the others is overwritten by the second. -/
theorem lastIndex (i : Nat) (items : List Value) (unordered : Bool) :
    Overwrites x y [.index i] (.array items unordered) := by
  rcases Nat.lt_trichotomy i items.length with hlt | rfl | hlt
  · rw [Overwrites, add_put hlt, add_put hlt]
    refine .ok ?_
    rw [add_put (List.length_set.symm ▸ hlt), List.set_set]
  · rw [Overwrites, add_behind, add_behind]
    refine .ok ?_
    have hlt : items.length < (items ++ [x]).length := by simp
    rw [add_put hlt, List.set_append_right _ _ (Nat.le_refl _), Nat.sub_self]
    rfl
  · rw [Overwrites, add_beyond hlt, add_beyond hlt]
    exact .error rfl

end Overwrites

/-- **A second addition at a path overwrites the first.** -/
theorem overwrites (x y : Value) (p : Path) (v : Value) : Overwrites x y p v := by
  induction p, v using editInduction with
  | nil v =>
    rw [Overwrites, add_nil, add_nil]
    exact .error rfl
  | plain s rest v hv =>
    rw [Overwrites, add_plain hv, add_plain hv]
    exact .error rfl
  | number i rest entries => exact .error rfl
  | entry k rest entries ih =>
    cases rest with
    | nil => exact .lastKey k entries
    | cons s rest => exact .entry (ih _)
  | each k rest items unordered ih => exact .each unordered ih
  | item i rest items unordered ih =>
    rcases rest with _ | ⟨s, rest⟩
    · exact .lastIndex i items unordered
    · cases hz : items[i]? with
      | some z => exact .item unordered hz (ih z)
      | none =>
        -- There is nothing to descend into, whatever is to be added.
        rcases Nat.eq_or_lt_of_le (List.getElem?_eq_none_iff.mp hz) with rfl | hlt
        · rw [Overwrites, add_behind_cons, add_behind_cons]
          exact .error rfl
        · rw [Overwrites, add_beyond hlt, add_beyond hlt]
          exact .error rfl

theorem Overwrites.bind_eq {x y : Value} {p : Path} {v : Value} (h : Overwrites x y p v) :
    (add x v p >>= (add y · p)) = add y v p := by
  unfold Overwrites at h
  generalize hx : add x v p = r at h ⊢
  generalize hy : add y v p = r' at h ⊢
  cases h with
  | ok hw => exact hw
  | error he => exact congrArg _ he

/-! ## Taking back -/

/-- An addition at the path finds everything that it goes through, and nothing where it puts its
value. -/
structure Vacant (p : Path) (v : Value) : Prop where
  /-- Wherever the walk comes with segments left, there is a value, none that it has to make. -/
  exists_at : ∀ l q w, Walks Value.grown? p v l q w → q ≠ [] → ∃ w', v.at? l = some w'
  /-- The array or the object that the last segment is for has no part there. -/
  last : ∀ l s w, Walks Value.grown? p v l [s] w → Selects [s] w s [] → w.part? s = none

theorem grown?_of_part? {v w : Value} {t : Segment} (h : v.part? t = some w) :
    v.grown? t = some w := by
  unfold Value.grown?
  split
  · rw [show Entries.get? _ _ = some w from h, Option.getD_some]
  · exact h

namespace Vacant

variable {p q : Path} {v w : Value} {t : Segment}

theorem part?_eq_none (h : Vacant [t] v) (selects : Selects [t] v t []) : v.part? t = none :=
  h.last [] t v (.here _ v) selects

theorem part?_eq_some (h : Vacant p v) (selects : Selects p v t q) (hq : q ≠ [])
    (look : v.grown? t = some w) : v.part? t = some w := by
  obtain ⟨w', hat⟩ := h.exists_at [t] q w (.step selects look (.here q w)) hq
  obtain ⟨u, part, -⟩ := Value.at?_cons_eq_some_iff.mp hat
  rwa [Value.eq_of_grown? look part]

theorem step (h : Vacant p v) (selects : Selects p v t q) (part : v.part? t = some w) :
    Vacant q w where
  exists_at l r u hwalk hr := by
    obtain ⟨w', hat⟩ := h.exists_at (t :: l) r u (.step selects (grown?_of_part? part) hwalk) hr
    rw [Value.at?_cons_of_part? part] at hat
    exact ⟨w', hat⟩
  last l s u hwalk := h.last (t :: l) s u (.step selects (grown?_of_part? part) hwalk)

/-- A value is vacant at a path if it is so at the first segment and behind it. -/
theorem of_selects (hp : p ≠ []) (last : ∀ t, Selects p v t [] → v.part? t = none)
    (more : ∀ t q w, Selects p v t q → q ≠ [] → v.grown? t = some w →
      v.part? t = some w ∧ Vacant q w) : Vacant p v where
  exists_at l r u hwalk hr := by
    cases hwalk with
    | here => exact ⟨v, rfl⟩
    | @step _ q _ _ w _ t l selects look hmore =>
      have hq : q ≠ [] := by
        rintro rfl
        exact hr hmore.eq_nil.2
      obtain ⟨part, hvacant⟩ := more t q w selects hq look
      rw [Value.at?_cons_of_part? part]
      exact hvacant.exists_at l r u hmore hr
  last l s u hwalk hselects := by
    cases hwalk with
    | here => exact last s hselects
    | @step _ q _ _ w _ t l selects look hmore =>
      have hq : q ≠ [] := by
        rintro rfl
        exact List.cons_ne_nil s [] hmore.eq_nil.2
      exact (more t q w selects hq look).2.last l s u hmore hselects

theorem each {k : String} {rest : Path} {items : List Value} (unordered : Bool)
    (h : ∀ z ∈ items, Vacant (.key k :: rest) z) :
    Vacant (.key k :: rest) (.array items unordered) := by
  apply of_selects (List.cons_ne_nil _ _)
  · intro t selects
    cases selects
  · intro t q w selects _ look
    cases selects with
    | each inside => exact ⟨look, h w (List.mem_of_getElem? look)⟩

theorem entry {k : String} {s : Segment} {rest : Path} {entries : List (String × Value)}
    (part : Entries.get? k entries = some v) (h : Vacant (s :: rest) v) :
    Vacant (.key k :: s :: rest) (.object entries) := by
  apply of_selects (List.cons_ne_nil _ _)
  · intro t selects
    cases selects
  · intro t q w selects _ look
    cases selects with
    | key =>
      cases Value.eq_of_grown? look (show Value.part? (.object entries) (.key k) = some v from part)
      exact ⟨part, h⟩

theorem behind (items : List Value) (unordered : Bool) :
    Vacant [.index items.length] (.array items unordered) := by
  apply of_selects (List.cons_ne_nil _ _)
  · intro t selects
    cases selects with
    | index => exact List.getElem?_eq_none (Nat.le_refl _)
  · intro t q w selects hq
    cases selects
    exact absurd rfl hq

end Vacant

theorem remove_add_item {x : Value} {i : Nat} {items : List Value} {unordered : Bool} {v' : Value}
    (vacant : Vacant [.index i] (.array items unordered))
    (h : add x (.array items unordered) [.index i] = .ok v') :
    remove v' [.index i] = .ok (.array items unordered) := by
  rcases Nat.lt_trichotomy i items.length with hlt | rfl | hlt
  · have hnone : items[i]? = none := vacant.part?_eq_none .index
    exact absurd (List.getElem?_eq_none_iff.mp hnone) (Nat.not_le_of_gt hlt)
  · rw [add_behind] at h
    cases h
    rw [remove_index List.getElem?_concat_length,
      List.eraseIdx_append_of_length_le (Nat.le_refl _), Nat.sub_self]
    simp
  · rw [add_beyond hlt] at h
    exact nomatch h

/-- **A removal takes an addition back**, if the addition has made nothing on its way and
overwritten nothing at its end. -/
theorem remove_add {x : Value} {p : Path} {v v' : Value} (vacant : Vacant p v)
    (h : add x v p = .ok v') : remove v' p = .ok v := by
  induction p, v using editInduction generalizing v' with
  | nil v => exact absurd rfl (ne_nil_of_add h)
  | plain s rest v hv => exact nomatch (add_plain hv s rest).symm.trans h
  | number i rest entries => exact nomatch h
  | entry k rest entries ih =>
    rcases rest with _ | ⟨s, rest⟩
    · have hnone : Entries.get? k entries = none := vacant.part?_eq_none .key
      cases h
      rw [remove_key (Entries.get?_insert_self k x entries), Entries.erase_insert hnone x]
    · have hpart : Entries.get? k entries = some ((Entries.get? k entries).getD (.object [])) :=
        vacant.part?_eq_some .key (List.cons_ne_nil _ _) rfl
      rw [add_key_cons] at h
      obtain ⟨y', hadd, rfl⟩ := map_eq_ok_iff.mp h
      rw [remove_key_cons (Entries.get?_insert_self k y' entries),
        ih _ (vacant.step .key hpart) hadd]
      refine congrArg (fun es ↦ Except.ok (Value.object es)) ?_
      rw [Entries.insert_insert_self, Entries.insert_of_get?_eq_some hpart]
  | each k rest items unordered ih =>
    rw [add_each] at h
    obtain ⟨items', hitems, rfl⟩ := map_eq_ok_iff.mp h
    have hback : List.Forall₂ (fun z' z ↦ remove z' (.key k :: rest) = .ok z) items' items := by
      refine List.Forall₂.flip (((List.forall₂_and_left _ _).mpr
        ⟨fun _ ↦ id, mapM_eq_ok_iff.mp hitems⟩).imp fun z z' hz ↦ ?_)
      obtain ⟨j, hj, rfl⟩ := List.getElem_of_mem hz.1
      exact ih _ hz.1 (vacant.step (.each hj) (List.getElem?_eq_getElem hj)) hz.2
    rw [remove_each, mapM_eq_ok_iff.mpr hback]
    rfl
  | item i rest items unordered ih =>
    rcases rest with _ | ⟨s, rest⟩
    · exact remove_add_item vacant h
    · cases hz : items[i]? with
      | none =>
        obtain ⟨e, he⟩ := (Edit.addition x).beyond unordered (List.cons_ne_nil s rest) hz
        exact nomatch he.symm.trans h
      | some z =>
        obtain ⟨hi, hget⟩ := List.getElem?_eq_some_iff.mp hz
        rw [add_index_cons hz] at h
        obtain ⟨z', hadd, rfl⟩ := map_eq_ok_iff.mp h
        rw [remove_index_cons (List.getElem?_set_self hi), ih _ (vacant.step .index hz) hadd]
        refine congrArg (fun zs ↦ Except.ok (Value.array zs unordered)) ?_
        rw [List.set_set, ← hget, List.set_getElem_self]

/-- **Overwrite and undo.** An addition leaves no trace when another one at the same path follows:
the result, or the error, is that of the second one alone. And an addition that made nothing on its
way and overwrote nothing is undone by a removal. -/
theorem overwrite_and_undo (base : Value) (p : Path) (x y : Value) :
    apply base [] [(p, x), (p, y)] = apply base [] [(p, y)] ∧
      ∀ v, add x base p = .ok v → Vacant p base → remove v p = .ok base := by
  refine ⟨?_, fun v h vacant ↦ remove_add vacant h⟩
  rw [apply_eq, apply_eq]
  simp only [List.foldlM_cons, List.foldlM_nil, bind_pure, pure_bind,
    (overwrites x y p base).bind_eq]

/-- Items put behind others, in every object of some rows. -/
theorem overwrite_and_undo_tags :
    let tagged (tags : List Value) : Value := .object [("tags", .array tags false)]
    let sheet (first second : List Value) : Value :=
      .object [("rows", .array [.array [tagged first] true, tagged second] false)]
    let p : Path := [.key "rows", .key "tags", .index 1]
    let base := sheet [.string "a"] [.string "b"]
    add .null base p = .ok (sheet [.string "a", .null] [.string "b", .null]) ∧ Vacant p base ∧
      remove (sheet [.string "a", .null] [.string "b", .null]) p = .ok base := by
  intro tagged sheet p base
  have hadd : add .null base p = .ok (sheet [.string "a", .null] [.string "b", .null]) := by rfl
  have htagged : ∀ z, Vacant [.key "tags", .index 1] (tagged [z]) :=
    fun z ↦ .entry rfl (.behind [z] false)
  have hvacant : Vacant p base := by
    refine .entry rfl (.each false ?_)
    refine List.forall_mem_cons.mpr ⟨.each true ?_, List.forall_mem_singleton.mpr (htagged _)⟩
    exact List.forall_mem_singleton.mpr (htagged _)
  exact ⟨hadd, hvacant, (overwrite_and_undo base p .null .null).2 _ hadd hvacant⟩

end DataOutline.Mixin
