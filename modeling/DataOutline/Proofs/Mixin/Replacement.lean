import DataOutline.Proofs.Mixin.Distinct
import DataOutline.Proofs.Mixin.Order

/-!
# Removing a path and adding it again

An addition gets through wherever a removal does, before and after it: it asks for less, since it
makes the keys that are absent and may put an item behind the last one, which is where the last item
of an array was. So a value that is added where something was removed is there, at every place that
the path denotes.

If the path ends in a key, the removal makes no difference but one: the key, which the addition
would have given its value in its place, stands behind the others.
-/

namespace DataOutline.Mixin

open Value (Reorders)

/-! ## An addition gets through -/

theorem AddStuck.removeStuck {p : Path} {v : Value} (h : AddStuck p v) : RemoveStuck p v := by
  cases h with
  | number => exact .number
  | beyond h => exact .beyond (Nat.le_of_lt h)
  | descent => exact .beyond (Nat.le_refl _)
  | plain h => exact .plain h

/-- A walk that makes objects leaves the value where a removal would get stuck, or it is a walk
through the value. -/
theorem AddBlocked.removeBlocked {p : Path} {v : Value} (h : AddBlocked p v) :
    RemoveBlocked p v := by
  obtain ⟨l, r, w, hwalk, hstuck⟩ := h
  induction hwalk with
  | here p v => exact hstuck.removeStuck.blocked
  | @step p q r v w u t l selects part _ ih =>
    by_cases free : RemoveStuck p v
    · exact free.blocked
    · obtain ⟨w', hw'⟩ := selects.exists_part free
      cases Value.eq_of_grown? part hw'
      exact .step selects hw' (ih hstuck)

theorem addBlocked_last {s : Segment} {v : Value} (leaves : ∀ t q, Selects [s] v t q → q = [])
    (h : AddBlocked [s] v) : AddStuck [s] v := by
  obtain ⟨l, r, w, hwalk, hstuck⟩ := h
  cases hwalk with
  | here => exact hstuck
  | step selects part more =>
    cases leaves _ _ selects
    cases more.eq_nil.2
    exact nomatch hstuck

/-- **After a removal an addition at the same path does not get stuck.** -/
theorem Removes.not_addBlocked {p : Path} {v v' : Value} (h : Removes p v v') :
    ¬AddBlocked p v' := by
  induction h with
  | key hk =>
    intro hblocked
    have hstuck := addBlocked_last (by rintro t q ⟨⟩; rfl) hblocked
    cases hstuck with
    | plain h => exact nomatch h
  | @index i items unordered hi =>
    intro hblocked
    have hstuck := addBlocked_last (by rintro t q ⟨⟩; rfl) hblocked
    have hlen := List.length_eraseIdx_of_lt hi
    generalize items.eraseIdx i = items' at hstuck hlen
    generalize hlast : ([] : Path) = last at hstuck
    cases hstuck with
    | beyond hlt => omega
    | descent hne => exact hne hlast.symm
    | plain h => exact nomatch h
  | @step p v v' long free rebuilds keeps inner selected ih =>
    have free' : ¬RemoveStuck p v' := fun h ↦ free (keeps.removeStuck h)
    rintro ⟨l, r, w, hwalk, hstuck⟩
    cases hwalk with
    | here => exact free' hstuck.removeStuck
    | step selects' look more =>
      obtain ⟨u', part'⟩ := selects'.exists_part free'
      have selects := (rebuilds.selects_iff keeps.sameKind part').mp selects'
      obtain ⟨u, part⟩ := selects.exists_part free
      cases Value.eq_of_grown? look part'
      exact ih _ _ u _ selects part part' ⟨_, _, _, more, hstuck⟩

/-- What a path denotes before it is removed, it denotes when it has been added again. -/
theorem Removes.denotes {p : Path} {x v v' w : Value} {l : Location} (h : Removes p v v')
    (h' : Adds x p v' w) (hl : Denotes p v l) : Denotes p w l := by
  induction h generalizing w l with
  | key hk =>
    obtain ⟨t, l, rfl⟩ := List.exists_cons_of_ne_nil (hl.ne_nil (List.cons_ne_nil _ _))
    obtain ⟨q, u, selects, -, hu⟩ := denotes_cons_iff.mp hl
    cases selects
    cases hu.eq_nil
    exact h'.denotes (.here _ _) .key
  | index hi =>
    obtain ⟨t, l, rfl⟩ := List.exists_cons_of_ne_nil (hl.ne_nil (List.cons_ne_nil _ _))
    obtain ⟨q, u, selects, -, hu⟩ := denotes_cons_iff.mp hl
    cases selects
    cases hu.eq_nil
    exact h'.denotes (.here _ _) .index
  | @step p v v' long free rebuilds keeps inner selected ih =>
    obtain ⟨t, l, rfl⟩ := List.exists_cons_of_ne_nil (hl.ne_nil long)
    obtain ⟨q, u, selects, part, hu⟩ := denotes_cons_iff.mp hl
    obtain ⟨u', part'⟩ := keeps.exists_part part
    have selects' := (rebuilds.selects_iff keeps.sameKind part').mpr selects
    cases h' with
    | put => exact absurd rfl long
    | step _ _ rebuilds' grows present selected' =>
      obtain ⟨u'', part''⟩ := present t q selects'
      have hadds := selected' t q u'' selects' part''
      rw [part', Option.getD_some] at hadds
      have selects'' := (rebuilds'.selects_iff grows.sameKind part'').mpr selects'
      exact (ih t q u u' selects part part' hadds hu).cons selects'' part''

/-! ## A last key -/

/-- A key that was removed and is added again stands behind the others, and otherwise it is as if it
had been given its value in its place. -/
theorem reorders_erase_insert {entries : Entries Value} {k : String} (x : Value)
    (nodup : entries.keys.Nodup) (present : k ∈ entries.keys) :
    Reorders (.object ((entries.erase k).insert k x)) (.object (entries.insert k x)) := by
  refine .of_get?_eq ?_ fun name ↦ ?_
  · have habsent : k ∉ (entries.erase k).keys := by
      rw [Entries.keys_erase]
      exact nodup.not_mem_erase
    rw [Entries.keys_insert, Entries.keys_insert, if_neg habsent, if_pos present,
      Entries.keys_erase]
    exact (List.perm_append_singleton k _).trans (List.perm_cons_erase present).symm
  · by_cases hname : name = k
    · rw [hname, Entries.get?_insert_self, Entries.get?_insert_self]
    · rw [Entries.get?_insert_of_ne _ _ hname, Entries.get?_insert_of_ne _ _ hname,
        Entries.get?_erase_of_ne _ hname]

/-- What comes of an addition to a value, with a removal before it and without: the results, if
there are any, differ at most in the order of keys. -/
def Replaces (x : Value) (p : Path) (v : Value) : Prop :=
  ∀ v' w w', remove v p = .ok v' → add x v' p = .ok w → add x v p = .ok w' → w.Reorders w'

theorem Replaces.each {x : Value} {k : String} {rest : Path} {items : List Value}
    (unordered : Bool) (h : ∀ y ∈ items, Replaces x (.key k :: rest) y) :
    Replaces x (.key k :: rest) (.array items unordered) := by
  intro v' w w' hremove hadd hdirect
  rw [remove_each] at hremove
  obtain ⟨items', hitems', rfl⟩ := map_eq_ok_iff.mp hremove
  rw [add_each] at hadd hdirect
  obtain ⟨ws, hws, rfl⟩ := map_eq_ok_iff.mp hadd
  obtain ⟨ws', hws', rfl⟩ := map_eq_ok_iff.mp hdirect
  rw [mapM_eq_ok_iff] at hitems' hws hws'
  have hboth := forall₂_trans (R := fun y z ↦ ∃ y', remove y (.key k :: rest) = .ok y' ∧
    add x y' (.key k :: rest) = .ok z) (fun y _ y' z hy hz ↦ ⟨y', hy, hz⟩) hitems' hws
  refine .array unordered (forall₂_of_common ?_ hboth hws')
  rintro y hy z z' ⟨y', hremove, hadd⟩ hdirect
  exact h y hy y' z z' hremove hadd hdirect

theorem Replaces.item {x y : Value} {rest : Path} {items : List Value} {i : Nat} (unordered : Bool)
    (hrest : rest ≠ []) (hy : items[i]? = some y) (h : Replaces x rest y) :
    Replaces x (.index i :: rest) (.array items unordered) := by
  intro v' w w' hremove hadd hdirect
  obtain ⟨hi, -⟩ := List.getElem?_eq_some_iff.mp hy
  obtain ⟨y', hy', rfl⟩ := map_eq_ok_iff.mp
    ((Edit.removal.item unordered hrest hy).symm.trans hremove)
  have hself : (items.set i y')[i]? = some y' := List.getElem?_set_self hi
  obtain ⟨z, hz, rfl⟩ := map_eq_ok_iff.mp
    (((Edit.addition x).item unordered hrest hself).symm.trans hadd)
  obtain ⟨z', hz', rfl⟩ := map_eq_ok_iff.mp
    (((Edit.addition x).item unordered hrest hy).symm.trans hdirect)
  have hitems := List.forall₂_same.mpr fun v (_ : v ∈ items) ↦ Reorders.refl v
  rw [List.set_set]
  exact .array unordered (forall₂_set hitems i (h y' z z' hy' hz hz'))

theorem Replaces.entry {x y : Value} {k : String} {rest : Path} {entries : Entries Value}
    (hrest : rest ≠ []) (hy : entries.get? k = some y) (h : Replaces x rest y) :
    Replaces x (.key k :: rest) (.object entries) := by
  intro v' w w' hremove hadd hdirect
  obtain ⟨y', hy', rfl⟩ := map_eq_ok_iff.mp
    ((Edit.removal.run_present hrest hy).symm.trans hremove)
  obtain ⟨z, hz, rfl⟩ := map_eq_ok_iff.mp
    (((Edit.addition x).run_present hrest (Entries.get?_insert_self k y' entries)).symm.trans hadd)
  obtain ⟨z', hz', rfl⟩ := map_eq_ok_iff.mp
    (((Edit.addition x).run_present hrest hy).symm.trans hdirect)
  rw [Entries.insert_insert_self]
  exact (Reorders.refl (.object entries)).insert k (h y' z z' hy' hz hz')

theorem exists_get?_of_remove {k : String} {rest : Path} {entries : Entries Value} {v' : Value}
    (h : remove (.object entries) (.key k :: rest) = .ok v') : ∃ y, entries.get? k = some y := by
  obtain ⟨part, hpart, -⟩ :=
    map_eq_ok_iff.mp ((Edit.removal.run_object k rest entries).symm.trans h)
  exact Entries.mem_keys_iff_exists.mp (Edit.mem_keys_of_removal hpart)

theorem Replaces.last {k : String} {entries : Entries Value} (x : Value)
    (nodup : entries.keys.Nodup) : Replaces x [.key k] (.object entries) := by
  intro v' w w' hremove hadd hdirect
  obtain ⟨y, hy⟩ := exists_get?_of_remove hremove
  cases (remove_key hy).symm.trans hremove
  cases hadd
  cases hdirect
  exact reorders_erase_insert x nodup (Entries.mem_keys_iff_exists.mpr ⟨y, hy⟩)

/-- **A removal before an addition at a last key makes no difference but in the order of keys.** The
induction is on the path and, for a key that is applied to every item, on the value. -/
theorem replaces_of_last_key (x : Value) (k : String) (front : Path) {v : Value}
    (distinct : v.Distinct) : Replaces x (front ++ [.key k]) v := by
  induction front generalizing v with
  | nil =>
    induction distinct with
    | plain hv =>
      intro v' w w' hremove
      obtain ⟨e, he⟩ := Edit.removal.plain (.key k) [] hv
      exact nomatch he.symm.trans hremove
    | array unordered each ih => exact .each unordered ih
    | object nodup each ih => exact .last x nodup
  | cons t front ih =>
    have hrest : front ++ [.key k] ≠ [] := by simp
    induction distinct with
    | plain hv =>
      intro v' w w' hremove
      obtain ⟨e, he⟩ := Edit.removal.plain t (front ++ [.key k]) hv
      exact nomatch he.symm.trans hremove
    | @array items unordered each ihv =>
      cases t with
      | key c => exact .each unordered ihv
      | index i =>
        cases hy : items[i]? with
        | none =>
          intro v' w w' hremove
          obtain ⟨e, he⟩ := Edit.removal.beyond unordered hrest hy
          exact nomatch he.symm.trans hremove
        | some y => exact .item unordered hrest hy (ih (each y (List.mem_of_getElem? hy)))
    | object nodup each =>
      intro v' w w' hremove
      cases t with
      | index i => exact nomatch hremove
      | key c =>
        obtain ⟨y, hy⟩ := exists_get?_of_remove hremove
        exact Replaces.entry hrest hy (ih (each _ (Entries.mem_of_get?_eq_some hy))) v' w w' hremove

/-! ## The patch -/

/-- Where a path can be removed, a value can be added at it, before the removal and after it. -/
theorem exists_add_of_remove {v v' : Value} {p : Path} (h : remove v p = .ok v') (x : Value) :
    Removes p v v' ∧ (∃ w, add x v p = .ok w ∧ Adds x p v w) ∧
      ∃ w, add x v' p = .ok w ∧ Adds x p v' w := by
  have hp := ne_nil_of_remove h
  have hremoves := removes_of_remove h
  have hbefore : ¬AddBlocked p v := fun hblocked ↦ hremoves.not_blocked hblocked.removeBlocked
  exact ⟨hremoves, (add_settles hp v).exists_ok hbefore,
    (add_settles hp v').exists_ok hremoves.not_addBlocked⟩

/-- **Additions win over removals.** If a path can be removed from a base, it can be removed and
added again. Every place that it denotes then holds what was added, and it denotes every place that
it did before. If its last segment is a key, and the base names nothing twice, the removal makes no
difference but in the order of keys. -/
theorem apply_replaces {base reduced : Value} {p : Path} (h : apply base [p] [] = .ok reduced)
    (x : Value) :
    ∃ result, apply base [p] [(p, x)] = .ok result ∧
      (∀ l, Denotes p base l → Denotes p result l) ∧
      (∀ l, Denotes p result l → result.at? l = some x) ∧
      ∀ front k, p = front ++ [.key k] → base.Distinct →
        ∃ direct, apply base [] [(p, x)] = .ok direct ∧ result.Reorders direct := by
  rw [apply_eq] at h
  split at h
  · next hbase =>
    have happly : ∀ removals additions, apply base removals additions =
        removals.foldlM remove base >>= additions.foldlM fun v a ↦ add a.2 v a.1 :=
      fun _ _ ↦ by rw [apply_eq, if_pos hbase]
    obtain ⟨reduced, hremove, -⟩ := bind_eq_ok_iff.mp h
    simp only [List.foldlM_cons, List.foldlM_nil, bind_pure] at hremove
    obtain ⟨hremoves, ⟨direct, hdirect, -⟩, result, hresult, hadds⟩ :=
      exists_add_of_remove hremove x
    refine ⟨result, ?_, fun l ↦ hremoves.denotes hadds, fun l ↦ hadds.at?_eq, ?_⟩
    · simp only [happly, List.foldlM_cons, List.foldlM_nil, bind_pure, hremove, ok_bind, hresult]
    · rintro front k rfl distinct
      refine ⟨direct, ?_, replaces_of_last_key x k front distinct _ _ _ hremove hresult hdirect⟩
      simp only [happly, List.foldlM_cons, List.foldlM_nil, bind_pure, pure_bind, hdirect]
  · exact nomatch h

/-- Items with a key to be replaced, which is the first of one item and the last of the other. -/
def rated : Value :=
  .object [("items", .array [.object [("rate", .null), ("name", .string "a")],
    .object [("name", .string "b"), ("rate", .null)]] true)]

theorem apply_replaces_rated :
    let p : Path := [.key "items", .key "rate"]
    ∃ reduced result direct, apply rated [p] [] = .ok reduced ∧
      apply rated [p] [(p, .boolean true)] = .ok result ∧
      (∀ l, Denotes p rated l → Denotes p result l) ∧
      (∀ l, Denotes p result l → result.at? l = some (.boolean true)) ∧
      rated.Distinct ∧ apply rated [] [(p, .boolean true)] = .ok direct ∧
      result.Reorders direct := by
  intro p
  have hdistinct : rated.Distinct := by
    have hplain : ∀ {k k' : String} {v v' : Value}, k ≠ k' → v.isStructured = false →
        v'.isStructured = false → Value.Distinct (.object [(k, v), (k', v')]) := by
      intro k k' v v' hne hv hv'
      refine .object (by simp [Entries.keys, hne]) ?_
      exact List.forall_mem_cons.mpr ⟨.plain hv, List.forall_mem_singleton.mpr (.plain hv')⟩
    refine .object (by simp [Entries.keys]) (List.forall_mem_singleton.mpr (.array true ?_))
    exact List.forall_mem_cons.mpr ⟨hplain (by decide) rfl rfl,
      List.forall_mem_singleton.mpr (hplain (by decide) rfl rfl)⟩
  have hremoved : apply rated [p] [] = .ok (.object [("items",
      .array [.object [("name", .string "a")], .object [("name", .string "b")]] true)]) := rfl
  obtain ⟨result, hresult, hkept, hholds, hlast⟩ := apply_replaces hremoved (.boolean true)
  obtain ⟨direct, hdirect, hreorders⟩ := hlast [.key "items"] "rate" rfl hdistinct
  exact ⟨_, result, direct, hremoved, hresult, hkept, hholds, hdistinct, hdirect, hreorders⟩

end DataOutline.Mixin
