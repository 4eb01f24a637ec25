import DataOutline.Proofs.Mixin.Location
import DataOutline.Proofs.Result

/-!
# Removals touch what a path denotes

A removal walks along its path and asks at every value for the part that comes next; it fails when
the walk gets stuck, and only then. At the end of the walk it cuts the last part out of the value
that holds it, and `Removes` says what becomes of the values on the way: the parts that the walk
selects are removed from, the others stay, and there are as many of them as before.

A removed item leaves a gap that the items behind it close, so what is not removed may move. `shift`
says where a place moves to.
-/

namespace DataOutline.Mixin

/-! ## Where a walk gets stuck -/

/-- With these segments left a removal cannot go on at a value. -/
inductive RemoveStuck : Path → Value → Prop
  | missing {k : String} {rest : Path} {entries : List (String × Value)}
      (h : k ∉ Entries.keys entries) : RemoveStuck (.key k :: rest) (.object entries)
  | number {i : Nat} {rest : Path} {entries : List (String × Value)} :
      RemoveStuck (.index i :: rest) (.object entries)
  | beyond {i : Nat} {rest : Path} {items : List Value} {unordered : Bool}
      (h : items.length ≤ i) : RemoveStuck (.index i :: rest) (.array items unordered)
  | plain {s : Segment} {rest : Path} {v : Value} (h : v.isStructured = false) :
      RemoveStuck (s :: rest) v

/-- A removal gets stuck somewhere on its walk. -/
def RemoveBlocked (p : Path) (v : Value) : Prop :=
  ∃ l r w, Walks Value.part? p v l r w ∧ RemoveStuck r w

theorem RemoveStuck.blocked {p : Path} {v : Value} (h : RemoveStuck p v) : RemoveBlocked p v :=
  ⟨[], p, v, .here p v, h⟩

theorem RemoveBlocked.step {p q : Path} {v w : Value} {t : Segment} (selects : Selects p v t q)
    (part : v.part? t = some w) (h : RemoveBlocked q w) : RemoveBlocked p v := by
  obtain ⟨l, r, u, hwalk, hstuck⟩ := h
  exact ⟨t :: l, r, u, .step selects part hwalk, hstuck⟩

theorem Selects.exists_part {p q : Path} {v : Value} {t : Segment} (h : Selects p v t q)
    (free : ¬RemoveStuck p v) : ∃ w, v.part? t = some w := by
  cases h with
  | @index i rest items unordered =>
    have hi : i < items.length := Nat.not_le.mp fun hi ↦ free (.beyond hi)
    exact ⟨items[i], List.getElem?_eq_getElem hi⟩
  | @key k rest entries =>
    have hk : k ∈ Entries.keys entries := by
      by_contra hk
      exact free (.missing hk)
    exact Entries.mem_keys_iff_exists.mp hk
  | each inside => exact ⟨_, List.getElem?_eq_getElem inside⟩

/-! ## What a removal does at each value -/

/-- A value of the same kind and size: an array of the same order, or an object of the same keys. -/
inductive Keeps : Value → Value → Prop
  | array {items items' : List Value} {unordered : Bool} (h : items'.length = items.length) :
      Keeps (.array items unordered) (.array items' unordered)
  | object {entries entries' : List (String × Value)}
      (h : Entries.keys entries' = Entries.keys entries) :
      Keeps (.object entries) (.object entries')

theorem Keeps.exists_part {v v' w : Value} {t : Segment} (h : Keeps v v')
    (part : v.part? t = some w) : ∃ w', v'.part? t = some w' := by
  cases h with
  | @array items items' unordered hlen =>
    cases t with
    | key k => exact nomatch part
    | index i =>
      obtain ⟨hi, -⟩ := List.getElem?_eq_some_iff.mp part
      exact ⟨_, List.getElem?_eq_getElem (hlen.symm ▸ hi)⟩
  | @object entries entries' hkeys =>
    cases t with
    | index i => exact nomatch part
    | key k =>
      have hk : k ∈ Entries.keys entries := Entries.mem_keys_iff_exists.mpr ⟨w, part⟩
      rw [← hkeys] at hk
      exact Entries.mem_keys_iff_exists.mp hk

theorem Keeps.sameKind {v v' : Value} (h : Keeps v v') : SameKind v v' := by
  cases h with
  | array => exact .array _ _ _
  | object => exact .object _ _

/-- A value of the same kind and size does not get a walk stuck that it did not before. -/
theorem Keeps.removeStuck {p : Path} {v v' : Value} (keeps : Keeps v v') (h : RemoveStuck p v') :
    RemoveStuck p v := by
  cases keeps with
  | array hlen =>
    cases h with
    | beyond h => exact .beyond (hlen ▸ h)
    | plain h => cases h
  | object hkeys =>
    cases h with
    | missing h => exact .missing (hkeys ▸ h)
    | number => exact .number
    | plain h => cases h

/-- `Removes p v v'`: with the path `p` left, the removal makes `v'` out of `v`. -/
inductive Removes : Path → Value → Value → Prop
  | key {k : String} {entries : List (String × Value)} (h : k ∈ Entries.keys entries) :
      Removes [.key k] (.object entries) (.object (Entries.erase k entries))
  | index {i : Nat} {items : List Value} {unordered : Bool} (h : i < items.length) :
      Removes [.index i] (.array items unordered) (.array (items.eraseIdx i) unordered)
  | step {p : Path} {v v' : Value} (long : p ≠ []) (free : ¬RemoveStuck p v)
      (rebuilds : Rebuilds p v v') (keeps : Keeps v v')
      (inner : ∀ t q, Selects p v t q → q ≠ [])
      (selected : ∀ t q w w', Selects p v t q → v.part? t = some w → v'.part? t = some w' →
        Removes q w w') : Removes p v v'

theorem Removes.under_index {i : Nat} {s : Segment} {rest : Path} {items : List Value}
    {y y' : Value} (unordered : Bool) (hy : items[i]? = some y) (h : Removes (s :: rest) y y') :
    Removes (.index i :: s :: rest) (.array items unordered)
      (.array (items.set i y') unordered) := by
  obtain ⟨hi, -⟩ := List.getElem?_eq_some_iff.mp hy
  refine .step nofun ?_ (rebuilds_set hi _ unordered y') (.array List.length_set) ?_ ?_
  · rintro (_ | _ | hle | hplain)
    · exact Nat.not_lt.mpr hle hi
    · exact nomatch hplain
  · rintro t q ⟨⟩
    exact List.cons_ne_nil _ _
  · rintro t q w w' ⟨⟩ hw hw'
    cases hy.symm.trans hw
    cases (List.getElem?_set_self hi).symm.trans hw'
    exact h

theorem Removes.under_key {k : String} {s : Segment} {rest : Path}
    {entries : List (String × Value)} {y y' : Value} (hy : Entries.get? k entries = some y)
    (h : Removes (s :: rest) y y') :
    Removes (.key k :: s :: rest) (.object entries) (.object (Entries.insert k y' entries)) := by
  have hk : k ∈ Entries.keys entries := Entries.mem_keys_iff_exists.mpr ⟨y, hy⟩
  refine .step nofun ?_ (rebuilds_insert k _ entries y') (.object ?_) ?_ ?_
  · rintro (hmissing | _ | _ | hplain)
    · exact hmissing hk
    · exact nomatch hplain
  · rw [Entries.keys_insert, if_pos hk]
  · rintro t q ⟨⟩
    exact List.cons_ne_nil _ _
  · rintro t q w w' ⟨⟩ hw hw'
    cases hy.symm.trans hw
    cases (Entries.get?_insert_self k y' entries).symm.trans hw'
    exact h

theorem Removes.each {k : String} {rest : Path} {items items' : List Value} (unordered : Bool)
    (h : List.Forall₂ (Removes (.key k :: rest)) items items') :
    Removes (.key k :: rest) (.array items unordered) (.array items' unordered) := by
  have hlen : items'.length = items.length := h.length_eq.symm
  refine .step nofun ?_ (rebuilds_each k rest unordered hlen) (.array hlen) ?_ ?_
  · rintro (_ | _ | _ | hplain)
    exact nomatch hplain
  · rintro t q ⟨⟩
    exact List.cons_ne_nil _ _
  · rintro t q w w' ⟨⟩ hw hw'
    exact forall₂_getElem? h hw hw'

/-! ## What is removed, in terms of lists -/

theorem remove_nil (v : Value) : remove v [] = .error .emptyPath := by
  cases v <;> rfl

theorem remove_plain {v : Value} (h : v.isStructured = false) (s : Segment) (rest : Path) :
    remove v (s :: rest) = .error (.removeFromNonObject s.text) := by
  cases v with
  | array items unordered | object entries => exact nomatch h
  | _ => rfl

theorem remove_entry (k : String) (rest : Path) (entries : Entries Value) :
    remove (.object entries) (.key k :: rest) =
      if !entries.contains k then .error (.missingKey k)
      else if rest.isEmpty then .ok (.object (entries.erase k))
      else .object <$> removeUnder entries k rest := rfl

theorem remove_item (i : Nat) (rest : Path) (items : List Value) (unordered : Bool) :
    remove (.array items unordered) (.index i :: rest) =
      if items.length ≤ i then .error (.removeIndexOutOfRange i items.length)
      else if rest.isEmpty then .ok (.array (items.eraseIdx i) unordered)
      else (.array · unordered) <$> removeAt items i rest := rfl

theorem removeEach_eq_mapM (items : List Value) (p : Path) :
    removeEach items p = items.mapM (remove · p) := by
  induction items with
  | nil => rfl
  | cons y items ih => rw [removeEach, ih, List.mapM_cons]

theorem remove_each (k : String) (rest : Path) (items : List Value) (unordered : Bool) :
    remove (.array items unordered) (.key k :: rest) =
      (.array · unordered) <$> items.mapM (remove · (.key k :: rest)) := by
  rw [← removeEach_eq_mapM]
  rfl

theorem removeAt_eq {items : List Value} {i : Nat} {y : Value} (h : items[i]? = some y) (p : Path) :
    removeAt items i p = (items.set i ·) <$> remove y p :=
  eq_map_set (f := fun items i ↦ removeAt items i p) (g := (remove · p))
    (fun _ _ ↦ rfl) (fun _ _ _ ↦ rfl) h

theorem removeUnder_eq {entries : Entries Value} {k : String} {y : Value}
    (h : entries.get? k = some y) (p : Path) :
    removeUnder entries k p = (fun y' ↦ entries.insert k y') <$> remove y p :=
  eq_map_insert (f := fun entries ↦ removeUnder entries k p) (g := (remove · p))
    (fun _ _ _ ↦ rfl) h

theorem remove_missing {entries : Entries Value} {k : String} (h : entries.get? k = none)
    (rest : Path) : remove (.object entries) (.key k :: rest) = .error (.missingKey k) := by
  rw [remove_entry, Entries.contains_of_get?_eq_none h]
  rfl

theorem remove_key {entries : Entries Value} {k : String} {y : Value}
    (h : entries.get? k = some y) :
    remove (.object entries) [.key k] = .ok (.object (entries.erase k)) := by
  rw [remove_entry, Entries.contains_of_get?_eq_some h]
  rfl

theorem remove_key_cons {entries : Entries Value} {k : String} {y : Value}
    (h : entries.get? k = some y) (s : Segment) (rest : Path) :
    remove (.object entries) (.key k :: s :: rest) =
      (fun y' ↦ .object (entries.insert k y')) <$> remove y (s :: rest) := by
  rw [remove_entry, Entries.contains_of_get?_eq_some h, removeUnder_eq h, Functor.map_map]
  rfl

theorem remove_beyond {items : List Value} {i : Nat} (h : items[i]? = none) (unordered : Bool)
    (rest : Path) : remove (.array items unordered) (.index i :: rest) =
      .error (.removeIndexOutOfRange i items.length) := by
  rw [remove_item, if_pos (List.getElem?_eq_none_iff.mp h)]

theorem remove_index {items : List Value} {i : Nat} {y : Value} (h : items[i]? = some y)
    (unordered : Bool) : remove (.array items unordered) [.index i] =
      .ok (.array (items.eraseIdx i) unordered) := by
  obtain ⟨hi, -⟩ := List.getElem?_eq_some_iff.mp h
  rw [remove_item, if_neg (Nat.not_le.mpr hi)]
  rfl

theorem remove_index_cons {items : List Value} {i : Nat} {y : Value} (h : items[i]? = some y)
    (unordered : Bool) (s : Segment) (rest : Path) :
    remove (.array items unordered) (.index i :: s :: rest) =
      (fun y' ↦ .array (items.set i y') unordered) <$> remove y (s :: rest) := by
  obtain ⟨hi, -⟩ := List.getElem?_eq_some_iff.mp h
  rw [remove_item, if_neg (Nat.not_le.mpr hi), removeAt_eq h, Functor.map_map]
  rfl

theorem ne_nil_of_remove {v v' : Value} {p : Path} (h : remove v p = .ok v') : p ≠ [] := by
  rintro rfl
  cases v <;> cases h

/-! ## Success and failure of a removal -/

/-- **What a removal does.** It does on every value along its walk what `Removes` says, or it gets
stuck. -/
theorem remove_settles {p : Path} (hp : p ≠ []) (v : Value) :
    Settles (remove v p) (Removes p v) (RemoveBlocked p v) := by
  induction p, v using editInduction with
  | nil v => exact absurd rfl hp
  | plain s rest v hv =>
    rw [remove_plain hv]
    exact (RemoveStuck.plain hv).blocked
  | number i rest entries => exact RemoveStuck.number.blocked
  | entry k rest entries ih =>
    cases hk : Entries.get? k entries with
    | none =>
      have hmem : k ∉ Entries.keys entries := by rw [Entries.mem_keys_iff, hk]; exact nofun
      rw [remove_missing hk]
      exact (RemoveStuck.missing hmem).blocked
    | some y =>
      cases rest with
      | nil =>
        rw [remove_key hk]
        exact .key (Entries.mem_keys_iff_exists.mpr ⟨y, hk⟩)
      | cons s rest =>
        rw [remove_key_cons hk]
        refine (ih y (List.cons_ne_nil _ _)).map (fun y' h ↦ .under_key hk h) fun hstuck ↦ ?_
        exact .step .key hk hstuck
  | each k rest items unordered ih =>
    rw [remove_each]
    refine (settles_mapM fun y hy ↦ ih y hy hp).map (fun items' h ↦ .each unordered h) ?_
    rintro ⟨y, hy, hstuck⟩
    obtain ⟨j, hj, rfl⟩ := List.mem_iff_getElem.mp hy
    exact .step (.each hj) (List.getElem?_eq_getElem hj) hstuck
  | item i rest items unordered ih =>
    cases hy : items[i]? with
    | none =>
      rw [remove_beyond hy]
      exact (RemoveStuck.beyond (List.getElem?_eq_none_iff.mp hy)).blocked
    | some y =>
      cases rest with
      | nil =>
        rw [remove_index hy]
        exact .index (List.getElem?_eq_some_iff.mp hy).1
      | cons s rest =>
        rw [remove_index_cons hy]
        refine (ih _ (List.cons_ne_nil _ _)).map (fun y' h ↦ .under_index unordered hy h) ?_
        exact fun hstuck ↦ .step .index hy hstuck

theorem removes_of_remove {p : Path} {v v' : Value} (h : remove v p = .ok v') : Removes p v v' :=
  (remove_settles (ne_nil_of_remove h) v).of_eq_ok h

/-! ## Where places move to -/

/-- Where a place stands after a removal: one step down in an array that has lost an item before
it. Only the last segment of a path takes an item away. -/
def shift : Path → Location → Location
  | [.index i], .index j :: l => if i < j then .index (j - 1) :: l else .index j :: l
  | .index i :: rest, .index j :: l =>
    if i = j then .index j :: shift rest l else .index j :: l
  | .key k :: rest, .key k' :: l => if k = k' then .key k' :: shift rest l else .key k' :: l
  | .key k :: rest, .index j :: l => .index j :: shift (.key k :: rest) l
  | _, l => l

@[simp] theorem shift_nil (p : Path) : shift p [] = [] := by
  rcases p with _ | ⟨_ | _, _ | _⟩ <;> rfl

theorem shift_index_single (i j : Nat) (l : Location) :
    shift [.index i] (.index j :: l) =
      if i < j then .index (j - 1) :: l else .index j :: l := rfl

theorem shift_index_cons (i j : Nat) (s : Segment) (rest : Path) (l : Location) :
    shift (.index i :: s :: rest) (.index j :: l) =
      if i = j then .index j :: shift (s :: rest) l else .index j :: l := rfl

theorem shift_key (k k' : String) (rest : Path) (l : Location) :
    shift (.key k :: rest) (.key k' :: l) =
      if k = k' then .key k' :: shift rest l else .key k' :: l := rfl

theorem shift_key_of_ne {k k' : String} (h : k ≠ k') (rest : Path) (l : Location) :
    shift (.key k :: rest) (.key k' :: l) = .key k' :: l := by
  rw [shift_key, if_neg h]

/-- Along the walk a place moves as it does in the part that it is in. -/
theorem Selects.shift_cons {p q : Path} {v : Value} {t : Segment} (h : Selects p v t q)
    (hq : q ≠ []) (l : Location) : shift p (t :: l) = t :: shift q l := by
  cases h with
  | @index i rest items unordered =>
    obtain ⟨s, rest, rfl⟩ := List.exists_cons_of_ne_nil hq
    rw [shift_index_cons, if_pos rfl]
  | key => rw [shift_key, if_pos rfl]
  | each => rfl

theorem shift_cons_of_not_selects {p : Path} {v w : Value} {t : Segment} (part : v.part? t = some w)
    (hnot : ∀ q, ¬Selects p v t q) (inner : ∀ t q, Selects p v t q → q ≠ []) (l : Location) :
    shift p (t :: l) = t :: l := by
  rcases p with _ | ⟨s, rest⟩
  · rfl
  cases v with
  | array items unordered =>
    cases t with
    | key k => exact nomatch part
    | index j =>
      cases s with
      | key k => exact absurd (.each (List.getElem?_eq_some_iff.mp part).1) (hnot _)
      | index i =>
        have hne : i ≠ j := by
          rintro rfl
          exact hnot _ .index
        obtain ⟨s, rest, rfl⟩ := List.exists_cons_of_ne_nil (inner _ _ .index)
        rw [shift_index_cons, if_neg hne]
  | object entries =>
    cases t with
    | index j => exact nomatch part
    | key k' =>
      cases s with
      | index i => cases rest <;> rfl
      | key k =>
        refine shift_key_of_ne ?_ rest l
        rintro rfl
        exact hnot _ .key
  | _ => exact nomatch part

/-- What is not in the entry that an object loses stays where it is. -/
theorem at?_shift_erase {k : String} {entries : List (String × Value)} {t : Segment}
    {l : Location} {w : Value} (hat : (Value.object entries).at? (t :: l) = some w)
    (hne : t ≠ .key k) :
    (Value.object (Entries.erase k entries)).at? (shift [.key k] (t :: l)) = some w := by
  obtain ⟨u, part, hin⟩ := Value.at?_cons_eq_some_iff.mp hat
  cases t with
  | index j => exact nomatch part
  | key k' =>
    have hk : k ≠ k' := by
      rintro rfl
      exact hne rfl
    have part' : Value.part? (.object (Entries.erase k entries)) (.key k') = some u := by
      rw [← part]
      exact Entries.get?_erase_of_ne entries hk.symm
    rw [shift_key_of_ne hk, Value.at?_cons_of_part? part', hin]

/-- What is not in the item that an array loses moves with the item that it is in. -/
theorem at?_shift_eraseIdx {i : Nat} {items : List Value} {unordered : Bool} {t : Segment}
    {l : Location} {w : Value} (hat : (Value.array items unordered).at? (t :: l) = some w)
    (hne : t ≠ .index i) :
    (Value.array (items.eraseIdx i) unordered).at? (shift [.index i] (t :: l)) = some w := by
  obtain ⟨u, part, hin⟩ := Value.at?_cons_eq_some_iff.mp hat
  cases t with
  | key k => exact nomatch part
  | index j =>
    have hpart : items[j]? = some u := part
    rw [shift_index_single]
    -- Behind the removed item, inside of it, or before it.
    rcases Nat.lt_trichotomy i j with hlt | rfl | hlt
    · have part' : Value.part? (.array (items.eraseIdx i) unordered) (.index (j - 1))
          = some u := by
        change (items.eraseIdx i)[j - 1]? = some u
        rw [List.getElem?_eraseIdx_of_ge (Nat.le_sub_one_of_lt hlt),
          Nat.sub_add_cancel (Nat.one_le_of_lt hlt), hpart]
      rw [if_pos hlt, Value.at?_cons_of_part? part', hin]
    · exact absurd rfl hne
    · have part' : Value.part? (.array (items.eraseIdx i) unordered) (.index j) = some u := by
        change (items.eraseIdx i)[j]? = some u
        rw [List.getElem?_eraseIdx_of_lt hlt, hpart]
      rw [if_neg (Nat.lt_asymm hlt), Value.at?_cons_of_part? part', hin]

/-! ## Along the walk -/

namespace Removes

variable {p q : Path} {v v' w : Value} {l : Location}

theorem not_blocked (h : Removes p v v') : ¬RemoveBlocked p v := by
  rintro ⟨l, r, w, hwalk, hstuck⟩
  induction h generalizing l with
  | key hk =>
    cases hwalk with
    | here =>
      cases hstuck with
      | missing hmissing => exact hmissing hk
      | plain hplain => exact nomatch hplain
    | step selects part more =>
      cases selects
      cases more.eq_nil.2
      exact nomatch hstuck
  | index hi =>
    cases hwalk with
    | here =>
      cases hstuck with
      | beyond hle => exact Nat.not_lt.mpr hle hi
      | plain hplain => exact nomatch hplain
    | step selects part more =>
      cases selects
      cases more.eq_nil.2
      exact nomatch hstuck
  | step long free rebuilds keeps inner selected ih =>
    cases hwalk with
    | here => exact free hstuck
    | step selects part more =>
      obtain ⟨w', hw'⟩ := keeps.exists_part part
      exact ih _ _ _ w' selects part hw' _ more

theorem cut (h : Removes p v v') {s : Segment} (hwalk : Walks Value.part? p v l [s] w)
    (hlast : Selects [s] w s []) : ∃ w', v'.at? l = some w' ∧ Removes [s] w w' := by
  induction h generalizing l with
  | key hk =>
    cases hwalk with
    | here => exact ⟨_, rfl, .key hk⟩
    | step selects part more =>
      cases selects
      exact absurd more.eq_nil.2 (List.cons_ne_nil s [])
  | index hi =>
    cases hwalk with
    | here => exact ⟨_, rfl, .index hi⟩
    | step selects part more =>
      cases selects
      exact absurd more.eq_nil.2 (List.cons_ne_nil s [])
  | step long free rebuilds keeps inner selected ih =>
    cases hwalk with
    | here => exact absurd rfl (inner _ _ hlast)
    | step selects part more =>
      obtain ⟨u', hu'⟩ := keeps.exists_part part
      obtain ⟨w', hat, hw'⟩ := ih _ _ _ u' selects part hu' more
      exact ⟨w', by rw [Value.at?_cons_of_part? hu', hat], hw'⟩

theorem eq_of_denotes_nothing (h : Removes p v v') (hnone : ∀ d, ¬Denotes p v d) : v' = v := by
  induction h with
  | key hk =>
    obtain ⟨w, part⟩ := Entries.mem_keys_iff_exists.mp hk
    exact absurd ((denotes_nil_nil w).cons .key part) (hnone _)
  | index hi =>
    exact absurd ((denotes_nil_nil _).cons .index (List.getElem?_eq_getElem hi)) (hnone _)
  | @step p v v' long free rebuilds keeps inner selected ih =>
    refine rebuilds.same fun t q selects ↦ ?_
    obtain ⟨w, part⟩ := selects.exists_part free
    obtain ⟨w', part'⟩ := keeps.exists_part part
    have hnone' : ∀ d, ¬Denotes q w d := fun d hd ↦ hnone _ (hd.cons selects part)
    rw [part, part', ih t q w w' selects part part' hnone']

/-- What stands at a place that is not inside of what is removed: it is as it was, where the place
has moved to, or the walk comes through. -/
theorem follow (h : Removes p v v') (hat : v.at? l = some w)
    (hout : ∀ d, Denotes p v d → ¬d <+: l) :
    v'.at? (shift p l) = some w ∨
      ∃ q w', Walks Value.part? p v l q w ∧ v'.at? (shift p l) = some w' ∧ Removes q w w' := by
  induction h generalizing l with
  | @key k entries hk =>
    cases l with
    | nil =>
      cases hat
      exact Or.inr ⟨_, _, .here _ _, by rw [shift_nil]; rfl, .key hk⟩
    | cons t l =>
      refine Or.inl (at?_shift_erase hat ?_)
      rintro rfl
      obtain ⟨u, part, -⟩ := Value.at?_cons_eq_some_iff.mp hat
      exact outside_of_cons .key part hout [] (denotes_nil_nil u) List.nil_prefix
  | @index i items unordered hi =>
    cases l with
    | nil =>
      cases hat
      exact Or.inr ⟨_, _, .here _ _, by rw [shift_nil]; rfl, .index hi⟩
    | cons t l =>
      refine Or.inl (at?_shift_eraseIdx hat ?_)
      rintro rfl
      obtain ⟨u, part, -⟩ := Value.at?_cons_eq_some_iff.mp hat
      exact outside_of_cons .index part hout [] (denotes_nil_nil u) List.nil_prefix
  | @step p v v' long free rebuilds keeps inner selected ih =>
    cases l with
    | nil =>
      cases hat
      exact Or.inr ⟨p, v', .here _ _, by rw [shift_nil]; rfl,
        .step long free rebuilds keeps inner selected⟩
    | cons t l =>
      obtain ⟨u, part, hin⟩ := Value.at?_cons_eq_some_iff.mp hat
      by_cases hselected : ∃ q, Selects p v t q
      · obtain ⟨q, selects⟩ := hselected
        obtain ⟨u', part'⟩ := keeps.exists_part part
        have hout' : ∀ d, Denotes q u d → ¬d <+: l := outside_of_cons selects part hout
        rw [selects.shift_cons (inner t q selects), Value.at?_cons_of_part? part']
        refine (ih t q u u' selects part part' hin hout').imp_right ?_
        rintro ⟨r, z, hwalk, hz, hremoves⟩
        exact ⟨r, z, .step selects part hwalk, hz, hremoves⟩
      · have hnot : ∀ q, ¬Selects p v t q := fun q selects ↦ hselected ⟨q, selects⟩
        left
        rw [shift_cons_of_not_selects part hnot inner, Value.at?_cons_of_part? (w := u) ?_, hin]
        rw [rebuilds.others t hnot, part]

/-- An object that the last segment meets loses the first entry of its key, which is the only one
if it names nothing twice. -/
theorem last_key {k : String} {entries : List (String × Value)}
    (h : Removes [.key k] (.object entries) v') :
    ∃ before y after, entries = before ++ (k, y) :: after ∧ k ∉ Entries.keys before ∧
      v' = .object (before ++ after) ∧
      ((Entries.keys entries).Nodup → k ∉ Entries.keys (before ++ after)) := by
  cases h with
  | step long free rebuilds keeps inner selected => exact absurd rfl (inner _ _ .key)
  | key hk =>
    obtain ⟨y, hy⟩ := Entries.mem_keys_iff_exists.mp hk
    obtain ⟨before, after, hentries, hbefore, herase⟩ := Entries.exists_erase_eq hy
    refine ⟨before, y, after, hentries, hbefore, by rw [herase], fun hnodup ↦ ?_⟩
    rw [← herase, Entries.keys_erase]
    exact hnodup.not_mem_erase

/-- An array that the last segment meets loses one item, and those behind it move down by one. -/
theorem last_index {i : Nat} {items : List Value} {unordered : Bool}
    (h : Removes [.index i] (.array items unordered) v') :
    i < items.length ∧ ∃ items', v' = .array items' unordered ∧
      items'.length + 1 = items.length ∧ (∀ j, j < i → items'[j]? = items[j]?) ∧
      ∀ j, i ≤ j → items'[j]? = items[j + 1]? := by
  cases h with
  | step long free rebuilds keeps inner selected => exact absurd rfl (inner _ _ .index)
  | index hi =>
    refine ⟨hi, items.eraseIdx i, rfl, ?_, fun j hj ↦ List.getElem?_eraseIdx_of_lt hj,
      fun j hj ↦ List.getElem?_eraseIdx_of_ge hj⟩
    rw [List.length_eraseIdx_of_lt hi]
    exact Nat.sub_add_cancel (Nat.one_le_of_lt hi)

theorem array_kept {items : List Value} {unordered : Bool}
    (h : Removes p (.array items unordered) v') : ∃ items', v' = .array items' unordered ∧
      (items'.length = items.length ∨ ∃ i, p = [.index i]) := by
  cases h with
  | index hi => exact ⟨_, rfl, Or.inr ⟨_, rfl⟩⟩
  | step long free rebuilds keeps inner selected =>
    cases keeps with
    | array hlen => exact ⟨_, rfl, Or.inl hlen⟩

theorem object_kept {entries : List (String × Value)} (h : Removes p (.object entries) v') :
    ∃ entries', v' = .object entries' ∧
      (Entries.keys entries' = Entries.keys entries ∨ ∃ k, p = [.key k]) := by
  cases h with
  | key hk => exact ⟨_, rfl, Or.inr ⟨_, rfl⟩⟩
  | step long free rebuilds keeps inner selected =>
    cases keeps with
    | object hkeys => exact ⟨_, rfl, Or.inl hkeys⟩

end Removes

/-! ## The removal as a whole -/

/-- What is to be said of the value `v'` that comes of removing the path `p` from `v`. -/
structure Removed (p : Path) (v v' : Value) : Prop where
  /-- Every object that the walk comes to with a last key loses that key and keeps its other
  entries, in their order. -/
  last_key : ∀ l k entries, Walks Value.part? p v l [.key k] (.object entries) →
    ∃ before y after, entries = before ++ (k, y) :: after ∧ k ∉ Entries.keys before ∧
      v'.at? l = some (.object (before ++ after)) ∧
      ((Entries.keys entries).Nodup → k ∉ Entries.keys (before ++ after))
  /-- Every array that the walk comes to with a last index loses that item. Those before it stay in
  place, and those behind it move down by one. -/
  last_index : ∀ l i items unordered, Walks Value.part? p v l [.index i] (.array items unordered) →
    i < items.length ∧ ∃ items', v'.at? l = some (.array items' unordered) ∧
      items'.length + 1 = items.length ∧ (∀ j, j < i → items'[j]? = items[j]?) ∧
      ∀ j, i ≤ j → items'[j]? = items[j + 1]?
  /-- A place that is neither inside of a removed part nor above one holds what it held. -/
  unchanged : ∀ l y, v.at? l = some y → (∀ d, Denotes p v d → ¬d <+: l ∧ ¬l <+: d) →
    v'.at? (shift p l) = some y
  /-- An array that is not inside of a removed part keeps its order, and it keeps its length unless
  it loses an item. -/
  array_kept : ∀ l items unordered, v.at? l = some (.array items unordered) →
    (∀ d, Denotes p v d → ¬d <+: l) →
    ∃ items', v'.at? (shift p l) = some (.array items' unordered) ∧
      (items'.length = items.length ∨
        ∃ i, Walks Value.part? p v l [.index i] (.array items unordered))
  /-- An object that is not inside of a removed part keeps its keys in their order, unless it loses
  one. -/
  object_kept : ∀ l entries, v.at? l = some (.object entries) →
    (∀ d, Denotes p v d → ¬d <+: l) →
    ∃ entries', v'.at? (shift p l) = some (.object entries') ∧
      (Entries.keys entries' = Entries.keys entries ∨
        ∃ k, Walks Value.part? p v l [.key k] (.object entries))

theorem Removes.removed {p : Path} {v v' : Value} (h : Removes p v v') : Removed p v v' where
  last_key l k entries hwalk := by
    obtain ⟨w', hat, hcut⟩ := h.cut hwalk .key
    obtain ⟨before, y, after, hentries, hbefore, rfl, hnodup⟩ := hcut.last_key
    exact ⟨before, y, after, hentries, hbefore, hat, hnodup⟩
  last_index l i items unordered hwalk := by
    obtain ⟨w', hat, hcut⟩ := h.cut hwalk .index
    obtain ⟨hi, items', rfl, hitems⟩ := hcut.last_index
    exact ⟨hi, items', hat, hitems⟩
  unchanged l y hat hapart := by
    rcases h.follow hat fun d hd ↦ (hapart d hd).1 with hsame | ⟨q, w', hwalk, hat', hremoves⟩
    · exact hsame
    · rw [hat', hremoves.eq_of_denotes_nothing fun d hd ↦
        (hapart _ (hwalk.denotes_append hd)).2 (List.prefix_append l d)]
  array_kept l items unordered hat hout := by
    rcases h.follow hat hout with hsame | ⟨q, w', hwalk, hat', hremoves⟩
    · exact ⟨items, hsame, Or.inl rfl⟩
    · obtain ⟨items', rfl, hlen⟩ := hremoves.array_kept
      refine ⟨items', hat', hlen.imp_right ?_⟩
      rintro ⟨i, rfl⟩
      exact ⟨i, hwalk⟩
  object_kept l entries hat hout := by
    rcases h.follow hat hout with hsame | ⟨q, w', hwalk, hat', hremoves⟩
    · exact ⟨entries, hsame, Or.inl rfl⟩
    · obtain ⟨entries', rfl, hkeys⟩ := hremoves.object_kept
      refine ⟨entries', hat', hkeys.imp_right ?_⟩
      rintro ⟨k, rfl⟩
      exact ⟨k, hwalk⟩

/-- **Removals touch exactly what the path denotes.** A removal fails exactly when its walk gets
stuck, which a key never does at an empty array, and otherwise it cuts out what the path denotes. -/
theorem remove_touches_denoted (v : Value) {p : Path} (hp : p ≠ []) :
    ((∃ e, remove v p = .error e) ↔ RemoveBlocked p v) ∧
      (∀ k rest unordered, p = .key k :: rest → v = .array [] unordered → remove v p = .ok v) ∧
      ∀ v', remove v p = .ok v' → Removed p v v' := by
  refine ⟨?_, ?_, ?_⟩
  · have hsettles := remove_settles hp v
    cases hremove : remove v p with
    | ok v' =>
      rw [hremove] at hsettles
      exact iff_of_false (fun ⟨e, h⟩ ↦ nomatch h) hsettles.not_blocked
    | error e =>
      rw [hremove] at hsettles
      exact iff_of_true ⟨e, rfl⟩ hsettles
  · rintro k rest unordered rfl rfl
    rfl
  · intro v' hremove
    have hsettles := remove_settles hp v
    rw [hremove] at hsettles
    exact hsettles.removed

/-- The second item of an array is taken out, and the third one moves into its place. -/
theorem remove_touches_denoted_second :
    [Segment.key "items", .index 1] ≠ [] ∧
      Removed [.key "items", .index 1]
        (.object [("items", .array [.string "a", .string "b", .string "c"] true)])
        (.object [("items", .array [.string "a", .string "c"] true)]) :=
  ⟨List.cons_ne_nil _ _, (remove_touches_denoted _ (List.cons_ne_nil _ _)).2.2 _ rfl⟩

end DataOutline.Mixin
