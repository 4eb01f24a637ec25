import DataOutline.Proofs.Mixin.Location
import DataOutline.Proofs.Result

/-!
# Additions touch what a path denotes

An addition walks along its path and makes an empty object wherever a key is absent. It fails when
the walk gets stuck, and only then. Where it succeeds, `Adds` says of each value on the way what
becomes of it: the parts that the walk selects are added to, an empty object standing for a part
that is absent; the others stay; and the value itself is of the same kind, with its order kept. From
this everything else follows by induction along the walk.
-/

namespace DataOutline.Mixin

/-! ## Where a walk gets stuck -/

/-- With these segments left an addition cannot go on at a value. -/
inductive AddStuck : Path → Value → Prop
  | number {i : Nat} {rest : Path} {entries : List (String × Value)} :
      AddStuck (.index i :: rest) (.object entries)
  | beyond {i : Nat} {rest : Path} {items : List Value} {unordered : Bool}
      (h : items.length < i) : AddStuck (.index i :: rest) (.array items unordered)
  /-- There is room for an item behind the last one, but nothing to descend into. -/
  | descent {rest : Path} {items : List Value} {unordered : Bool} (h : rest ≠ []) :
      AddStuck (.index items.length :: rest) (.array items unordered)
  | plain {s : Segment} {rest : Path} {v : Value} (h : v.isStructured = false) :
      AddStuck (s :: rest) v

/-- An addition gets stuck somewhere on its walk. -/
def AddBlocked (p : Path) (v : Value) : Prop :=
  ∃ l r w, Walks Value.grown? p v l r w ∧ AddStuck r w

theorem AddStuck.blocked {p : Path} {v : Value} (h : AddStuck p v) : AddBlocked p v :=
  ⟨[], p, v, .here p v, h⟩

theorem AddBlocked.step {p q : Path} {v w : Value} {t : Segment} (selects : Selects p v t q)
    (part : v.grown? t = some w) (h : AddBlocked q w) : AddBlocked p v := by
  obtain ⟨l, r, u, hwalk, hstuck⟩ := h
  exact ⟨t :: l, r, u, .step selects part hwalk, hstuck⟩

/-! ## What an addition does at each value -/

/-- A value of the same kind: an array of the same order that may have one item more, or an object
that may have one key more, behind the others. -/
inductive Grows : Value → Value → Prop
  | array {items items' : List Value} {unordered : Bool}
      (h : items'.length = items.length ∨ items'.length = items.length + 1) :
      Grows (.array items unordered) (.array items' unordered)
  | object {entries entries' : List (String × Value)}
      (h : Entries.keys entries' = Entries.keys entries ∨
        ∃ k, k ∉ Entries.keys entries ∧ Entries.keys entries' = Entries.keys entries ++ [k]) :
      Grows (.object entries) (.object entries')

theorem Grows.sameKind {v v' : Value} (h : Grows v v') : SameKind v v' := by
  cases h with
  | array => exact .array _ _ _
  | object => exact .object _ _

/-- `Adds x p v v'`: with the path `p` left, the addition of `x` makes `v'` out of `v`. -/
inductive Adds (x : Value) : Path → Value → Value → Prop
  | put (v : Value) : Adds x [] v x
  | step {p : Path} {v v' : Value} (long : p ≠ []) (free : ¬AddStuck p v)
      (rebuilds : Rebuilds p v v') (grows : Grows v v')
      (present : ∀ t q, Selects p v t q → ∃ w', v'.part? t = some w')
      (selected : ∀ t q w', Selects p v t q → v'.part? t = some w' →
        Adds x q ((v.part? t).getD (.object [])) w') : Adds x p v v'

variable {x : Value}

theorem Adds.index {i : Nat} {rest : Path} {items : List Value} {y y' : Value} (unordered : Bool)
    (hy : items[i]? = some y) (h : Adds x rest y y') :
    Adds x (.index i :: rest) (.array items unordered) (.array (items.set i y') unordered) := by
  obtain ⟨hi, -⟩ := List.getElem?_eq_some_iff.mp hy
  have hself : (items.set i y')[i]? = some y' := List.getElem?_set_self hi
  refine .step nofun ?_ (rebuilds_set hi rest unordered y') (.array (Or.inl List.length_set)) ?_ ?_
  · rintro (_ | hlt | _ | hplain)
    · exact Nat.lt_asymm hi hlt
    · exact Nat.lt_irrefl _ hi
    · exact nomatch hplain
  · rintro t q ⟨⟩
    exact ⟨y', hself⟩
  · rintro t q w' ⟨⟩ hw'
    cases hself.symm.trans hw'
    change Adds x rest (items[i]?.getD _) y'
    rwa [hy]

theorem Adds.indexBehind (items : List Value) (unordered : Bool) :
    Adds x [.index items.length] (.array items unordered) (.array (items ++ [x]) unordered) := by
  have hself : (items ++ [x])[items.length]? = some x := List.getElem?_concat_length
  refine .step nofun ?_ (rebuilds_append items [] unordered x)
    (.array (Or.inr List.length_append)) ?_ ?_
  · generalize hn : items.length = n
    rintro (_ | hlt | hnil | hplain)
    · exact Nat.lt_irrefl _ (hn ▸ hlt)
    · exact hnil rfl
    · exact nomatch hplain
  · rintro t q ⟨⟩
    exact ⟨x, hself⟩
  · rintro t q w' ⟨⟩ hw'
    cases hself.symm.trans hw'
    exact .put _

theorem Adds.key {k : String} {rest : Path} {entries : List (String × Value)} {y' : Value}
    (h : Adds x rest ((Entries.get? k entries).getD (.object [])) y') :
    Adds x (.key k :: rest) (.object entries) (.object (Entries.insert k y' entries)) := by
  have hself : Entries.get? k (Entries.insert k y' entries) = some y' :=
    Entries.get?_insert_self k y' entries
  refine .step nofun ?_ (rebuilds_insert k rest entries y') (.object ?_) ?_ ?_
  · rintro (_ | _ | _ | hplain)
    exact nomatch hplain
  · rw [Entries.keys_insert]
    split
    · exact Or.inl rfl
    · next hk => exact Or.inr ⟨k, hk, rfl⟩
  · rintro t q ⟨⟩
    exact ⟨y', hself⟩
  · rintro t q w' ⟨⟩ hw'
    cases hself.symm.trans hw'
    exact h

theorem Adds.each {k : String} {rest : Path} {items items' : List Value} (unordered : Bool)
    (h : List.Forall₂ (Adds x (.key k :: rest)) items items') :
    Adds x (.key k :: rest) (.array items unordered) (.array items' unordered) := by
  have hlen : items'.length = items.length := h.length_eq.symm
  refine .step nofun ?_ (rebuilds_each k rest unordered hlen) (.array (Or.inl hlen)) ?_ ?_
  · rintro (_ | _ | _ | hplain)
    exact nomatch hplain
  · rintro t q ⟨⟩
    next j hj => exact ⟨items'[j], List.getElem?_eq_getElem (hlen.symm ▸ hj)⟩
  · rintro t q w' ⟨⟩ hw'
    next j hj =>
      have hpart : items[j]? = some items[j] := List.getElem?_eq_getElem hj
      change Adds x _ (items[j]?.getD _) w'
      rw [hpart]
      exact forall₂_getElem? h hpart hw'

/-! ## What is added, in terms of lists -/

theorem add_nil (v : Value) : add x v [] = .error .emptyPath := by
  cases v <;> rfl

theorem add_plain {v : Value} (h : v.isStructured = false) (s : Segment) (rest : Path) :
    add x v (s :: rest) = .error (.addToNonObject s.text) := by
  cases v with
  | array items unordered | object entries => exact nomatch h
  | _ => rfl

theorem add_entry (x : Value) (k : String) (rest : Path) (entries : Entries Value) :
    add x (.object entries) (.key k :: rest) =
      if rest.isEmpty then .ok (.object (entries.insert k x))
      else if entries.contains k then .object <$> addUnder x entries k rest
      else (fun inner ↦ .object (entries ++ [(k, inner)])) <$> nested x rest := rfl

theorem add_index (x : Value) (i : Nat) (items : List Value) (unordered : Bool) :
    add x (.array items unordered) [.index i] =
      if items.length < i then .error (.addIndexOutOfRange i items.length)
      else .ok (.array (if i = items.length then items ++ [x] else items.set i x) unordered) := rfl

theorem add_item (x : Value) (i : Nat) (s : Segment) (rest : Path) (items : List Value)
    (unordered : Bool) : add x (.array items unordered) (.index i :: s :: rest) =
      if items.length < i then .error (.addIndexOutOfRange i items.length)
      else if i = items.length then .error (.addToNonObject s.text)
      else (.array · unordered) <$> addAt x items i (s :: rest) := rfl

theorem addEach_eq_mapM (items : List Value) (p : Path) :
    addEach x items p = items.mapM (add x · p) := by
  induction items with
  | nil => rfl
  | cons y items ih => rw [addEach, ih, List.mapM_cons]

theorem add_each (k : String) (rest : Path) (items : List Value) (unordered : Bool) :
    add x (.array items unordered) (.key k :: rest) =
      (.array · unordered) <$> items.mapM (add x · (.key k :: rest)) := by
  rw [← addEach_eq_mapM]
  rfl

theorem addAt_eq {items : List Value} {i : Nat} {y : Value} (h : items[i]? = some y) (p : Path) :
    addAt x items i p = (items.set i ·) <$> add x y p :=
  eq_map_set (f := fun items i ↦ addAt x items i p) (g := (add x · p))
    (fun _ _ ↦ rfl) (fun _ _ _ ↦ rfl) h

theorem addUnder_eq {entries : Entries Value} {k : String} {y : Value}
    (h : entries.get? k = some y) (p : Path) :
    addUnder x entries k p = (fun y' ↦ entries.insert k y') <$> add x y p :=
  eq_map_insert (f := fun entries ↦ addUnder x entries k p) (g := (add x · p))
    (fun _ _ _ ↦ rfl) h

/-- The object that is put at an absent key is what is added to an empty one. -/
theorem nested_eq_add (p : Path) : nested x p = add x (.object []) p := by
  cases p with
  | nil => rfl
  | cons s rest =>
    cases s with
    | index i => rfl
    | key k =>
      cases rest with
      | nil => rfl
      | cons s rest => rfl

theorem add_key (x : Value) (entries : Entries Value) (k : String) :
    add x (.object entries) [.key k] = .ok (.object (entries.insert k x)) := rfl

theorem add_key_cons (entries : Entries Value) (k : String) (s : Segment) (rest : Path) :
    add x (.object entries) (.key k :: s :: rest) =
      (fun y' ↦ .object (entries.insert k y')) <$>
        add x ((entries.get? k).getD (.object [])) (s :: rest) := by
  cases hk : entries.get? k with
  | none =>
    rw [add_entry, Entries.contains_of_get?_eq_none hk, Option.getD_none, ← nested_eq_add]
    simp only [List.isEmpty_cons, Bool.false_eq_true, if_false, Entries.insert_of_get?_eq_none hk]
  | some y =>
    rw [add_entry, Entries.contains_of_get?_eq_some hk, addUnder_eq hk, Functor.map_map,
      Option.getD_some]
    rfl

theorem add_index_cons {items : List Value} {i : Nat} {y : Value} (h : items[i]? = some y)
    (unordered : Bool) (s : Segment) (rest : Path) :
    add x (.array items unordered) (.index i :: s :: rest) =
      (fun y' ↦ .array (items.set i y') unordered) <$> add x y (s :: rest) := by
  obtain ⟨hi, -⟩ := List.getElem?_eq_some_iff.mp h
  rw [add_item, if_neg (Nat.lt_asymm hi), if_neg (Nat.ne_of_lt hi), addAt_eq h, Functor.map_map]

theorem add_put {i : Nat} {items : List Value} (h : i < items.length) (unordered : Bool) :
    add x (.array items unordered) [.index i] = .ok (.array (items.set i x) unordered) := by
  rw [add_index, if_neg (Nat.lt_asymm h), if_neg (Nat.ne_of_lt h)]

theorem add_behind (items : List Value) (unordered : Bool) :
    add x (.array items unordered) [.index items.length] =
      .ok (.array (items ++ [x]) unordered) := by
  rw [add_index, if_neg (Nat.lt_irrefl _), if_pos rfl]

theorem add_behind_cons (items : List Value) (unordered : Bool) (s : Segment) (rest : Path) :
    add x (.array items unordered) (.index items.length :: s :: rest) =
      .error (.addToNonObject s.text) := by
  rw [add_item, if_neg (Nat.lt_irrefl _), if_pos rfl]

theorem add_beyond {i : Nat} {items : List Value} (h : items.length < i) (unordered : Bool)
    (rest : Path) : add x (.array items unordered) (.index i :: rest) =
      .error (.addIndexOutOfRange i items.length) := by
  cases rest <;> exact if_pos h

theorem ne_nil_of_add {p : Path} {v v' : Value} (h : add x v p = .ok v') : p ≠ [] := by
  rintro rfl
  cases v <;> cases h

/-! ## Success and failure of an addition -/

/-- **What an addition does.** It does on every value along its walk what `Adds` says, or it gets
stuck. -/
theorem add_settles {p : Path} (hp : p ≠ []) (v : Value) :
    Settles (add x v p) (Adds x p v) (AddBlocked p v) := by
  induction p, v using editInduction with
  | nil v => exact absurd rfl hp
  | plain s rest v hv =>
    rw [add_plain hv]
    exact (AddStuck.plain hv).blocked
  | number i rest entries => exact AddStuck.number.blocked
  | entry k rest entries ih =>
    cases rest with
    | nil =>
      rw [add_key]
      exact .key (.put _)
    | cons s rest =>
      rw [add_key_cons]
      refine (ih _ (List.cons_ne_nil _ _)).map (fun y' hy ↦ .key hy) fun hstuck ↦ ?_
      exact .step .key rfl hstuck
  | each k rest items unordered ih =>
    rw [add_each]
    refine (settles_mapM fun y hy ↦ ih y hy hp).map (fun items' h ↦ .each unordered h) ?_
    rintro ⟨y, hy, hstuck⟩
    obtain ⟨j, hj, rfl⟩ := List.mem_iff_getElem.mp hy
    exact .step (.each hj) (List.getElem?_eq_getElem hj) hstuck
  | item i rest items unordered ih =>
    rcases Nat.lt_trichotomy i items.length with hlt | rfl | hlt
    · have hy : items[i]? = some items[i] := List.getElem?_eq_getElem hlt
      cases rest with
      | nil =>
        rw [add_put hlt]
        exact .index unordered hy (.put _)
      | cons s rest =>
        rw [add_index_cons hy]
        refine (ih _ (List.cons_ne_nil _ _)).map (fun y' h ↦ .index unordered hy h) ?_
        exact fun hstuck ↦ .step .index hy hstuck
    · cases rest with
      | nil =>
        rw [add_behind]
        exact .indexBehind items unordered
      | cons s rest =>
        rw [add_behind_cons]
        exact (AddStuck.descent (List.cons_ne_nil _ _)).blocked
    · rw [add_beyond hlt]
      exact (AddStuck.beyond hlt).blocked

theorem adds_of_add {p : Path} {v v' : Value} (h : add x v p = .ok v') : Adds x p v v' :=
  (add_settles (ne_nil_of_add h) v).of_eq_ok h

/-! ## Along the walk -/

namespace Adds

variable {p q : Path} {v v' w y : Value} {l : Location}

theorem not_blocked (h : Adds x p v v') : ¬AddBlocked p v := by
  rintro ⟨l, r, w, hwalk, hstuck⟩
  induction h generalizing l with
  | put v =>
    cases hwalk.eq_nil.2
    exact nomatch hstuck
  | step long free rebuilds grows present selected ih =>
    cases hwalk with
    | here => exact free hstuck
    | step selects part more =>
      obtain ⟨w', hw'⟩ := present _ _ selects
      rw [Value.grown?_eq_getD part] at more
      exact ih _ _ w' selects hw' _ more

theorem at?_eq (h : Adds x p v v') (hl : Denotes p v' l) : v'.at? l = some x := by
  induction h generalizing l with
  | put v =>
    cases hl.eq_nil
    rfl
  | step long free rebuilds grows present selected ih =>
    cases l with
    | nil => exact absurd rfl (hl.ne_nil long)
    | cons t l =>
      obtain ⟨q, w', selects, part, hl⟩ := denotes_cons_iff.mp hl
      rw [Value.at?_cons_of_part? part]
      exact ih t q w' ((rebuilds.selects_iff grows.sameKind part).mp selects) part hl

theorem denotes (h : Adds x p v v') {s : Segment} (hwalk : Walks Value.grown? p v l [s] w)
    (hlast : Selects [s] w s []) : Denotes p v' (l ++ [s]) := by
  induction h generalizing l with
  | put v => exact absurd hwalk.eq_nil.2 (List.cons_ne_nil s [])
  | step long free rebuilds grows present selected ih =>
    cases hwalk with
    | here =>
      obtain ⟨w', part⟩ := present _ _ hlast
      have hselects := (rebuilds.selects_iff grows.sameKind part).mpr hlast
      exact (denotes_nil_nil w').cons hselects part
    | step selects look more =>
      obtain ⟨w', part⟩ := present _ _ selects
      rw [Value.grown?_eq_getD look] at more
      have hselects := (rebuilds.selects_iff grows.sameKind part).mpr selects
      exact (ih _ _ w' selects part more).cons hselects part

/-- What is made out of an empty object holds one key, unless it is replaced. -/
theorem eq_singleton (h : Adds x q (.object []) w) (hq : q ≠ []) :
    ∃ k z, w = .object [(k, z)] := by
  cases h with
  | put => exact absurd rfl hq
  | step long free rebuilds grows present selected =>
    obtain ⟨s, rest, rfl⟩ := List.exists_cons_of_ne_nil hq
    cases s with
    | index i => exact absurd .number free
    | key k =>
      obtain ⟨w', part⟩ := present _ _ .key
      cases grows with
      | @object _ entries' h =>
        rcases h with h | ⟨k', -, h⟩
        · rw [List.map_eq_nil_iff.mp h] at part
          exact nomatch part
        · obtain ⟨⟨k', z⟩, rfl, rfl⟩ := List.map_eq_singleton_iff.mp h
          exact ⟨k', z, rfl⟩

/-- Through empty objects a path leads to a place: there is no array that it could be lost in. -/
theorem exists_denotes (h : Adds x q (.object []) w) : ∃ d, Denotes q w d := by
  generalize hv : Value.object [] = v at h
  induction h with
  | put v => exact ⟨[], denotes_nil_nil x⟩
  | @step p v v' long free rebuilds grows present selected ih =>
    subst hv
    obtain ⟨s, rest, rfl⟩ := List.exists_cons_of_ne_nil long
    cases s with
    | index i => exact absurd .number free
    | key k =>
      obtain ⟨w', part⟩ := present _ _ .key
      obtain ⟨d, hd⟩ := ih _ _ w' .key part rfl
      exact ⟨_, hd.cons ((rebuilds.selects_iff grows.sameKind part).mpr .key) part⟩

theorem eq_of_denotes_nothing (h : Adds x p v v') (hnone : ∀ d, ¬Denotes p v' d) : v' = v := by
  induction h with
  | put v => exact absurd (denotes_nil_nil x) (hnone [])
  | @step p v v' long free rebuilds grows present selected ih =>
    refine rebuilds.same fun t q selects ↦ ?_
    obtain ⟨w', part⟩ := present t q selects
    have hselects := (rebuilds.selects_iff grows.sameKind part).mpr selects
    have hnone' : ∀ d, ¬Denotes q w' d := fun d hd ↦ hnone _ (hd.cons hselects part)
    have hw := ih t q w' selects part hnone'
    have hadds := selected t q w' selects part
    cases hpart : v.part? t with
    | some w => rw [part, hw, hpart, Option.getD_some]
    | none =>
      -- The part would have been made, and then the path would lead into it.
      rw [hpart, Option.getD_none] at hadds
      obtain ⟨d, hd⟩ := hadds.exists_denotes
      exact absurd hd (hnone' d)

/-- What stands at a place that is not inside of what was put: it is as it was, or the walk comes
through. -/
theorem follow (h : Adds x p v v') (hat : v.at? l = some w)
    (hout : ∀ d, Denotes p v' d → ¬d <+: l) :
    v'.at? l = some w ∨ ∃ q w', q ≠ [] ∧ Walks Value.part? p v' l q w' ∧ Adds x q w w' := by
  induction h generalizing l with
  | put v => exact absurd List.nil_prefix (hout [] (denotes_nil_nil x))
  | @step p v v' long free rebuilds grows present selected ih =>
    cases l with
    | nil =>
      cases hat
      exact Or.inr ⟨p, v', long, .here p v', .step long free rebuilds grows present selected⟩
    | cons t l =>
      obtain ⟨u, hpart, hat⟩ := Value.at?_cons_eq_some_iff.mp hat
      by_cases hselected : ∃ q, Selects p v t q
      · obtain ⟨q, selects⟩ := hselected
        obtain ⟨w', part⟩ := present t q selects
        have hselects := (rebuilds.selects_iff grows.sameKind part).mpr selects
        have hold : ((v.part? t).getD (.object [])).at? l = some w := by
          rw [hpart, Option.getD_some, hat]
        have hout' : ∀ d, Denotes q w' d → ¬d <+: l := outside_of_cons hselects part hout
        rw [Value.at?_cons_of_part? part]
        refine (ih t q w' selects part hold hout').imp_right ?_
        rintro ⟨r, z, hr, hwalk, hadds⟩
        exact ⟨r, z, hr, .step hselects part hwalk, hadds⟩
      · left
        rw [Value.at?_cons_of_part? (w := u) ?_, hat]
        rw [rebuilds.others t fun q selects ↦ hselected ⟨q, selects⟩, hpart]

/-- A place that is new is inside of what was put, or it holds an object that was made on the way,
with the one key that leads on. -/
theorem new (h : Adds x p v v') (hat : v'.at? l = some y) (hnone : v.at? l = none) :
    (∃ d, Denotes p v' d ∧ d <+: l) ∨
      (∃ d, Denotes p v' d ∧ l <+: d) ∧ ∃ k z, y = .object [(k, z)] := by
  induction h generalizing l with
  | put v => exact Or.inl ⟨[], denotes_nil_nil x, List.nil_prefix⟩
  | @step p v v' long free rebuilds grows present selected ih =>
    cases l with
    | nil => exact nomatch hnone
    | cons t l =>
      obtain ⟨w', part, hat⟩ := Value.at?_cons_eq_some_iff.mp hat
      by_cases hselected : ∃ q, Selects p v t q
      · obtain ⟨q, selects⟩ := hselected
        have hselects := (rebuilds.selects_iff grows.sameKind part).mpr selects
        cases hold : ((v.part? t).getD (.object [])).at? l with
        | none =>
          rcases ih t q w' selects part hat hold with ⟨d, hd, hprefix⟩ | ⟨⟨d, hd, hprefix⟩, hy⟩
          · exact Or.inl ⟨_, hd.cons hselects part, List.cons_prefix_cons.mpr ⟨rfl, hprefix⟩⟩
          · exact Or.inr
              ⟨⟨_, hd.cons hselects part, List.cons_prefix_cons.mpr ⟨rfl, hprefix⟩⟩, hy⟩
        | some u =>
          have hadds := selected t q w' selects part
          cases hpart : v.part? t with
          | some w =>
            -- The place was there before.
            rw [hpart, Option.getD_some] at hold
            rw [Value.at?_cons_of_part? hpart, hold] at hnone
            exact nomatch hnone
          | none =>
            -- The part itself is new: it was put, or it was made.
            rw [hpart, Option.getD_none] at hold hadds
            cases Value.eq_nil_of_at?_empty hold
            cases hat
            obtain ⟨d, hd⟩ := hadds.exists_denotes
            by_cases hq : q = []
            · subst hq
              cases hd.eq_nil
              exact Or.inl ⟨_, hd.cons hselects part, List.prefix_refl _⟩
            · exact Or.inr ⟨⟨_, hd.cons hselects part, List.cons_prefix_cons.mpr
                ⟨rfl, List.nil_prefix⟩⟩, hadds.eq_singleton hq⟩
      · have hpart : v.part? t = some w' := by
          rw [← rebuilds.others t fun q selects ↦ hselected ⟨q, selects⟩, part]
        rw [Value.at?_cons_of_part? hpart, hat] at hnone
        exact nomatch hnone

/-- An array on the way keeps its order. It has its items, or one more that was put behind them. -/
theorem array_kept {items : List Value} {unordered : Bool}
    (h : Adds x p (.array items unordered) v') (hp : p ≠ []) :
    ∃ items', v' = .array items' unordered ∧
      (items'.length = items.length ∨
        items'.length = items.length + 1 ∧ Denotes p v' [.index items.length]) := by
  cases h with
  | put => exact absurd rfl hp
  | step long free rebuilds grows present selected =>
    cases grows with
    | @array _ items' _ hlen =>
      refine ⟨items', rfl, hlen.imp_right fun hlen ↦ ⟨hlen, ?_⟩⟩
      have hlast : items.length < items'.length := hlen.symm ▸ Nat.lt_succ_self _
      have part : Value.part? (.array items' unordered) (.index items.length)
          = some items'[items.length] := List.getElem?_eq_getElem hlast
      -- There is an item where there was none, so the walk has selected it. A key selects only the
      -- items that are there, and an index that descends gets stuck; so this is a last index.
      by_cases hselected : ∃ q, Selects p (.array items unordered) (.index items.length) q
      · obtain ⟨q, selects⟩ := hselected
        cases selects with
        | each hlt => exact absurd hlt (Nat.lt_irrefl _)
        | index =>
          have hq : q = [] := by
            by_contra hq
            exact free (.descent hq)
          subst hq
          exact (denotes_nil_nil _).cons .index part
      · have hothers := rebuilds.others (.index items.length) fun q selects ↦
          hselected ⟨q, selects⟩
        rw [part] at hothers
        exact nomatch hothers.trans (List.getElem?_eq_none (Nat.le_refl _))

/-- An object on the way keeps its keys in their order. A new key stands behind them. -/
theorem object_kept {entries : List (String × Value)} (h : Adds x p (.object entries) v')
    (hp : p ≠ []) : ∃ entries', v' = .object entries' ∧
      (Entries.keys entries' = Entries.keys entries ∨
        ∃ k, k ∉ Entries.keys entries ∧ Entries.keys entries' = Entries.keys entries ++ [k]) := by
  cases h with
  | put => exact absurd rfl hp
  | step long free rebuilds grows present selected =>
    cases grows with
    | @object _ entries' hkeys => exact ⟨entries', rfl, hkeys⟩

end Adds

/-! ## The addition as a whole -/

/-- What is to be said of the value `v'` that comes of adding `x` to `v` at the path `p`. -/
structure Added (x : Value) (p : Path) (v v' : Value) : Prop where
  /-- Every place that the path denotes holds what was added. -/
  holds : ∀ l, Denotes p v' l → v'.at? l = some x
  /-- The path denotes every place that its walk, making objects, comes to with its last step. -/
  reached : ∀ l s w, Walks Value.grown? p v l [s] w → Selects [s] w s [] → Denotes p v' (l ++ [s])
  /-- A place that is neither above nor inside of one of these holds what it held. -/
  unchanged : ∀ l y, v.at? l = some y → (∀ d, Denotes p v' d → ¬d <+: l ∧ ¬l <+: d) →
    v'.at? l = some y
  /-- A place that is new is inside of what was added, or holds an object that was made on the way
  and has nothing in it but the one key that leads on. -/
  new : ∀ l y, v'.at? l = some y → v.at? l = none →
    (∃ d, Denotes p v' d ∧ d <+: l) ∨
      (∃ d, Denotes p v' d ∧ l <+: d) ∧ ∃ k z, y = .object [(k, z)]
  /-- An array that was not replaced keeps its order, and its length unless an item was put behind
  its last one. -/
  array_kept : ∀ l items unordered, v.at? l = some (.array items unordered) →
    (∀ d, Denotes p v' d → ¬d <+: l) → ∃ items', v'.at? l = some (.array items' unordered) ∧
      (items'.length = items.length ∨
        items'.length = items.length + 1 ∧ Denotes p v' (l ++ [.index items.length]))
  /-- An object that was not replaced keeps its keys in their order, a new one going last. -/
  object_kept : ∀ l entries, v.at? l = some (.object entries) →
    (∀ d, Denotes p v' d → ¬d <+: l) → ∃ entries', v'.at? l = some (.object entries') ∧
      (Entries.keys entries' = Entries.keys entries ∨
        ∃ k, k ∉ Entries.keys entries ∧ Entries.keys entries' = Entries.keys entries ++ [k])

theorem Adds.added {p : Path} {v v' : Value} (h : Adds x p v v') : Added x p v v' where
  holds _ hl := h.at?_eq hl
  reached _ _ _ hwalk hlast := h.denotes hwalk hlast
  unchanged l y hat hapart := by
    rcases h.follow hat fun d hd ↦ (hapart d hd).1 with hsame | ⟨q, w', -, hwalk, hadds⟩
    · exact hsame
    · rw [hwalk.at?_eq, hadds.eq_of_denotes_nothing fun d hd ↦
        (hapart _ (hwalk.denotes_append hd)).2 (List.prefix_append l d)]
  new _ _ hat hnone := h.new hat hnone
  array_kept l items unordered hat hout := by
    rcases h.follow hat hout with hsame | ⟨q, w', hq, hwalk, hadds⟩
    · exact ⟨items, hsame, Or.inl rfl⟩
    · obtain ⟨items', rfl, hlen⟩ := hadds.array_kept hq
      exact ⟨items', hwalk.at?_eq, hlen.imp_right fun h ↦ ⟨h.1, hwalk.denotes_append h.2⟩⟩
  object_kept l entries hat hout := by
    rcases h.follow hat hout with hsame | ⟨q, w', hq, hwalk, hadds⟩
    · exact ⟨entries, hsame, Or.inl rfl⟩
    · obtain ⟨entries', rfl, hkeys⟩ := hadds.object_kept hq
      exact ⟨entries', hwalk.at?_eq, hkeys⟩

/-- **Additions touch exactly what the path denotes.** An addition fails exactly when its walk gets
stuck, and otherwise it changes the places that the path denotes, and what is needed on the way. -/
theorem add_touches_denoted (x v : Value) {p : Path} (hp : p ≠ []) :
    ((∃ e, add x v p = .error e) ↔ AddBlocked p v) ∧
      ∀ v', add x v p = .ok v' → Added x p v v' := by
  have hsettles := add_settles (x := x) hp v
  cases hadd : add x v p with
  | ok v' =>
    rw [hadd] at hsettles
    refine ⟨iff_of_false (fun ⟨e, h⟩ ↦ nomatch h) hsettles.not_blocked, ?_⟩
    rintro _ ⟨⟩
    exact hsettles.added
  | error e =>
    rw [hadd] at hsettles
    exact ⟨iff_of_true ⟨e, rfl⟩ hsettles, fun _ h ↦ nomatch h⟩

/-- A key that is put in every item of an array. -/
theorem add_touches_denoted_items :
    [Segment.key "items", .key "ok"] ≠ [] ∧
      Added (.boolean true) [.key "items", .key "ok"]
        (.object [("items", .array [.object [("name", .string "a")], .object []] true)])
        (.object [("items", .array [.object [("name", .string "a"), ("ok", .boolean true)],
          .object [("ok", .boolean true)]] true)]) :=
  ⟨List.cons_ne_nil _ _, (add_touches_denoted _ _ (List.cons_ne_nil _ _)).2 _ rfl⟩

end DataOutline.Mixin
