import DataOutline.Proofs.Mixin.Addition
import DataOutline.Proofs.Mixin.Removal
import DataOutline.Proofs.Program.Meaning

/-!
# Independent patches in any order

Two paths that part at two keys of one object are independent. They may go through the same arrays,
where both are applied to every item, and through the same objects, which either of them may have to
make; but what one finds on its way does not depend on whether the other came first. Removals and
additions have this in common, so it is said once, of an `Edit`. Independent removals in any order
give one value. Independent additions may put new keys behind the others, and these stand in the
order of the additions; in nothing else do their results differ.
-/

namespace DataOutline

open Mixin (Segment Path)

/-! ## The order of keys -/

/-- Two values that differ at most in the order of the keys of objects. What an object holds at a
key is what is read there, so if a key stood twice, its first entry would count. -/
inductive Value.Reorders : Value → Value → Prop
  | plain {v : Value} (h : v.isStructured = false) : Reorders v v
  | array {items items' : List Value} (unordered : Bool) (h : List.Forall₂ Reorders items items') :
      Reorders (.array items unordered) (.array items' unordered)
  | object {entries entries' : List (String × Value)}
      (keys : (Entries.keys entries).Perm (Entries.keys entries'))
      (values : ∀ k v v', Entries.get? k entries = some v → Entries.get? k entries' = some v' →
        Reorders v v') : Reorders (.object entries) (.object entries')

namespace Value.Reorders

variable {v v' v'' : Value} {entries entries' : List (String × Value)} {k : String}

theorem refl (v : Value) : v.Reorders v := by
  induction v using Value.induction with
  | plain v hv => exact .plain hv
  | array items unordered ih => exact .array unordered (List.forall₂_same.mpr ih)
  | object entries ih =>
    refine .object (List.Perm.refl _) fun k v v' hv hv' ↦ ?_
    cases hv.symm.trans hv'
    exact ih _ (Entries.mem_of_get?_eq_some hv)

theorem get?_rel (h : Reorders (.object entries) (.object entries')) (k : String) :
    (Entries.get? k entries = none ∧ Entries.get? k entries' = none) ∨
      ∃ v v', Entries.get? k entries = some v ∧ Entries.get? k entries' = some v' ∧
        Reorders v v' := by
  cases h with
  | plain h => exact nomatch h
  | object keys values =>
    by_cases hk : k ∈ Entries.keys entries
    · obtain ⟨v, hv⟩ := Entries.mem_keys_iff_exists.mp hk
      obtain ⟨v', hv'⟩ := Entries.mem_keys_iff_exists.mp (keys.mem_iff.mp hk)
      exact Or.inr ⟨v, v', hv, hv', values k v v' hv hv'⟩
    · have hk' : k ∉ Entries.keys entries' := fun hk' ↦ hk (keys.mem_iff.mpr hk')
      rw [Entries.mem_keys_iff, Option.not_isSome_iff_eq_none] at hk hk'
      exact Or.inl ⟨hk, hk'⟩

theorem keys_perm (h : Reorders (.object entries) (.object entries')) :
    (Entries.keys entries).Perm (Entries.keys entries') := by
  cases h with
  | plain h => exact nomatch h
  | object keys values => exact keys

theorem trans (h : v.Reorders v') (h' : v'.Reorders v'') : v.Reorders v'' := by
  induction v using Value.induction generalizing v' v'' with
  | plain v hv =>
    cases h with
    | plain => exact h'
    | array | object => exact nomatch hv
  | array items unordered ih =>
    cases h with
    | plain h => exact nomatch h
    | array _ h =>
      cases h' with
      | plain h => exact nomatch h
      | array _ h' =>
        refine .array unordered (forall₂_trans ?_ h h')
        exact fun x hx _ _ ↦ ih x hx
  | object entries ih =>
    cases h with
    | plain h => exact nomatch h
    | @object _ entries' keys values =>
      cases h' with
      | plain h => exact nomatch h
      | @object _ entries'' keys' values' =>
        refine .object (keys.trans keys') fun k v v'' hv hv'' ↦ ?_
        have hk : k ∈ Entries.keys entries' :=
          keys'.mem_iff.mpr (Entries.mem_keys_iff_exists.mpr ⟨v'', hv''⟩)
        obtain ⟨v', hv'⟩ := Entries.mem_keys_iff_exists.mp hk
        exact ih _ (Entries.mem_of_get?_eq_some hv) (values k v v' hv hv')
          (values' k v' v'' hv' hv'')

theorem of_get?_eq (keys : (Entries.keys entries).Perm (Entries.keys entries'))
    (values : ∀ k, Entries.get? k entries = Entries.get? k entries') :
    Reorders (.object entries) (.object entries') := by
  refine .object keys fun k v v' hv hv' ↦ ?_
  rw [values, hv'] at hv
  cases hv
  exact refl v

theorem insert (h : Reorders (.object entries) (.object entries')) (k : String)
    (hv : v.Reorders v') :
    Reorders (.object (Entries.insert k v entries)) (.object (Entries.insert k v' entries')) := by
  refine .object ?_ fun k' w w' hw hw' ↦ ?_
  · simp only [Entries.keys_insert, h.keys_perm.mem_iff]
    split
    · exact h.keys_perm
    · exact h.keys_perm.append_right [k]
  · by_cases hk : k' = k
    · subst hk
      rw [Entries.get?_insert_self] at hw hw'
      cases hw
      cases hw'
      exact hv
    · rw [Entries.get?_insert_of_ne _ _ hk] at hw hw'
      rcases h.get?_rel k' with ⟨hnone, -⟩ | ⟨u, u', hu, hu', hrel⟩
      · exact nomatch hnone.symm.trans hw
      · cases hu.symm.trans hw
        cases hu'.symm.trans hw'
        exact hrel

end Value.Reorders

namespace Mixin

open Value (Reorders)

/-! ## Edits -/

/-- What removals and additions have in common, the paths being given. A key at an array goes to
every item, and at an object to what is there; an index goes to one item. -/
structure Edit where
  run : Path → Value → Except MixinError Value
  /-- The value of a key that the edit goes on in. -/
  enter : String → Option Value → Except MixinError Value
  /-- What the last key of a path has afterwards. -/
  leave : String → Option Value → Except MixinError (Option Value)
  enter_some : ∀ k v, enter k (some v) = .ok v
  each : ∀ k rest items unordered, run (.key k :: rest) (.array items unordered) =
    (.array · unordered) <$> items.mapM (run (.key k :: rest))
  item : ∀ {items : List Value} {i : Nat} {y : Value} {rest : Path} unordered, rest ≠ [] →
    items[i]? = some y → run (.index i :: rest) (.array items unordered) =
      (fun y' ↦ .array (items.set i y') unordered) <$> run rest y
  beyond : ∀ {items : List Value} {i : Nat} {rest : Path} unordered, rest ≠ [] →
    items[i]? = none → ∃ e, run (.index i :: rest) (.array items unordered) = .error e
  entry : ∀ k {rest : Path} (entries : Entries Value), rest ≠ [] →
    run (.key k :: rest) (.object entries) =
      (fun y ↦ .object (entries.insert k y)) <$> (enter k (entries.get? k) >>= run rest)
  last : ∀ k (entries : Entries Value), run [.key k] (.object entries) =
    (fun part ↦ .object (entries.write k part)) <$> leave k (entries.get? k)
  number : ∀ i rest entries, ∃ e, run (.index i :: rest) (.object entries) = .error e
  plain : ∀ s rest {v : Value}, v.isStructured = false → ∃ e, run (s :: rest) v = .error e

namespace Edit

variable (E F : Edit)

/-- What a key of an object has afterwards. -/
def atKey (k : String) : Path → Option Value → Except MixinError (Option Value)
  | [], part => E.leave k part
  | s :: rest, part => some <$> (E.enter k part >>= E.run (s :: rest))

theorem run_object (k : String) (rest : Path) (entries : Entries Value) :
    E.run (.key k :: rest) (.object entries) =
      (fun part ↦ .object (entries.write k part)) <$> E.atKey k rest (entries.get? k) := by
  cases rest with
  | nil => exact E.last k entries
  | cons s rest =>
    rw [E.entry k entries (List.cons_ne_nil _ _), atKey, Functor.map_map]
    rfl

theorem run_present {k : String} {rest : Path} {entries : Entries Value} {y : Value}
    (hrest : rest ≠ []) (hy : entries.get? k = some y) :
    E.run (.key k :: rest) (.object entries) =
      (fun y' ↦ .object (entries.insert k y')) <$> E.run rest y := by
  rw [E.entry k entries hrest, hy, E.enter_some]
  rfl

/-! ### One edit after another -/

/-- A relation that values keep when related parts are put into them. -/
structure Respected (R : Value → Value → Prop) : Prop where
  refl : ∀ v, R v v
  array : ∀ {items items'} unordered, List.Forall₂ R items items' →
    R (.array items unordered) (.array items' unordered)
  entry : ∀ k entries {v v'}, R v v' →
    R (.object (Entries.insert k v entries)) (.object (Entries.insert k v' entries))

theorem Respected.item {R : Value → Value → Prop} (h : Respected R) (items : List Value) (i : Nat)
    (unordered : Bool) {v v' : Value} (hv : R v v') :
    R (.array (items.set i v) unordered) (.array (items.set i v') unordered) := by
  exact h.array unordered (forall₂_set (List.forall₂_same.mpr fun y _ ↦ h.refl y) i hv)

variable {E F : Edit} {p q : Path}

theorem each_each (k l : String) (r s : Path) (items : List Value) (unordered : Bool) :
    (E.run (.key k :: r) (.array items unordered) >>= F.run (.key l :: s)) =
      (.array · unordered) <$>
        (items.mapM (E.run (.key k :: r)) >>= fun xs ↦ xs.mapM (F.run (.key l :: s))) := by
  rw [E.each]
  cases items.mapM (E.run (.key k :: r)) with
  | error e => rfl
  | ok xs => exact F.each l s xs unordered

theorem item_item {items : List Value} {i : Nat} {y : Value} (hy : items[i]? = some y)
    (unordered : Bool) (hp : p ≠ []) (hq : q ≠ []) :
    (E.run (.index i :: p) (.array items unordered) >>= F.run (.index i :: q)) =
      (fun y' ↦ .array (items.set i y') unordered) <$> (E.run p y >>= F.run q) := by
  obtain ⟨hi, -⟩ := List.getElem?_eq_some_iff.mp hy
  rw [E.item unordered hp hy]
  cases E.run p y with
  | error e => rfl
  | ok y' =>
    have hself : (items.set i y')[i]? = some y' := List.getElem?_set_self hi
    change F.run _ _ = _ <$> F.run q y'
    rw [F.item unordered hq hself]
    simp only [List.set_set]

theorem entry_entry (k : String) (entries : Entries Value) (hp : p ≠ []) (hq : q ≠ []) :
    (E.run (.key k :: p) (.object entries) >>= F.run (.key k :: q)) =
      (fun y ↦ .object (entries.insert k y)) <$>
        (E.enter k (entries.get? k) >>= fun y ↦ E.run p y >>= F.run q) := by
  rw [E.entry k entries hp]
  cases E.enter k (entries.get? k) with
  | error e => rfl
  | ok y =>
    change (_ <$> E.run p y >>= _) = _ <$> (E.run p y >>= F.run q)
    cases E.run p y with
    | error e => rfl
    | ok y' =>
      change F.run _ _ = _ <$> F.run q y'
      rw [F.entry k _ hq, Entries.get?_insert_self, F.enter_some]
      simp only [Entries.insert_insert_self, ok_bind]

/-- What an edit finds at one key does not depend on what another one has left at another. -/
theorem entry_other {k l : String} (hne : l ≠ k) (r s : Path) (entries : Entries Value) :
    (E.run (.key k :: r) (.object entries) >>= F.run (.key l :: s)) =
      E.atKey k r (entries.get? k) >>= fun part ↦
        (fun part' ↦ .object ((entries.write k part).write l part')) <$>
          F.atKey l s (entries.get? l) := by
  rw [E.run_object]
  cases E.atKey k r (entries.get? k) with
  | error e => rfl
  | ok part =>
    change F.run _ _ = _
    rw [F.run_object, Entries.get?_write_of_ne hne]
    rfl

section Commuting

variable {R : Value → Value → Prop} (hR : Respected R)
include hR

theorem each_comm {k l : String} {r s : Path} {items : List Value} (unordered : Bool)
    (h : ∀ x ∈ items, Agree R (E.run (.key k :: r) x >>= F.run (.key l :: s))
      (F.run (.key l :: s) x >>= E.run (.key k :: r))) :
    Agree R (E.run (.key k :: r) (.array items unordered) >>= F.run (.key l :: s))
      (F.run (.key l :: s) (.array items unordered) >>= E.run (.key k :: r)) := by
  have hitems := Agree.mapM (List.forall₂_same.mpr h)
  have hboth : Agree (List.Forall₂ R)
      (items.mapM (E.run (.key k :: r)) >>= fun xs ↦ xs.mapM (F.run (.key l :: s)))
      (items.mapM (F.run (.key l :: s)) >>= fun xs ↦ xs.mapM (E.run (.key k :: r))) := by
    refine (Agree.mapM_mapM _ _ items).trans (fun _ _ _ h h' ↦ h ▸ h') ?_
    exact hitems.trans (fun _ _ _ h h' ↦ h' ▸ h) (Agree.mapM_mapM _ _ items).symm
  rw [each_each, each_each]
  exact hboth.map fun _ _ ↦ hR.array unordered

/-- **Edits at independent paths commute.** Where they part, what each of them leaves at its key is
put into the object; that this may happen in either order is asked for. -/
theorem run_comm (enter : E.enter = F.enter) {k l : String} (hne : k ≠ l) {r s : Path}
    (parting : ∀ entries part part', E.atKey k r (Entries.get? k entries) = .ok part →
      F.atKey l s (Entries.get? l entries) = .ok part' →
      R (.object ((Entries.write k part entries).write l part'))
        (.object ((Entries.write l part' entries).write k part)))
    (common : Path) (v : Value) :
    Agree R (E.run (common ++ .key k :: r) v >>= F.run (common ++ .key l :: s))
      (F.run (common ++ .key l :: s) v >>= E.run (common ++ .key k :: r)) := by
  have hfails : ∀ {G H : Edit} {p q : Path} {w : Value}, (∃ e, G.run p w = .error e) →
      ∃ e, (G.run p w >>= H.run q) = .error e := by
    rintro G H p q w ⟨e, he⟩
    exact ⟨e, by rw [he]; rfl⟩
  induction common generalizing v with
  | nil =>
    induction v using Value.induction with
    | plain v hv => exact .of_fails (hfails (E.plain _ _ hv)) (hfails (F.plain _ _ hv))
    | array items unordered ih => exact each_comm hR unordered ih
    | object entries _ =>
      rw [List.nil_append, List.nil_append, entry_other hne.symm, entry_other hne]
      cases hpart : E.atKey k r (Entries.get? k entries) with
      | error e =>
        refine .of_fails ⟨e, rfl⟩ ?_
        cases F.atKey l s (Entries.get? l entries) with
        | error e' => exact ⟨e', rfl⟩
        | ok part' => exact ⟨e, rfl⟩
      | ok part =>
        cases hpart' : F.atKey l s (Entries.get? l entries) with
        | error e => exact .failed e e
        | ok part' => exact .ok (parting entries part part' hpart hpart')
  | cons t common ih =>
    have hp : common ++ .key k :: r ≠ [] := by simp
    have hq : common ++ .key l :: s ≠ [] := by simp
    simp only [List.cons_append]
    induction v using Value.induction with
    | plain v hv => exact .of_fails (hfails (E.plain _ _ hv)) (hfails (F.plain _ _ hv))
    | array items unordered ihv =>
      cases t with
      | key c => exact each_comm hR unordered ihv
      | index i =>
        cases hy : items[i]? with
        | none =>
          exact .of_fails (hfails (E.beyond unordered hp hy)) (hfails (F.beyond unordered hq hy))
        | some y =>
          rw [item_item hy unordered hp hq, item_item hy unordered hq hp]
          exact (ih y).map fun _ _ ↦ hR.item items i unordered
    | object entries _ =>
      cases t with
      | index i => exact .of_fails (hfails (E.number _ _ _)) (hfails (F.number _ _ _))
      | key c =>
        rw [entry_entry c entries hp hq, entry_entry c entries hq hp, enter]
        refine Agree.map (R := R) ?_ fun _ _ ↦ hR.entry c entries
        refine (Agree.refl (R := Eq) (fun _ ↦ rfl) _).bind ?_
        rintro y _ rfl
        exact ih y

end Commuting

/-! ### Removals and additions -/

def removal : Edit where
  run p v := remove v p
  enter k
    | some v => .ok v
    | none => .error (.missingKey k)
  leave k
    | some _ => .ok none
    | none => .error (.missingKey k)
  enter_some _ _ := rfl
  each := remove_each
  item unordered hrest hy := by
    obtain ⟨s, rest, rfl⟩ := List.exists_cons_of_ne_nil hrest
    exact remove_index_cons hy unordered s rest
  beyond unordered _ hnone := ⟨_, remove_beyond hnone unordered _⟩
  entry k rest entries hrest := by
    obtain ⟨s, rest, rfl⟩ := List.exists_cons_of_ne_nil hrest
    cases hk : Entries.get? k entries with
    | some y => exact remove_key_cons hk s rest
    | none => exact remove_missing hk (s :: rest)
  last k entries := by
    cases hk : Entries.get? k entries with
    | some y => exact remove_key hk
    | none => exact remove_missing hk []
  number i rest entries := ⟨_, rfl⟩
  plain s rest v hv := ⟨_, remove_plain hv s rest⟩

def addition (x : Value) : Edit where
  run p v := add x v p
  enter _ part := .ok (part.getD (.object []))
  leave _ _ := .ok (some x)
  enter_some _ _ := rfl
  each := add_each
  item unordered hrest hy := by
    obtain ⟨s, rest, rfl⟩ := List.exists_cons_of_ne_nil hrest
    exact add_index_cons hy unordered s rest
  beyond {items i rest} unordered hrest hnone := by
    obtain ⟨s, rest, rfl⟩ := List.exists_cons_of_ne_nil hrest
    rcases Nat.eq_or_lt_of_le (List.getElem?_eq_none_iff.mp hnone) with rfl | hlt
    · exact ⟨_, add_behind_cons items unordered s rest⟩
    · exact ⟨_, add_beyond hlt unordered _⟩
  entry k rest entries hrest := by
    obtain ⟨s, rest, rfl⟩ := List.exists_cons_of_ne_nil hrest
    exact add_key_cons entries k s rest
  last k entries := rfl
  number i rest entries := ⟨_, rfl⟩
  plain s rest v hv := ⟨_, add_plain hv s rest⟩

theorem mem_keys_of_removal {k : String} {r : Path} {entries : Entries Value}
    {part : Option Value} (h : removal.atKey k r (entries.get? k) = .ok part) :
    k ∈ Entries.keys entries := by
  rw [Entries.mem_keys_iff, Option.isSome_iff_ne_none]
  intro hnone
  rw [hnone] at h
  cases r with
  | nil => exact nomatch h
  | cons s r => exact nomatch h

theorem isSome_of_addition {x : Value} {k : String} {r : Path} {present part : Option Value}
    (h : (addition x).atKey k r present = .ok part) : ∃ y, part = some y := by
  cases r with
  | nil =>
    cases h
    exact ⟨x, rfl⟩
  | cons s r =>
    obtain ⟨y, -, rfl⟩ := map_eq_ok_iff.mp h
    exact ⟨y, rfl⟩

end Edit

/-- An addition to a value in which keys stand in another order: what comes out differs in this
again. -/
theorem add_congr (x : Value) (p : Path) {v v' : Value} (h : v.Reorders v') :
    Agree Reorders (add x v p) (add x v' p) := by
  induction p, v using editInduction generalizing v' with
  | nil v =>
    rw [add_nil, add_nil]
    exact .failed _ _
  | plain s rest v hv =>
    cases h with
    | plain => exact .refl Reorders.refl _
    | array | object => exact nomatch hv
  | number i rest entries =>
    cases h with
    | plain h => exact nomatch h
    | object => exact .failed _ _
  | entry k rest entries ih =>
    cases h with
    | plain h => exact nomatch h
    | @object _ entries' keys values =>
      have hobject : Reorders (.object entries) (.object entries') := .object keys values
      cases rest with
      | nil => exact .ok (hobject.insert k (.refl x))
      | cons s rest =>
        rw [add_key_cons, add_key_cons]
        refine Agree.map (R := Reorders) ?_ fun _ _ ↦ hobject.insert k
        rcases hobject.get?_rel k with ⟨hnone, hnone'⟩ | ⟨w, w', hw, hw', hrel⟩
        · rw [hnone, hnone']
          exact ih _ (.refl _)
        · rw [hw, hw']
          exact ih _ hrel
  | each k rest items unordered ih =>
    cases h with
    | plain h => exact nomatch h
    | @array _ items' _ hitems =>
      rw [add_each, add_each]
      have heach := ((List.forall₂_and_left _ _).mpr ⟨fun _ ↦ id, hitems⟩).imp
        fun _ _ h ↦ ih _ h.1 h.2
      exact (Agree.mapM heach).map fun _ _ ↦ .array unordered
  | item i rest items unordered ih =>
    cases h with
    | plain h => exact nomatch h
    | @array _ items' _ hitems =>
      have hlen : items.length = items'.length := hitems.length_eq
      cases rest with
      | nil =>
        rw [add_index, add_index, ← hlen]
        split
        · exact .failed _ _
        · refine .ok (.array unordered ?_)
          split
          · exact List.rel_append hitems (.cons (.refl x) .nil)
          · exact forall₂_set hitems i (.refl x)
      | cons s rest =>
        rcases forall₂_getElem?_cases hitems i with ⟨hnone, hnone'⟩ | ⟨w, w', hw, hw', hrel⟩
        · exact .of_fails ((Edit.addition x).beyond unordered (List.cons_ne_nil _ _) hnone)
            ((Edit.addition x).beyond unordered (List.cons_ne_nil _ _) hnone')
        · rw [add_index_cons hw, add_index_cons hw']
          refine (ih _ hrel).map fun _ _ h ↦ ?_
          exact .array unordered (forall₂_set hitems i h)

/-! ## Independent paths -/

/-- Two paths go the same way up to two different keys. -/
def Independent (p q : Path) : Prop :=
  ∃ common k l r s, k ≠ l ∧ p = common ++ .key k :: r ∧ q = common ++ .key l :: s

theorem Independent.symm {p q : Path} (h : Independent p q) : Independent q p := by
  obtain ⟨common, k, l, r, s, hne, hp, hq⟩ := h
  exact ⟨common, l, k, s, r, hne.symm, hq, hp⟩

/-- Two independent removals give the same value in either order, or both orders fail. -/
theorem remove_comm {p q : Path} (h : Independent p q) (v : Value) :
    Agree Eq (remove v p >>= (remove · q)) (remove v q >>= (remove · p)) := by
  obtain ⟨common, k, l, r, s, hne, rfl, rfl⟩ := h
  refine Edit.run_comm (E := .removal) (F := .removal) ⟨fun _ ↦ rfl, ?_, ?_⟩ rfl hne ?_ common v
  · intro items items' unordered h
    rw [List.forall₂_eq_eq_eq] at h
    rw [h]
  · rintro k entries v _ rfl
    rfl
  · intro entries part part' hpart hpart'
    rw [Entries.write_write_comm hne part' (Edit.mem_keys_of_removal hpart)]

/-- Two independent additions give the same value in either order, but for the order of keys, or
both orders fail. -/
theorem add_comm {p q : Path} (h : Independent p q) (x y : Value) (v : Value) :
    Agree Reorders (add x v p >>= (add y · q)) (add y v q >>= (add x · p)) := by
  obtain ⟨common, k, l, r, s, hne, rfl, rfl⟩ := h
  have hrespected : Edit.Respected Reorders :=
    ⟨.refl, .array, fun k entries _ _ ↦ (Reorders.refl (.object entries)).insert k⟩
  refine Edit.run_comm (E := .addition x) (F := .addition y) hrespected rfl hne ?_ common v
  intro entries part part' hpart hpart'
  obtain ⟨z, rfl⟩ := Edit.isSome_of_addition hpart
  obtain ⟨z', rfl⟩ := Edit.isSome_of_addition hpart'
  refine .of_get?_eq (Entries.keys_insert_insert_perm hne.symm z' z entries) fun name ↦ ?_
  by_cases hk : name = k
  · subst hk
    simp [Entries.write, Entries.get?_insert_of_ne _ _ hne]
  · by_cases hl : name = l
    · subst hl
      simp [Entries.write, Entries.get?_insert_of_ne _ _ hne.symm]
    · simp [Entries.write, Entries.get?_insert_of_ne _ _ hk, Entries.get?_insert_of_ne _ _ hl]

/-- Patches in two orders: what comes out is related, or nothing does. -/
theorem apply_agree {R : Value → Value → Prop} {base : Value} {removals removals' : List Path}
    {additions additions' : List (Path × Value)}
    (h : Agree R (removals.foldlM remove base >>= additions.foldlM fun v a ↦ add a.2 v a.1)
      (removals'.foldlM remove base >>= additions'.foldlM fun v a ↦ add a.2 v a.1)) :
    Agree R (apply base removals additions) (apply base removals' additions') := by
  rw [apply_eq, apply_eq]
  by_cases hbase : base.isStructured = true
  · rw [if_pos hbase, if_pos hbase]
    exact h
  · rw [if_neg hbase, if_neg hbase]
    exact .failed _ _

/-- If the results of all orders of a list are related, they all exist or none does. -/
theorem fails_or_related {ι ε α : Type} {R : α → α → Prop} {f : List ι → Except ε α} {is : List ι}
    (h : ∀ order order', order.Perm is → order'.Perm is → Agree R (f order) (f order')) :
    (∀ order, order.Perm is → ∃ e, f order = .error e) ∨
      ∀ order order', order.Perm is → order'.Perm is →
        ∃ a a', f order = .ok a ∧ f order' = .ok a' ∧ R a a' := by
  cases hfirst : f is with
  | error e =>
    left
    intro order horder
    have hagree := h order is horder (List.Perm.refl is)
    rw [hfirst] at hagree
    cases hresult : f order with
    | error e' => exact ⟨e', rfl⟩
    | ok a =>
      rw [hresult] at hagree
      exact nomatch hagree
  | ok b =>
    right
    intro order order' horder horder'
    have hagree := h order order' horder horder'
    have hsame := h order is horder (List.Perm.refl is)
    rw [hfirst] at hsame
    generalize f order = r, f order' = r' at hagree hsame
    cases hsame with
    | ok =>
      cases hagree with
      | ok hR => exact ⟨_, _, rfl, rfl, hR⟩

theorem removals_agree {removals order : List Path} (perm : removals.Perm order)
    (h : removals.Pairwise Independent) (base : Value) :
    Agree Eq (apply base removals []) (apply base order []) := by
  have hfold := Agree.foldlM_perm (k := fun p v ↦ remove v p) (fun _ ↦ rfl)
    (fun _ _ _ ↦ Eq.trans) Independent.symm (fun p v _ h ↦ h ▸ .refl (fun _ ↦ rfl) _)
    remove_comm perm h (rfl : base = base)
  refine apply_agree (hfold.bind ?_)
  rintro v _ rfl
  exact .ok rfl

theorem additions_agree {additions order : List (Path × Value)} (perm : additions.Perm order)
    (h : additions.Pairwise fun a b ↦ Independent a.1 b.1) (base : Value) :
    Agree Reorders (apply base [] additions) (apply base [] order) := by
  have hsymm : ∀ {a b : Path × Value}, Independent a.1 b.1 → Independent b.1 a.1 :=
    Independent.symm
  exact apply_agree (Agree.foldlM_perm (k := fun (a : Path × Value) v ↦ add a.2 v a.1)
    Reorders.refl (fun _ _ _ ↦ Reorders.trans) hsymm (fun a _ _ ↦ add_congr a.2 a.1)
    (fun h ↦ add_comm h _ _) perm h (Reorders.refl base))

/-- **Independent patches may come in any order.** Removals of which any two are independent all
give one value, in whatever order they are made, or they fail in every order. Additions of which any
two are independent fail in every order too, or their results differ at most in the order of
keys. -/
theorem apply_independent (base : Value) :
    (∀ removals : List Path, removals.Pairwise Independent →
      (∀ order, order.Perm removals → ∃ e, apply base order [] = .error e) ∨
        ∃ v, ∀ order, order.Perm removals → apply base order [] = .ok v) ∧
      ∀ additions : List (Path × Value),
        (additions.Pairwise fun a b ↦ Independent a.1 b.1) →
        (∀ order, order.Perm additions → ∃ e, apply base [] order = .error e) ∨
          ∀ order order', order.Perm additions → order'.Perm additions →
            ∃ v v', apply base [] order = .ok v ∧ apply base [] order' = .ok v' ∧
              v.Reorders v' := by
  constructor
  · intro removals h
    have hagree : ∀ order order', order.Perm removals → order'.Perm removals →
        Agree Eq (apply base order []) (apply base order' []) := by
      intro order order' horder horder'
      exact removals_agree (horder.trans horder'.symm)
        ((horder.pairwise_iff Independent.symm).mpr h) base
    refine (fails_or_related hagree).imp_right fun hrelated ↦ ?_
    obtain ⟨v, -, hv, -, -⟩ := hrelated removals removals (List.Perm.refl _) (List.Perm.refl _)
    refine ⟨v, fun order horder ↦ ?_⟩
    obtain ⟨w, w', hw, hw', rfl⟩ := hrelated order removals horder (List.Perm.refl _)
    cases hv.symm.trans hw'
    exact hw
  · intro additions h
    refine fails_or_related fun order order' horder horder' ↦ ?_
    have hpairwise : order.Pairwise fun a b ↦ Independent a.1 b.1 :=
      (horder.pairwise_iff Independent.symm).mpr h
    exact additions_agree (horder.trans horder'.symm) hpairwise base

/-- Two keys of every item of an array are removed, and two keys of a new object are added to every
item. -/
theorem apply_independent_items :
    let base := Value.array [.object [("a", .null), ("b", .null), ("c", .null)],
      .object [("b", .null), ("a", .null)]] false
    let removals : List Path := [[.key "a"], [.key "b"]]
    let additions : List (Path × Value) :=
      [([.key "n", .key "x"], .boolean true), ([.key "n", .key "y"], .null)]
    removals.Pairwise Independent ∧
      (additions.Pairwise fun a b ↦ Independent a.1 b.1) ∧
      (∃ v, ∀ order, order.Perm removals → apply base order [] = .ok v) ∧
      ∀ order order', order.Perm additions → order'.Perm additions →
        ∃ v v', apply base [] order = .ok v ∧ apply base [] order' = .ok v' ∧ v.Reorders v' := by
  intro base removals additions
  have hremovals : removals.Pairwise Independent := by
    refine List.pairwise_pair.mpr ?_
    exact ⟨[], "a", "b", [], [], by decide, rfl, rfl⟩
  have hadditions : additions.Pairwise fun a b ↦ Independent a.1 b.1 := by
    refine List.pairwise_pair.mpr ?_
    exact ⟨[.key "n"], "x", "y", [], [], by decide, rfl, rfl⟩
  refine ⟨hremovals, hadditions, ?_, ?_⟩
  · refine ((apply_independent base).1 removals hremovals).resolve_left fun hfails ↦ ?_
    obtain ⟨e, he⟩ := hfails removals (List.Perm.refl _)
    exact nomatch he
  · refine ((apply_independent base).2 additions hadditions).resolve_left fun hfails ↦ ?_
    obtain ⟨e, he⟩ := hfails additions (List.Perm.refl _)
    exact nomatch he

end Mixin

end DataOutline
