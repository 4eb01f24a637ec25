import DataOutline.Proofs.Mixin.Addition
import DataOutline.Proofs.Mixin.Dotted
import DataOutline.Proofs.Mixin.Removal
import DataOutline.Proofs.Program.Meaning

/-!
# Errors that edits never come to

Two things could be wrong with an edit that never are. One is an empty path: a text stands for at
least one segment, and an edit goes on in a part of a value only with segments left.

The other is a key that is not there. An addition can be made in place: a key that an object lacks
is put into it with an empty object, and then looked up like any other. `addInPlace` does that, and
is told what to say if the key is not there even now. It is the same as `add` whatever it is told,
so it never comes to say it.
-/

namespace DataOutline.Mixin

/-! ## Empty paths -/

/-- **A removal finds a path empty only if it is so from the start.** -/
theorem remove_eq_emptyPath_iff (p : Path) (v : Value) :
    remove v p = .error .emptyPath ↔ p = [] := by
  induction p, v using editInduction with
  | nil v => exact iff_of_true (remove_nil v) rfl
  | plain s rest v hv =>
    rw [remove_plain hv]
    exact iff_of_false (by rintro ⟨⟩) (List.cons_ne_nil s rest)
  | number i rest entries => exact iff_of_false (by rintro ⟨⟩) (List.cons_ne_nil _ rest)
  | entry k rest entries ih =>
    refine iff_of_false ?_ (List.cons_ne_nil _ rest)
    cases hk : Entries.get? k entries with
    | none =>
      rw [remove_missing hk]
      rintro ⟨⟩
    | some y =>
      cases rest with
      | nil =>
        rw [remove_key hk]
        rintro ⟨⟩
      | cons s rest =>
        rw [remove_key_cons hk, map_eq_error_iff, ih]
        exact List.cons_ne_nil s rest
  | each k rest items unordered ih =>
    refine iff_of_false ?_ (List.cons_ne_nil _ rest)
    rw [remove_each, map_eq_error_iff]
    intro heach
    obtain ⟨y, hy, herror⟩ := exists_of_mapM_eq_error heach
    exact List.cons_ne_nil _ rest ((ih y hy).mp herror)
  | item i rest items unordered ih =>
    refine iff_of_false ?_ (List.cons_ne_nil _ rest)
    cases hy : items[i]? with
    | none =>
      rw [remove_beyond hy]
      rintro ⟨⟩
    | some y =>
      cases rest with
      | nil =>
        rw [remove_index hy]
        rintro ⟨⟩
      | cons s rest =>
        rw [remove_index_cons hy, map_eq_error_iff, ih]
        exact List.cons_ne_nil s rest

/-- **An addition finds a path empty only if it is so from the start.** -/
theorem add_eq_emptyPath_iff (x : Value) (p : Path) (v : Value) :
    add x v p = .error .emptyPath ↔ p = [] := by
  induction p, v using editInduction with
  | nil v => exact iff_of_true (add_nil v) rfl
  | plain s rest v hv =>
    rw [add_plain hv]
    exact iff_of_false (by rintro ⟨⟩) (List.cons_ne_nil s rest)
  | number i rest entries => exact iff_of_false (by rintro ⟨⟩) (List.cons_ne_nil _ rest)
  | entry k rest entries ih =>
    refine iff_of_false ?_ (List.cons_ne_nil _ rest)
    cases rest with
    | nil =>
      rw [add_key]
      rintro ⟨⟩
    | cons s rest =>
      rw [add_key_cons, map_eq_error_iff, ih]
      exact List.cons_ne_nil s rest
  | each k rest items unordered ih =>
    refine iff_of_false ?_ (List.cons_ne_nil _ rest)
    rw [add_each, map_eq_error_iff]
    intro heach
    obtain ⟨y, hy, herror⟩ := exists_of_mapM_eq_error heach
    exact List.cons_ne_nil _ rest ((ih y hy).mp herror)
  | item i rest items unordered ih =>
    refine iff_of_false ?_ (List.cons_ne_nil _ rest)
    rcases Nat.lt_trichotomy i items.length with hlt | rfl | hlt
    · cases rest with
      | nil =>
        rw [add_put hlt]
        rintro ⟨⟩
      | cons s rest =>
        rw [add_index_cons (List.getElem?_eq_getElem hlt), map_eq_error_iff, ih]
        exact List.cons_ne_nil s rest
    · cases rest with
      | nil =>
        rw [add_behind]
        rintro ⟨⟩
      | cons s rest =>
        rw [add_behind_cons]
        rintro ⟨⟩
    · rw [add_beyond hlt]
      rintro ⟨⟩

theorem nil_mem_of_apply {base : Value} {removals : List Path} {additions : List (Path × Value)}
    (h : apply base removals additions = .error .emptyPath) :
    [] ∈ removals ∨ ∃ a ∈ additions, a.1 = [] := by
  rw [apply_eq] at h
  split at h
  · rcases bind_eq_error_iff.mp h with hremovals | ⟨reduced, -, hadditions⟩
    · obtain ⟨p, hp, v, hremove⟩ := exists_of_foldlM_eq_error hremovals
      exact Or.inl ((remove_eq_emptyPath_iff p v).mp hremove ▸ hp)
    · obtain ⟨a, ha, v, hadd⟩ := exists_of_foldlM_eq_error hadditions
      exact Or.inr ⟨a, ha, (add_eq_emptyPath_iff a.2 a.1 v).mp hadd⟩
  · cases h

/-! ## Keys that are made on the way -/

/-- Entries with an empty object at a key that they lack. -/
def prepared (k : String) (entries : Entries Value) : Entries Value :=
  if entries.contains k then entries else entries.insert k (.object [])

/-- An addition in place. It puts an empty object at a key that is absent and then looks for the
key; if that is not there, the error is `lost`. -/
def addInPlace (lost : String → MixinError) (x : Value) : Value → Path → Except MixinError Value
  | _, [] => .error .emptyPath
  | .array items unordered, .key k :: rest =>
    (.array · unordered) <$> items.mapM fun y => addInPlace lost x y (.key k :: rest)
  | .array items unordered, .index i :: rest =>
    if items.length < i then .error (.addIndexOutOfRange i items.length)
    else
      match rest.head?, items[i]? with
      | none, none => .ok (.array (items ++ [x]) unordered)
      | none, some _ => .ok (.array (items.set i x) unordered)
      | some next, none => .error (.addToNonObject next.text)
      | some _, some y => (fun y' => .array (items.set i y') unordered) <$> addInPlace lost x y rest
  | .object _, .index i :: _ => .error (.addNumericKey i)
  | .object entries, .key k :: rest =>
    if rest.isEmpty then .ok (.object (Entries.insert k x entries))
    else
      match (prepared k entries).get? k with
      | some y =>
        (fun y' => .object ((prepared k entries).insert k y')) <$> addInPlace lost x y rest
      | none => .error (lost k)
  | _, s :: _ => .error (.addToNonObject s.text)
termination_by v p => (p.length, sizeOf v)

theorem get?_prepared (k : String) (entries : Entries Value) :
    (prepared k entries).get? k = some ((entries.get? k).getD (.object [])) := by
  rw [prepared]
  cases hk : entries.get? k with
  | none =>
    rw [Entries.contains_of_get?_eq_none hk, if_neg Bool.false_ne_true, Entries.get?_insert_self,
      Option.getD_none]
  | some y => rw [Entries.contains_of_get?_eq_some hk, if_pos rfl, hk, Option.getD_some]

theorem insert_prepared (k : String) (y : Value) (entries : Entries Value) :
    (prepared k entries).insert k y = entries.insert k y := by
  rw [prepared]
  split
  · rfl
  · exact Entries.insert_insert_self k _ y entries

/-- **An addition in place finds every key that it made.** -/
theorem addInPlace_eq_add (lost : String → MixinError) (x v : Value) (p : Path) :
    addInPlace lost x v p = add x v p := by
  induction p, v using editInduction with
  | nil v => rw [addInPlace, add_nil]
  | plain s rest v hv =>
    rw [add_plain hv]
    cases v with
    | array items unordered | object entries => cases hv
    | _ => rw [addInPlace] <;> intros <;> contradiction
  | number i rest entries =>
    rw [addInPlace]
    rfl
  | entry k rest entries ih =>
    rw [addInPlace]
    cases rest with
    | nil => rfl
    | cons s rest =>
      rw [add_key_cons, get?_prepared]
      simp only [List.isEmpty_cons, Bool.false_eq_true, if_false, ih, insert_prepared]
  | each k rest items unordered ih => rw [addInPlace, add_each, mapM_congr ih]
  | item i rest items unordered ih =>
    rw [addInPlace]
    rcases Nat.lt_trichotomy i items.length with hlt | rfl | hlt
    · have hy : items[i]? = some items[i] := List.getElem?_eq_getElem hlt
      rw [if_neg (Nat.lt_asymm hlt), hy]
      cases rest with
      | nil =>
        rw [add_put hlt]
        rfl
      | cons s rest =>
        rw [add_index_cons hy, ← ih]
        rfl
    · rw [if_neg (Nat.lt_irrefl _), List.getElem?_eq_none (Nat.le_refl _)]
      cases rest with
      | nil =>
        rw [add_behind]
        rfl
      | cons s rest =>
        rw [add_behind_cons]
        rfl
    · rw [if_pos hlt, add_beyond hlt]

/-! ## Paths from texts -/

/-- **Paths from texts.** A path has segments without dots; written, it is the text that it comes
from, but for the leading zeros of indices, and that is read as the same path. No patch whose paths
come from texts finds one of them empty. And no addition misses a key that it has made, so what it
would say then makes no difference. -/
theorem paths_of_text :
    (∀ text, Path.Spells text (Path.ofText text)) ∧
      (∀ (base : Value) (removals : List String) (additions : List (String × Value)),
        apply base (removals.map Path.ofText) (additions.map fun a ↦ (Path.ofText a.1, a.2)) ≠
          .error .emptyPath) ∧
      ∀ lost, addInPlace lost = add := by
  refine ⟨Path.spells_ofText, fun base removals additions happly ↦ ?_, fun lost ↦ ?_⟩
  · rcases nil_mem_of_apply happly with hnil | ⟨a, ha, hnil⟩
    · obtain ⟨text, -, htext⟩ := List.mem_map.mp hnil
      exact Path.ofText_ne_nil text htext
    · obtain ⟨a, -, rfl⟩ := List.mem_map.mp ha
      exact Path.ofText_ne_nil a.1 hnil
  · funext x v p
    exact addInPlace_eq_add lost x v p

end DataOutline.Mixin
