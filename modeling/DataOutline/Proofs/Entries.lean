import Mathlib.Data.List.Basic
import Mathlib.Data.List.Induction
import DataOutline.Entries

/-!
# Entries as lists

What an operation on entries does to the list as a whole, by whether the name that it is about is
present: writing a new name adds an entry at the end, writing what is there changes nothing, and
removing a name cuts its first entry out. Entries that are collected from a list of named values
have each name once, where it first stands in the list, with the value that it last has there.
-/

namespace DataOutline

namespace Entries

variable {α : Type} {key : String} {value : α} {es : Entries α}

/-- The value of an entry is smaller than the entries, so recursion may go down to it. -/
theorem sizeOf_value_lt [SizeOf α] {e : String × α} (h : e ∈ es) : sizeOf e.2 < sizeOf es := by
  obtain ⟨name, part⟩ := e
  have hmem := List.sizeOf_lt_of_mem h
  rw [Prod.mk.sizeOf_spec] at hmem
  change sizeOf part < sizeOf es
  omega

/-! ## Present and absent names -/

theorem mem_keys_iff_exists : key ∈ keys es ↔ ∃ value, es.get? key = some value := by
  rw [mem_keys_iff, Option.isSome_iff_exists]

theorem contains_of_get?_eq_some (h : es.get? key = some value) : es.contains key = true := by
  rw [contains, h, Option.isSome_some]

theorem contains_of_get?_eq_none (h : es.get? key = none) : es.contains key = false := by
  rw [contains, h, Option.isSome_none]

/-! ## Other values of the same names -/

theorem keys_map {β : Type} (f : α → β) (es : Entries α) :
    keys (es.map fun e ↦ (e.1, f e.2)) = es.keys := by
  rw [keys, List.map_map]
  rfl

theorem get?_map {β : Type} (f : α → β) (key : String) (es : Entries α) :
    get? key (es.map fun e ↦ (e.1, f e.2)) = (es.get? key).map f := by
  induction es with
  | nil => rfl
  | cons e es ih =>
    obtain ⟨k, v⟩ := e
    rw [List.map_cons, get?, get?, ih]
    split <;> rfl

/-! ## Writing and removing -/

theorem insert_of_get?_eq_none (h : es.get? key = none) (value : α) :
    es.insert key value = es ++ [(key, value)] := by
  induction es with
  | nil => rfl
  | cons e es ih =>
    obtain ⟨k, v⟩ := e
    rw [get?] at h
    split at h
    · exact absurd h (Option.some_ne_none v)
    · next hk => rw [insert, if_neg hk, ih h, List.cons_append]

theorem insert_of_get?_eq_some (h : es.get? key = some value) : es.insert key value = es := by
  induction es with
  | nil => exact nomatch h
  | cons e es ih =>
    obtain ⟨k, v⟩ := e
    rw [get?] at h
    split at h
    · next hk =>
      cases h
      rw [insert, if_pos hk]
    · next hk => rw [insert, if_neg hk, ih h]

theorem exists_erase_eq (h : es.get? key = some value) :
    ∃ before after, es = before ++ (key, value) :: after ∧ key ∉ keys before ∧
      es.erase key = before ++ after := by
  induction es with
  | nil => exact nomatch h
  | cons e es ih =>
    obtain ⟨k, v⟩ := e
    rw [get?] at h
    split at h
    · next hk =>
      cases h
      cases hk
      exact ⟨[], es, rfl, List.not_mem_nil, by rw [erase, if_pos rfl, List.nil_append]⟩
    · next hk =>
      obtain ⟨before, after, rfl, hbefore, herase⟩ := ih h
      refine ⟨(k, v) :: before, after, rfl, ?_, by rw [erase, if_neg hk, herase, List.cons_append]⟩
      rw [keys, List.map_cons, List.mem_cons, not_or]
      exact ⟨Ne.symm hk, hbefore⟩

theorem erase_insert (h : es.get? key = none) (value : α) :
    (es.insert key value).erase key = es := by
  induction es with
  | nil => exact if_pos rfl
  | cons e es ih =>
    obtain ⟨k, v⟩ := e
    rw [get?] at h
    split at h
    · exact absurd h (Option.some_ne_none v)
    · next hk => rw [insert, if_neg hk, erase, if_neg hk, ih h]

theorem mem_of_get?_eq_some (h : es.get? key = some value) : (key, value) ∈ es := by
  obtain ⟨before, after, rfl, -, -⟩ := exists_erase_eq h
  exact List.mem_append_right _ List.mem_cons_self

theorem get?_eq_some_of_mem (nodup : es.keys.Nodup) (h : (key, value) ∈ es) :
    es.get? key = some value := by
  induction es with
  | nil => exact absurd h List.not_mem_nil
  | cons e es ih =>
    obtain ⟨hnotin, hnodup⟩ := List.nodup_cons.mp nodup
    rcases List.mem_cons.mp h with rfl | h
    · rw [get?, if_pos rfl]
    · have hne : e.1 ≠ key := fun heq ↦ hnotin (heq ▸ List.mem_map_of_mem h)
      rw [get?, if_neg hne, ih hnodup h]

theorem get?_eq_some_iff (nodup : es.keys.Nodup) : es.get? key = some value ↔ (key, value) ∈ es :=
  ⟨mem_of_get?_eq_some, get?_eq_some_of_mem nodup⟩

/-! ### Two names -/

theorem insert_insert_self (key : String) (value value' : α) (es : Entries α) :
    (es.insert key value).insert key value' = es.insert key value' := by
  induction es with
  | nil => simp [insert]
  | cons e es ih =>
    by_cases h : e.1 = key
    · simp [insert, h]
    · simp [insert, h, ih]

variable {other : String}

theorem insert_erase_comm (h : key ≠ other) (value : α) (es : Entries α) :
    (es.erase other).insert key value = (es.insert key value).erase other := by
  induction es with
  | nil => simp [insert, erase, h]
  | cons e es ih =>
    by_cases hkey : e.1 = key
    · simp [insert, erase, hkey, h]
    · by_cases hother : e.1 = other <;> simp [insert, erase, hkey, hother, h.symm, ih]

theorem erase_erase_comm (h : key ≠ other) (es : Entries α) :
    (es.erase other).erase key = (es.erase key).erase other := by
  induction es with
  | nil => rfl
  | cons e es ih =>
    by_cases hkey : e.1 = key
    · simp [erase, hkey, h]
    · by_cases hother : e.1 = other <;> simp [erase, hkey, hother, h.symm, ih]

/-- Writing a name that is present does not change where others go. -/
theorem insert_insert_comm (h : key ≠ other) (present : key ∈ keys es) (value value' : α) :
    (es.insert other value').insert key value = (es.insert key value).insert other value' := by
  induction es with
  | nil => exact absurd present List.not_mem_nil
  | cons e es ih =>
    by_cases hkey : e.1 = key
    · simp [insert, hkey, h]
    · have hmore : key ∈ keys es := by
        rcases List.mem_cons.mp present with hhead | hmore
        · exact absurd hhead.symm hkey
        · exact hmore
      by_cases hother : e.1 = other <;> simp [insert, hkey, hother, h.symm, ih hmore]

/-- Two new names stand in the order in which they were written. -/
theorem keys_insert_insert_perm (h : key ≠ other) (value value' : α) (es : Entries α) :
    ((es.insert other value').insert key value).keys.Perm
      ((es.insert key value).insert other value').keys := by
  by_cases hkey : key ∈ keys es
  · rw [insert_insert_comm h hkey]
  · by_cases hother : other ∈ keys es
    · rw [insert_insert_comm h.symm hother]
    · simp only [keys_insert, List.mem_append, List.mem_singleton, h,
        h.symm, or_self, hkey, hother, if_false, List.append_assoc]
      exact (List.Perm.swap key other []).append_left _

/-- Give a name a value, or remove it if there is none. -/
def write (key : String) : Option α → Entries α → Entries α
  | some value, es => es.insert key value
  | none, es => es.erase key

theorem get?_write_of_ne (h : other ≠ key) (part : Option α) (es : Entries α) :
    (es.write key part).get? other = es.get? other := by
  cases part with
  | none => exact get?_erase_of_ne es h
  | some value => exact get?_insert_of_ne value es h

/-- What is written to two names does not depend on which comes first, if one is present. -/
theorem write_write_comm (h : key ≠ other) {part : Option α} (part' : Option α)
    (present : key ∈ keys es) :
    (es.write other part').write key part = (es.write key part).write other part' := by
  cases part with
  | none =>
    cases part' with
    | none => exact erase_erase_comm h es
    | some value' => exact (insert_erase_comm h.symm value' es).symm
  | some value =>
    cases part' with
    | none => exact insert_erase_comm h value es
    | some value' => exact insert_insert_comm h present value value'

/-! ## Collecting -/

/-- Entries with the same names in the same order are the same if each name has the same value. -/
theorem eq_of_keys_eq {es es' : Entries α} (nodup : es.keys.Nodup) (keys : es.keys = es'.keys)
    (values : ∀ k ∈ es.keys, es.get? k = es'.get? k) : es = es' := by
  induction es generalizing es' with
  | nil => exact (List.map_eq_nil_iff.mp keys.symm).symm
  | cons e es ih =>
    obtain ⟨k, v⟩ := e
    rcases es' with _ | ⟨⟨k', v'⟩, es'⟩
    · exact nomatch keys
    · obtain ⟨hk, hkeys⟩ := List.cons.inj keys
      obtain ⟨hnotin, hnodup⟩ := List.nodup_cons.mp nodup
      have hfirst := values k List.mem_cons_self
      change k = k' at hk
      subst hk
      rw [get?, get?, if_pos rfl, if_pos rfl] at hfirst
      have hrest : es = es' := by
        refine ih hnodup hkeys fun k' hk' ↦ ?_
        have hvalue := values k' (List.mem_cons_of_mem _ hk')
        have hne : k ≠ k' := fun h ↦ hnotin (h ▸ hk')
        rwa [get?, get?, if_neg hne, if_neg hne] at hvalue
      rw [Option.some.inj hfirst, hrest]

/-- What a list of named values collects into. -/
structure Collects (named : List (String × α)) (es : Entries α) : Prop where
  /-- Each name stands once, in the place where it first comes. -/
  keys_eq : es.keys = (named.map Prod.fst).eraseDups
  /-- It has the value that comes last. -/
  get?_last : ∀ before key value after, named = before ++ (key, value) :: after →
    key ∉ after.map Prod.fst → es.get? key = some value

theorem ofList_append_singleton (named : List (String × α)) (e : String × α) :
    ofList (named ++ [e]) = insert e.1 e.2 (ofList named) := by
  rw [ofList, List.foldl_append, ← ofList]
  rfl

theorem ofList_eq_self {named : List (String × α)} (distinct : (named.map Prod.fst).Nodup) :
    ofList named = named := by
  induction named using List.reverseRecOn with
  | nil => rfl
  | append_singleton named e ih =>
    rw [List.map_append, List.nodup_append] at distinct
    obtain ⟨hnamed, -, hapart⟩ := distinct
    have habsent : get? e.1 named = none := by
      rw [← Option.not_isSome_iff_eq_none, ← mem_keys_iff]
      exact fun hmem ↦ hapart e.1 hmem e.1 List.mem_cons_self rfl
    rw [ofList_append_singleton, ih hnamed, insert_of_get?_eq_none habsent]

theorem keys_ofList (named : List (String × α)) :
    (ofList named).keys = (named.map Prod.fst).eraseDups := by
  induction named using List.reverseRecOn with
  | nil => rfl
  | append_singleton named e ih =>
    rw [ofList_append_singleton, keys_insert, ih, List.map_append, List.eraseDups_append]
    by_cases h : e.1 ∈ named.map Prod.fst
    · rw [if_pos (List.mem_eraseDups.mpr h)]
      simp [List.removeAll, h]
    · rw [if_neg (h ∘ List.mem_eraseDups.mp)]
      simp [List.removeAll, h, List.eraseDups_cons]

theorem get?_foldl_insert_of_notMem {named : List (String × α)}
    (h : key ∉ named.map Prod.fst) (es : Entries α) :
    get? key (named.foldl (fun m (k, v) ↦ insert k v m) es) = get? key es := by
  induction named generalizing es with
  | nil => rfl
  | cons e named ih =>
    rw [List.map_cons, List.mem_cons, not_or] at h
    rw [List.foldl_cons, ih h.2, get?_insert_of_ne _ _ h.1]

theorem collects_ofList (named : List (String × α)) : Collects named (ofList named) where
  keys_eq := keys_ofList named
  get?_last := by
    rintro before key value after rfl hafter
    rw [ofList, List.foldl_append, List.foldl_cons, get?_foldl_insert_of_notMem hafter,
      get?_insert_self]

theorem exists_last {named : List (String × α)} (h : key ∈ named.map Prod.fst) :
    ∃ before value after, named = before ++ (key, value) :: after ∧
      key ∉ after.map Prod.fst := by
  induction named with
  | nil => exact absurd h List.not_mem_nil
  | cons e named ih =>
    by_cases hmem : key ∈ named.map Prod.fst
    · obtain ⟨before, value, after, rfl, hafter⟩ := ih hmem
      exact ⟨e :: before, value, after, rfl, hafter⟩
    · obtain ⟨k, v⟩ := e
      rw [List.map_cons, List.mem_cons] at h
      obtain rfl := h.resolve_right hmem
      exact ⟨[], v, named, rfl, hmem⟩

theorem Collects.eq_ofList {named : List (String × α)} {es : Entries α} (h : Collects named es) :
    es = ofList named := by
  have hcollects := collects_ofList named
  have hkeys : (ofList named).keys = es.keys := by rw [keys_ofList, h.keys_eq]
  refine (eq_of_keys_eq (nodup_keys_ofList named) hkeys fun k hk ↦ ?_).symm
  rw [keys_ofList, List.mem_eraseDups] at hk
  obtain ⟨before, value, after, hsplit, hafter⟩ := exists_last hk
  rw [hcollects.get?_last _ _ _ _ hsplit hafter, h.get?_last _ _ _ _ hsplit hafter]

end Entries

end DataOutline
