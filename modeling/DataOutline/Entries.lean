/-!
# Entries in insertion order

Objects and contexts hold named values in the order in which the names were first inserted. Writing
to a present name keeps its place, a new name goes last, and removal closes the gap. A list of
entries built by these operations names nothing twice, and everything an operation does can be read
off from what `get?` and `keys` give afterwards.
-/

namespace DataOutline

/-- Named values in insertion order. -/
abbrev Entries (α : Type) := List (String × α)

namespace Entries

variable {α : Type}

def keys (es : Entries α) : List String := es.map Prod.fst

def get? (key : String) : Entries α → Option α
  | [] => none
  | (k, v) :: rest => if k = key then some v else get? key rest

def contains (key : String) (es : Entries α) : Bool := (es.get? key).isSome

/-- Give a name a value: in its place if it is present, at the end if not. -/
def insert (key : String) (value : α) : Entries α → Entries α
  | [] => [(key, value)]
  | (k, v) :: rest => if k = key then (k, value) :: rest else (k, v) :: insert key value rest

def erase (key : String) : Entries α → Entries α
  | [] => []
  | (k, v) :: rest => if k = key then rest else (k, v) :: erase key rest

/-- The entries of a list, a later value of a name winning over an earlier one. -/
def ofList (es : List (String × α)) : Entries α := es.foldl (fun m (k, v) => insert k v m) []

/-! ## Reading after writing -/

@[simp] theorem get?_insert_self (key : String) (value : α) (es : Entries α) :
    (es.insert key value).get? key = some value := by
  induction es with
  | nil => simp [insert, get?]
  | cons e es ih =>
    obtain ⟨k, v⟩ := e
    by_cases h : k = key <;> simp [insert, get?, h, ih]

theorem get?_insert_of_ne {key other : String} (value : α) (es : Entries α) (h : other ≠ key) :
    (es.insert key value).get? other = es.get? other := by
  induction es with
  | nil => simp [insert, get?, Ne.symm h]
  | cons e es ih =>
    obtain ⟨k, v⟩ := e
    by_cases hk : k = key
    · subst hk
      simp [insert, get?, Ne.symm h]
    · simp [insert, get?, hk, ih]

theorem get?_erase_of_ne {key other : String} (es : Entries α) (h : other ≠ key) :
    (es.erase key).get? other = es.get? other := by
  induction es with
  | nil => rfl
  | cons e es ih =>
    obtain ⟨k, v⟩ := e
    by_cases hk : k = key
    · subst hk
      simp [erase, get?, Ne.symm h]
    · simp [erase, get?, hk, ih]

/-! ## The names -/

theorem mem_keys_iff {key : String} {es : Entries α} : key ∈ es.keys ↔ (es.get? key).isSome := by
  induction es with
  | nil => simp [keys, get?]
  | cons e es ih =>
    obtain ⟨k, v⟩ := e
    by_cases h : k = key
    · simp [keys, get?, h]
    · have ih' : key ∈ List.map Prod.fst es ↔ (get? key es).isSome := ih
      simp [keys, get?, h, Ne.symm h, ih']

theorem keys_insert (key : String) (value : α) (es : Entries α) :
    (es.insert key value).keys = if key ∈ es.keys then es.keys else es.keys ++ [key] := by
  induction es with
  | nil => simp [insert, keys]
  | cons e es ih =>
    obtain ⟨k, v⟩ := e
    by_cases h : k = key
    · simp [insert, keys, h]
    · simp only [keys] at ih
      by_cases hm : key ∈ es.map Prod.fst <;>
        simp [insert, keys, h, Ne.symm h, ih, hm]

theorem keys_erase (key : String) (es : Entries α) : (es.erase key).keys = es.keys.erase key := by
  induction es with
  | nil => rfl
  | cons e es ih =>
    obtain ⟨k, v⟩ := e
    by_cases h : k = key
    · simp [erase, keys, h]
    · simp only [keys] at ih
      simp [erase, keys, h, ih]

theorem nodup_keys_insert {es : Entries α} (h : es.keys.Nodup) (key : String) (value : α) :
    (es.insert key value).keys.Nodup := by
  rw [keys_insert]
  split
  · exact h
  · next hm =>
    refine List.nodup_append.2 ⟨h, by simp, fun k hk other hother => ?_⟩
    rw [List.mem_singleton.1 hother]
    exact fun hkey => hm (hkey ▸ hk)

theorem nodup_keys_erase {es : Entries α} (h : es.keys.Nodup) (key : String) :
    (es.erase key).keys.Nodup := by
  rw [keys_erase]
  exact h.erase key

theorem nodup_keys_ofList (es : List (String × α)) : (ofList es).keys.Nodup := by
  suffices ∀ m : Entries α, m.keys.Nodup →
      (es.foldl (fun m (k, v) => insert k v m) m).keys.Nodup from this [] List.nodup_nil
  induction es with
  | nil => exact fun m hm => hm
  | cons e es ih => exact fun m hm => ih _ (nodup_keys_insert hm _ _)

end Entries

end DataOutline
