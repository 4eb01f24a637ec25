import Mathlib.Data.List.Nodup
import Mathlib.Data.List.Perm.Basic
import Mathlib.Data.String.Basic
import DataOutline.Json.Basic
import DataOutline.Proofs.Entries

/-!
# Entries sorted by name

A JSON object as a sorted map holds its entries in the order of their names, each name once. Sorting
the entries of a list whose names are distinct only permutes them, and there is one sorted order, so
what is sorted already stays as it is.
-/

namespace DataOutline

namespace Entries

variable {α β : Type} {key : String} {value : α} {es : Entries α}

/-- Each name is smaller than those behind it. -/
def IsSorted (es : Entries α) : Prop := es.Pairwise fun e e' ↦ e.1 < e'.1

theorem IsSorted.nodup_keys (h : IsSorted es) : es.keys.Nodup := by
  rw [keys, List.nodup_iff_pairwise_ne, List.pairwise_map]
  exact h.imp fun hlt ↦ hlt.ne

theorem mem_insertSorted {e : String × α} (h : e ∈ es.insertSorted key value) :
    e = (key, value) ∨ e ∈ es := by
  induction es with
  | nil => exact Or.inl (List.mem_singleton.mp h)
  | cons first es ih =>
    obtain ⟨k, v⟩ := first
    rw [insertSorted] at h
    split at h
    · exact List.mem_cons.mp h
    · split at h
      · next hk =>
        subst hk
        exact (List.mem_cons.mp h).imp_right (List.mem_cons_of_mem _)
      · rcases List.mem_cons.mp h with rfl | h
        · exact Or.inr List.mem_cons_self
        · exact (ih h).imp_right (List.mem_cons_of_mem _)

theorem isSorted_insertSorted (h : IsSorted es) : IsSorted (es.insertSorted key value) := by
  induction es with
  | nil => exact List.pairwise_singleton _ _
  | cons first es ih =>
    obtain ⟨k, v⟩ := first
    obtain ⟨hfirst, hmore⟩ := List.pairwise_cons.mp h
    rw [insertSorted]
    split
    · next hlt =>
      refine List.pairwise_cons.mpr ⟨fun e he ↦ ?_, h⟩
      rcases List.mem_cons.mp he with rfl | he
      · exact hlt
      · exact hlt.trans (hfirst e he)
    · next hle =>
      split
      · next hk =>
        subst hk
        exact List.pairwise_cons.mpr ⟨hfirst, hmore⟩
      · next hne =>
        refine List.pairwise_cons.mpr ⟨fun e he ↦ ?_, ih hmore⟩
        rcases mem_insertSorted he with rfl | he
        · exact (lt_or_eq_of_le (not_lt.mp hle)).resolve_right hne
        · exact hfirst e he

theorem insertSorted_perm (h : key ∉ es.keys) (value : α) :
    (es.insertSorted key value).Perm (es ++ [(key, value)]) := by
  induction es with
  | nil => exact .refl _
  | cons first es ih =>
    obtain ⟨k, v⟩ := first
    rw [keys, List.map_cons, List.mem_cons, not_or] at h
    rw [insertSorted]
    split
    · exact (List.perm_append_singleton _ _).symm
    · rw [if_neg (Ne.symm h.1)]
      exact (ih h.2).cons _

theorem sorted_append_singleton (es : List (String × α)) (e : String × α) :
    sorted (es ++ [e]) = (sorted es).insertSorted e.1 e.2 := by
  rw [sorted, List.foldl_append, ← sorted]
  rfl

theorem isSorted_sorted (es : List (String × α)) : IsSorted (sorted es) := by
  induction es using List.reverseRecOn with
  | nil => exact .nil
  | append_singleton es e ih =>
    rw [sorted_append_singleton]
    exact isSorted_insertSorted ih

theorem sorted_perm (nodup : es.keys.Nodup) : (sorted es).Perm es := by
  induction es using List.reverseRecOn with
  | nil => exact .refl _
  | append_singleton es e ih =>
    rw [keys, List.map_append, List.nodup_append] at nodup
    obtain ⟨hes, -, hapart⟩ := nodup
    have hsorted := ih hes
    have hkey : e.1 ∉ (sorted es).keys := by
      rw [keys, (hsorted.map Prod.fst).mem_iff]
      exact fun hmem ↦ hapart e.1 hmem e.1 List.mem_cons_self rfl
    rw [sorted_append_singleton]
    exact (insertSorted_perm hkey e.2).trans (hsorted.append_right [e])

theorem sorted_eq_self (h : IsSorted es) : sorted es = es := by
  refine (sorted_perm h.nodup_keys).eq_of_pairwise ?_ (isSorted_sorted es) h
  exact fun e e' _ _ hlt hlt' ↦ absurd hlt hlt'.asymm

theorem IsSorted.map (h : IsSorted es) (f : α → β) : IsSorted (es.map fun e ↦ (e.1, f e.2)) :=
  List.pairwise_map.mpr h

end Entries

end DataOutline
