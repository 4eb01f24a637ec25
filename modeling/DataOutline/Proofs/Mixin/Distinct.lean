import Mathlib.Data.List.Nodup
import DataOutline.Proofs.Mixin.Addition
import DataOutline.Proofs.Mixin.Removal
import DataOutline.Proofs.Program.Meaning

/-!
# Values that name nothing twice

An object holds each of its keys once if its entries were written one by one. A list of entries does
not say so by itself, and what is to be said of the order of keys needs it. Removals and additions
keep it: a removal takes entries away, an addition puts a key behind the others only if it is new,
and what an object holds at a key afterwards is a part of what went into it.
-/

namespace DataOutline

open Mixin (Segment Path)

namespace Value

/-- Whether no object in a value names anything twice. -/
inductive Distinct : Value → Prop
  | plain {v : Value} (h : v.isStructured = false) : Distinct v
  | array {items : List Value} (unordered : Bool) (each : ∀ x ∈ items, Distinct x) :
      Distinct (.array items unordered)
  | object {entries : List (String × Value)} (nodup : (Entries.keys entries).Nodup)
      (each : ∀ e ∈ entries, Distinct e.2) : Distinct (.object entries)

namespace Distinct

variable {v w : Value} {t : Segment}

theorem keys_nodup {entries : List (String × Value)} (h : Distinct (.object entries)) :
    (Entries.keys entries).Nodup := by
  cases h with
  | plain h => cases h
  | object nodup each => exact nodup

theorem each_entry {entries : List (String × Value)} {e : String × Value}
    (h : Distinct (.object entries)) (he : e ∈ entries) : e.2.Distinct := by
  cases h with
  | plain h => cases h
  | object nodup each => exact each e he

theorem each_item {items : List Value} {unordered : Bool} {x : Value}
    (h : Distinct (.array items unordered)) (hx : x ∈ items) : x.Distinct := by
  cases h with
  | plain h => cases h
  | array _ each => exact each x hx

theorem part (h : v.Distinct) (part : v.part? t = some w) : w.Distinct := by
  unfold part? at part
  split at part
  · exact h.each_item (List.mem_of_getElem? part)
  · exact h.each_entry (Entries.mem_of_get?_eq_some part)
  · cases part

theorem of_parts (nodup : ∀ entries, v = .object entries → (Entries.keys entries).Nodup)
    (parts : ∀ t w, v.part? t = some w → w.Distinct) : v.Distinct := by
  cases v with
  | array items unordered =>
    refine .array unordered fun x hx ↦ ?_
    obtain ⟨i, hi⟩ := List.mem_iff_getElem?.mp hx
    exact parts (.index i) x hi
  | object entries =>
    refine .object (nodup entries rfl) fun e he ↦ ?_
    exact parts (.key e.1) e.2 (Entries.get?_eq_some_of_mem (nodup entries rfl) he)
  | _ => exact .plain rfl

theorem getD (h : v.Distinct) (t : Segment) : ((v.part? t).getD (.object [])).Distinct := by
  cases hpart : v.part? t with
  | none => exact .object List.nodup_nil fun _ h ↦ absurd h List.not_mem_nil
  | some w => exact h.part hpart

end Distinct

end Value

namespace Mixin

variable {p : Path} {x v v' : Value}

/-- **A removal leaves a value that names nothing twice.** -/
theorem Removes.distinct (h : Removes p v v') (distinct : v.Distinct) : v'.Distinct := by
  induction h with
  | @key k entries hk =>
    obtain ⟨y, hy⟩ := Entries.mem_keys_iff_exists.mp hk
    obtain ⟨before, after, hentries, -, herase⟩ := Entries.exists_erase_eq hy
    refine .object (Entries.nodup_keys_erase distinct.keys_nodup k)
      fun e he ↦ distinct.each_entry ?_
    rw [herase] at he
    rw [hentries, List.mem_append, List.mem_cons]
    exact (List.mem_append.mp he).imp_right Or.inr
  | @index i items unordered hi =>
    exact .array unordered fun x hx ↦ distinct.each_item ((List.eraseIdx_sublist items i).subset hx)
  | @step p v v' long free rebuilds keeps inner selected ih =>
    refine .of_parts (fun entries' hentries ↦ ?_) fun t w' part' ↦ ?_
    · cases keeps with
      | array => cases hentries
      | object hkeys =>
        cases hentries
        exact hkeys ▸ distinct.keys_nodup
    · by_cases hselected : ∃ q, Selects p v t q
      · obtain ⟨q, selects⟩ := hselected
        obtain ⟨w, part⟩ := selects.exists_part free
        exact ih t q w w' selects part part' (distinct.part part)
      · rw [rebuilds.others t fun q selects ↦ hselected ⟨q, selects⟩] at part'
        exact distinct.part part'

/-- **An addition leaves a value that names nothing twice**, if the value that is added does not. -/
theorem Adds.distinct (h : Adds x p v v') (hx : x.Distinct) (distinct : v.Distinct) :
    v'.Distinct := by
  induction h with
  | put => exact hx
  | @step p v v' long free rebuilds grows present selected ih =>
    refine .of_parts (fun entries' hentries ↦ ?_) fun t w' part' ↦ ?_
    · cases grows with
      | array => cases hentries
      | object hkeys =>
        cases hentries
        rcases hkeys with hkeys | ⟨k, hk, hkeys⟩
        · exact hkeys ▸ distinct.keys_nodup
        · rw [hkeys, ← List.concat_eq_append]
          exact (List.nodup_concat _ _).mpr ⟨hk, distinct.keys_nodup⟩
    · by_cases hselected : ∃ q, Selects p v t q
      · obtain ⟨q, selects⟩ := hselected
        exact ih t q w' selects part' (distinct.getD t)
      · rw [rebuilds.others t fun q selects ↦ hselected ⟨q, selects⟩] at part'
        exact distinct.part part'

/-- **A patch leaves a value that names nothing twice**, if the values that are added do not. -/
theorem apply_distinct {base result : Value} {removals : List Path}
    {additions : List (Path × Value)} (hbase : base.Distinct)
    (hadditions : ∀ a ∈ additions, a.2.Distinct) (h : apply base removals additions = .ok result) :
    result.Distinct := by
  rw [apply_eq] at h
  split at h
  · obtain ⟨reduced, hremovals, hresult⟩ := bind_eq_ok_iff.mp h
    have hreduced : reduced.Distinct :=
      foldlM_preserves (fun p _ v v' hv hremove ↦ (removes_of_remove hremove).distinct hv) hremovals
        hbase
    exact foldlM_preserves
      (fun a ha v v' hv hadd ↦ (adds_of_add hadd).distinct (hadditions a ha) hv) hresult hreduced
  · cases h

end Mixin

end DataOutline
