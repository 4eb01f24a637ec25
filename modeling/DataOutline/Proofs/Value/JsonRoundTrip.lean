import DataOutline.Proofs.Decimal.Whole
import DataOutline.Proofs.Json.Sorting
import DataOutline.Proofs.Value.Equality

/-!
# Values as JSON and back

A value goes to JSON and back in two steps that know nothing of each other: a whole number becomes
an integer and is read as a float again, and an object becomes a map sorted by key, whose entries
are then put into an object in that order. What comes out is not the same value, since the order of
keys and the sign of a zero are lost; but it is an equal one, and it goes to the same JSON.
-/

namespace DataOutline

namespace Value

variable {v : Value} {x : Float} {i : Int} {items : List Value} {unordered : Bool}
  {entries : List (String × Value)}

/-! ## Numbers -/

theorem wholeNumber?_eq_some_iff :
    wholeNumber? x = some i ↔
      (Decimal.Exact.ofFloat x).integer? = some i ∧ i.natAbs < 1000000000000000 := by
  rw [wholeNumber?, Option.filter_eq_some_iff, decide_eq_true_iff]

theorem ofInt_beq_of_wholeNumber? (h : wholeNumber? x = some i) : (Float.ofInt i == x) = true := by
  obtain ⟨hinteger, hsmall⟩ := wholeNumber?_eq_some_iff.mp h
  exact Decimal.ofInt_beq (by omega) hinteger

theorem wholeNumber?_ofInt (h : wholeNumber? x = some i) :
    wholeNumber? (Float.ofInt i) = some i := by
  obtain ⟨-, hsmall⟩ := wholeNumber?_eq_some_iff.mp h
  exact wholeNumber?_eq_some_iff.mpr ⟨Decimal.integer?_ofFloat_ofInt (by omega), hsmall⟩

/-! ## Parts -/

theorem sortKeys_toJson_array :
    (array items unordered).toJson.sortKeys = .array (items.map fun x ↦ x.toJson.sortKeys) := by
  rw [toJson, Json.sortKeys, toJsonItems_eq_map, Json.sortKeysAll_eq_map, List.map_map]
  rfl

theorem sortKeys_toJson_object :
    (object entries).toJson.sortKeys =
      .object (Entries.sorted (entries.map fun e ↦ (e.1, e.2.toJson.sortKeys))) := by
  rw [toJson, Json.sortKeys, toJsonEntries_eq_map, Json.sortKeysEntries_eq_map, List.map_map]
  rfl

theorem ofJson_array (js : List Json) : ofJson (.array js) = .array (js.map ofJson) false := by
  rw [ofJson, ofJsonItems_eq_map]

theorem ofJson_object {es : List (String × Json)} (h : Entries.IsSorted es) :
    ofJson (.object es) = .object (es.map fun e ↦ (e.1, ofJson e.2)) := by
  rw [ofJson, ofJsonEntries_eq_map, Entries.ofList_eq_self (h.map ofJson).nodup_keys]

/-! ## There and back -/

/-- Values that JSON has a place for: no functions, numbers that are finite, arrays whose order
matters, and objects that name nothing twice. -/
inductive FitsJson : Value → Prop
  | null : FitsJson .null
  | boolean (b : Bool) : FitsJson (.boolean b)
  | number {x : Float} (finite : x.isFinite = true) : FitsJson (.number x)
  | string (s : String) : FitsJson (.string s)
  | array {items : List Value} (each : ∀ x ∈ items, FitsJson x) : FitsJson (.array items false)
  | object {entries : List (String × Value)} (nodup : (Entries.keys entries).Nodup)
      (each : ∀ e ∈ entries, FitsJson e.2) : FitsJson (.object entries)

theorem FitsJson.distinct (h : v.FitsJson) : v.Distinct := by
  induction h with
  | null | boolean | number | string => exact .plain rfl
  | array _ ih => exact .array false ih
  | object nodup _ ih => exact .object nodup ih

/-- What a value comes back as: an equal value that names nothing twice and goes to the same
JSON. -/
structure ComesBack (v w : Value) : Prop where
  distinct : w.Distinct
  equal : Equal w v
  same : w.toJson.sortKeys = v.toJson.sortKeys

theorem comesBack_number (finite : x.isFinite = true) :
    ComesBack (.number x) (ofJson (number x).toJson.sortKeys) := by
  cases hwhole : wholeNumber? x with
  | none =>
    have hjson : (number x).toJson = .number x := by
      rw [toJson, hwhole]
      exact if_pos finite
    have hnan : x ≠ Float.nan := by
      rintro rfl
      exact absurd finite (by decide)
    rw [hjson]
    exact ⟨.plain rfl, .number (Float.beq_self_iff.mpr hnan), rfl⟩
  | some i =>
    have hjson : ∀ {y : Float}, wholeNumber? y = some i → (number y).toJson = .integer i := by
      intro y hy
      rw [toJson, hy]
    rw [hjson hwhole]
    refine ⟨.plain rfl, .number (ofInt_beq_of_wholeNumber? hwhole), ?_⟩
    rw [hjson hwhole]
    exact congrArg Json.sortKeys (hjson (wholeNumber?_ofInt hwhole))

theorem comesBack_array
    (each : ∀ x ∈ items, ComesBack x (ofJson x.toJson.sortKeys)) :
    ComesBack (array items false) (ofJson (array items false).toJson.sortKeys) := by
  rw [sortKeys_toJson_array, ofJson_array, List.map_map]
  constructor
  · exact .array false (List.forall_mem_map.mpr fun x hx ↦ (each x hx).distinct)
  · refine .array false (List.forall₂_map_left_iff.mpr (List.forall₂_same.mpr fun x hx ↦ ?_))
    exact (each x hx).equal
  · rw [sortKeys_toJson_array, sortKeys_toJson_array, List.map_map]
    exact congrArg Json.array (List.map_congr_left fun x hx ↦ (each x hx).same)

theorem equal_of_map {f : Value → Value} (each : ∀ e ∈ entries, Equal (f e.2) e.2) :
    Equal (.object (entries.map fun e ↦ (e.1, f e.2))) (.object entries) := by
  refine .object fun k ↦ ?_
  rw [Entries.get?_map]
  cases hx : Entries.get? k entries with
  | none => exact .none
  | some x => exact .some (each _ (Entries.mem_of_get?_eq_some hx))

theorem comesBack_object (nodup : (Entries.keys entries).Nodup)
    (each : ∀ e ∈ entries, ComesBack e.2 (ofJson e.2.toJson.sortKeys)) :
    ComesBack (object entries) (ofJson (object entries).toJson.sortKeys) := by
  rw [sortKeys_toJson_object]
  -- The map sorted by key has the entries of the object, in another order.
  generalize hsorted : Entries.sorted (entries.map fun e ↦ (e.1, e.2.toJson.sortKeys)) = sorted
  have hperm : sorted.Perm (entries.map fun e ↦ (e.1, e.2.toJson.sortKeys)) := by
    rw [← hsorted]
    refine Entries.sorted_perm ?_
    rwa [Entries.keys_map fun x : Value ↦ x.toJson.sortKeys]
  have hinorder : Entries.IsSorted sorted := hsorted ▸ Entries.isSorted_sorted _
  have hmem : ∀ e ∈ sorted, ∃ e' ∈ entries, (e'.1, e'.2.toJson.sortKeys) = e := fun e he ↦
    List.mem_map.mp (hperm.mem_iff.mp he)
  have hread := hinorder.map ofJson
  rw [ofJson_object hinorder]
  constructor
  · refine .object hread.nodup_keys (List.forall_mem_map.mpr fun e he ↦ ?_)
    obtain ⟨e', he', rfl⟩ := hmem e he
    exact (each e' he').distinct
  · have hreorders := Reorders.of_perm hread.nodup_keys (hperm.map fun e ↦ (e.1, ofJson e.2))
    rw [List.map_map] at hreorders
    refine Equal.of_reorders ?_ hreorders.symm
    exact equal_of_map (f := fun x ↦ ofJson x.toJson.sortKeys) fun e he ↦ (each e he).equal
  · rw [sortKeys_toJson_object, sortKeys_toJson_object, hsorted, List.map_map]
    have hsame : sorted.map ((fun e ↦ (e.1, e.2.toJson.sortKeys)) ∘ fun e ↦ (e.1, ofJson e.2)) =
        sorted := by
      refine (List.map_congr_left fun e he ↦ ?_).trans (List.map_id sorted)
      obtain ⟨e', he', rfl⟩ := hmem e he
      exact congrArg (Prod.mk e'.1) (each e' he').same
    rw [hsame, Entries.sorted_eq_self hinorder]

theorem FitsJson.comesBack (h : v.FitsJson) : ComesBack v (ofJson v.toJson.sortKeys) := by
  induction h with
  | null => exact ⟨.plain rfl, .null, rfl⟩
  | boolean b => exact ⟨.plain rfl, .boolean b, rfl⟩
  | number finite => exact comesBack_number finite
  | string s => exact ⟨.plain rfl, .string s, rfl⟩
  | array _ ih => exact comesBack_array ih
  | object nodup _ ih => exact comesBack_object nodup ih

/-- **Nothing but the order of keys is lost in JSON.** A value that JSON has a place for comes back
from there as an equal value, which goes to the same JSON again. -/
theorem ofJson_toJson (h : v.FitsJson) :
    (ofJson v.toJson.sortKeys == v) = true ∧
      (ofJson v.toJson.sortKeys).toJson.sortKeys = v.toJson.sortKeys := by
  have hback := h.comesBack
  exact ⟨(beq_iff_equal hback.distinct h.distinct).mpr hback.equal, hback.same⟩

/-- An object with its keys out of order, a negative zero and a fraction. -/
theorem ofJson_toJson_unordered :
    let v := object [("y", number (-0.0)), ("x", array [number 0.5, null, string "a"] false)]
    v.FitsJson ∧ (ofJson v.toJson.sortKeys == v) = true ∧
      (ofJson v.toJson.sortKeys).toJson.sortKeys = v.toJson.sortKeys := by
  intro v
  have hfits : v.FitsJson := by
    have hzero : (number (-0.0)).FitsJson := .number (by decide)
    have hitems : (array [number 0.5, null, string "a"] false).FitsJson := by
      refine .array (List.forall_mem_cons.mpr ⟨.number (by decide), ?_⟩)
      exact List.forall_mem_cons.mpr ⟨.null, List.forall_mem_singleton.mpr (.string "a")⟩
    refine .object (by decide) (List.forall_mem_cons.mpr ⟨hzero, ?_⟩)
    exact List.forall_mem_singleton.mpr hitems
  exact ⟨hfits, ofJson_toJson hfits⟩

end Value

end DataOutline
