import Mathlib.Data.List.Basic
import DataOutline.Mixin.Edit
import DataOutline.Proofs.Entries

/-!
# Places in a value

A location is a list of steps, each to one part: an item of an array by its index, or the value of
an object's key. A path is more than that, since a key that meets an array stands for all of its
items. So a path is walked, and a walk comes to many locations. What a walk does at one value, it
does by the first segment that is left: it selects some parts of the value, and goes on in each of
them with a path that is left there.
-/

namespace DataOutline

/-! ## Parts -/

/-- Induction on a value: every item and the value of every entry may be assumed. -/
@[elab_as_elim]
theorem Value.induction {motive : Value → Prop}
    (array : ∀ items unordered, (∀ x ∈ items, motive x) → motive (.array items unordered))
    (object : ∀ entries, (∀ e ∈ entries, motive e.2) → motive (.object entries))
    (plain : ∀ v, v.isStructured = false → motive v) : ∀ v, motive v
  | .array items unordered =>
    array items unordered fun x _ ↦ Value.induction array object plain x
  | .object entries => object entries fun e _ ↦ Value.induction array object plain e.2
  | .null => plain .null rfl
  | .boolean b => plain (.boolean b) rfl
  | .number x => plain (.number x) rfl
  | .string s => plain (.string s) rfl
  | .function f => plain (.function f) rfl
termination_by v => sizeOf v
decreasing_by
  · have := List.sizeOf_lt_of_mem ‹x ∈ items›
    simp only [Value.array.sizeOf_spec]
    omega
  · have := Entries.sizeOf_value_lt ‹e ∈ entries›
    simp only [Value.object.sizeOf_spec]
    omega

namespace Mixin

/-- The steps that lead from a value to one of its parts, or parts of parts. Here an index is that
of an item, and a key is that of an entry. -/
abbrev Location := List Segment

end Mixin

open Mixin (Segment Path Location)

namespace Value

/-- The part of a value at a step. -/
def part? : Value → Segment → Option Value
  | .array items _, .index i => items[i]?
  | .object entries, .key k => Entries.get? k entries
  | _, _ => none

def at? (v : Value) : Location → Option Value
  | [] => some v
  | t :: l => (v.part? t).bind fun w ↦ at? w l

/-- The part of a value at a step, where an object holds an empty object at every key that it
lacks. -/
def grown? : Value → Segment → Option Value
  | .object entries, .key k => some ((Entries.get? k entries).getD (.object []))
  | v, t => v.part? t

theorem at?_cons_of_part? {v w : Value} {t : Segment} (h : v.part? t = some w) (l : Location) :
    v.at? (t :: l) = w.at? l := by
  rw [at?, h, Option.bind_some]

theorem at?_cons_eq_some_iff {v y : Value} {t : Segment} {l : Location} :
    v.at? (t :: l) = some y ↔ ∃ w, v.part? t = some w ∧ w.at? l = some y := by
  rw [at?, Option.bind_eq_some_iff]

theorem eq_nil_of_at?_empty {l : Location} {y : Value} (h : (object []).at? l = some y) :
    l = [] := by
  cases l with
  | nil => rfl
  | cons t l =>
    obtain ⟨w, hpart, -⟩ := at?_cons_eq_some_iff.mp h
    cases t <;> exact nomatch hpart

theorem grown?_eq_getD {v w : Value} {t : Segment} (h : v.grown? t = some w) :
    w = (v.part? t).getD (.object []) := by
  unfold grown? at h
  split at h
  · exact (Option.some.inj h).symm
  · rw [h, Option.getD_some]

theorem eq_of_grown? {v w w' : Value} {t : Segment} (h : v.grown? t = some w)
    (part : v.part? t = some w') : w = w' := by
  rw [grown?_eq_getD h, part, Option.getD_some]

end Value

namespace Mixin

/-- Induction along an edit, which takes a path down into a value. Behind an index, and behind a key
of an object, there is less of the path, whatever the value is there. A key at an array stays as it
is, and the values are its items. -/
@[elab_as_elim]
theorem editInduction {motive : Path → Value → Prop} (nil : ∀ v, motive [] v)
    (plain : ∀ s rest v, v.isStructured = false → motive (s :: rest) v)
    (number : ∀ i rest entries, motive (.index i :: rest) (.object entries))
    (entry : ∀ k rest entries, (∀ y, motive rest y) → motive (.key k :: rest) (.object entries))
    (each : ∀ k rest items unordered, (∀ y ∈ items, motive (.key k :: rest) y) →
      motive (.key k :: rest) (.array items unordered))
    (item : ∀ i rest items unordered, (∀ y, motive rest y) →
      motive (.index i :: rest) (.array items unordered)) (p : Path) (v : Value) : motive p v := by
  induction p generalizing v with
  | nil => exact nil v
  | cons s rest ih =>
    induction v using Value.induction with
    | plain v hv => exact plain s rest v hv
    | object entries _ =>
      cases s with
      | index i => exact number i rest entries
      | key k => exact entry k rest entries ih
    | array items unordered ihv =>
      cases s with
      | index i => exact item i rest items unordered ih
      | key k => exact each k rest items unordered ihv

/-! ## Walks -/

/-- `Selects p v t q`: with the path `p` left, a walk at the value `v` takes the step `t` and has
the path `q` left. A key at an array stays and is applied to every item. -/
inductive Selects : Path → Value → Segment → Path → Prop
  | index {i : Nat} {rest : Path} {items : List Value} {unordered : Bool} :
      Selects (.index i :: rest) (.array items unordered) (.index i) rest
  | key {k : String} {rest : Path} {entries : List (String × Value)} :
      Selects (.key k :: rest) (.object entries) (.key k) rest
  | each {k : String} {rest : Path} {items : List Value} {unordered : Bool} {j : Nat}
      (inside : j < items.length) :
      Selects (.key k :: rest) (.array items unordered) (.index j) (.key k :: rest)

/-- `Walks look p v l r w`: a walk along the path `p` from the value `v` comes to the location `l`,
where the value is `w` and the path `r` is left. What it finds at a step, `look` says. -/
inductive Walks (look : Value → Segment → Option Value) :
    Path → Value → Location → Path → Value → Prop
  | here (p : Path) (v : Value) : Walks look p v [] p v
  | step {p q r : Path} {v w u : Value} {t : Segment} {l : Location}
      (selects : Selects p v t q) (part : look v t = some w) (more : Walks look q w l r u) :
      Walks look p v (t :: l) r u

theorem Walks.eq_nil {look : Value → Segment → Option Value} {v w : Value} {l : Location} {r : Path}
    (h : Walks look [] v l r w) : l = [] ∧ r = [] := by
  cases h with
  | here => exact ⟨rfl, rfl⟩
  | step selects => exact nomatch selects

/-- The locations that a path denotes in a value: those where a walk ends. -/
def Denotes (p : Path) (v : Value) (l : Location) : Prop := ∃ w, Walks Value.part? p v l [] w

theorem Walks.at?_eq {p r : Path} {v w : Value} {l : Location} (h : Walks Value.part? p v l r w) :
    v.at? l = some w := by
  induction h with
  | here p v => rfl
  | step selects part more ih => rw [Value.at?_cons_of_part? part, ih]

theorem denotes_nil_nil (v : Value) : Denotes [] v [] := ⟨v, .here [] v⟩

theorem Denotes.eq_nil {v : Value} {l : Location} (h : Denotes [] v l) : l = [] := by
  obtain ⟨w, h⟩ := h
  exact h.eq_nil.1

theorem Denotes.cons {p q : Path} {v w : Value} {t : Segment} {l : Location}
    (selects : Selects p v t q) (part : v.part? t = some w) (h : Denotes q w l) :
    Denotes p v (t :: l) :=
  h.imp fun _ more ↦ .step selects part more

theorem denotes_cons_iff {p : Path} {v : Value} {t : Segment} {l : Location} :
    Denotes p v (t :: l) ↔ ∃ q w, Selects p v t q ∧ v.part? t = some w ∧ Denotes q w l := by
  constructor
  · rintro ⟨u, h⟩
    cases h with
    | step selects part more => exact ⟨_, _, selects, part, u, more⟩
  · rintro ⟨q, w, selects, part, h⟩
    exact h.cons selects part

/-- A location outside of all that a path denotes is outside of it in a part that the walk comes
to. -/
theorem outside_of_cons {p q : Path} {v w : Value} {t : Segment} {l : Location}
    (selects : Selects p v t q) (part : v.part? t = some w)
    (hout : ∀ d, Denotes p v d → ¬d <+: t :: l) : ∀ d, Denotes q w d → ¬d <+: l := by
  intro d hd hprefix
  have hcons : t :: d <+: t :: l := List.cons_prefix_cons.mpr ⟨rfl, hprefix⟩
  exact hout (t :: d) (hd.cons selects part) hcons

theorem Walks.denotes_append {p q : Path} {v w : Value} {l d : Location}
    (h : Walks Value.part? p v l q w) (hd : Denotes q w d) : Denotes p v (l ++ d) := by
  induction h with
  | here p v => exact hd
  | step selects part more ih => exact (ih hd).cons selects part

theorem Denotes.ne_nil {p : Path} {v : Value} {l : Location} (hp : p ≠ []) (h : Denotes p v l) :
    l ≠ [] := by
  rintro rfl
  obtain ⟨w, h⟩ := h
  cases h
  exact hp rfl

/-! ## Changing one part

A function that goes down a list to the one item at an index, or to the first entry of a name, and
computes another value for it there. -/

section OnePart

variable {ε : Type} {g : Value → Except ε Value}

theorem eq_map_set {f : List Value → Nat → Except ε (List Value)}
    (hzero : ∀ z zs, f (z :: zs) 0 = (· :: zs) <$> g z)
    (hsucc : ∀ z zs i, f (z :: zs) (i + 1) = (z :: ·) <$> f zs i)
    {items : List Value} {i : Nat} {y : Value} (h : items[i]? = some y) :
    f items i = (items.set i ·) <$> g y := by
  induction items generalizing i with
  | nil => exact nomatch h
  | cons z items ih =>
    cases i with
    | zero =>
      cases h
      exact hzero _ items
    | succ i =>
      rw [hsucc, ih h, Functor.map_map]
      rfl

theorem eq_map_insert {k : String} {f : Entries Value → Except ε (Entries Value)}
    (hcons : ∀ k' z es, f ((k', z) :: es) =
      if k' = k then (fun y' ↦ (k', y') :: es) <$> g z else ((k', z) :: ·) <$> f es)
    {entries : Entries Value} {y : Value} (h : entries.get? k = some y) :
    f entries = (fun y' ↦ entries.insert k y') <$> g y := by
  induction entries with
  | nil => exact nomatch h
  | cons e entries ih =>
    obtain ⟨k', z⟩ := e
    rw [Entries.get?] at h
    rw [hcons]
    split at h
    · next hk =>
      cases h
      rw [if_pos hk]
      simp only [Entries.insert, if_pos hk]
    · next hk =>
      rw [if_neg hk, ih h, Functor.map_map]
      simp only [Entries.insert, if_neg hk]

end OnePart

/-! ## Rebuilding a value along a walk -/

/-- What is left of a value when a walk has changed the parts that it selects there: the other
parts, and all of it if these parts are as they were. -/
structure Rebuilds (p : Path) (v v' : Value) : Prop where
  others : ∀ t, (∀ q, ¬Selects p v t q) → v'.part? t = v.part? t
  same : (∀ t q, Selects p v t q → v'.part? t = v.part? t) → v' = v

/-- Two arrays of one order, or two objects. -/
inductive SameKind : Value → Value → Prop
  | array (items items' : List Value) (unordered : Bool) :
      SameKind (.array items unordered) (.array items' unordered)
  | object (entries entries' : List (String × Value)) :
      SameKind (.object entries) (.object entries')

theorem Rebuilds.selects_iff {p q : Path} {v v' w : Value} {t : Segment} (h : Rebuilds p v v')
    (kind : SameKind v v') (part : v'.part? t = some w) : Selects p v' t q ↔ Selects p v t q := by
  constructor
  · intro selects
    cases kind with
    | object entries entries' =>
      cases selects
      exact .key
    | array items items' unordered =>
      cases selects with
      | index => exact .index
      | @each k rest _ _ j inside =>
        refine .each (Nat.not_le.mp fun hj ↦ ?_)
        -- A step behind the last item is not selected, and it leads nowhere, then as before.
        have hothers := h.others (.index j) fun q selects ↦ by
          cases selects with
          | each hlt => exact Nat.not_le.mpr hlt hj
        rw [part] at hothers
        exact nomatch hothers.trans (List.getElem?_eq_none hj)
  · intro selects
    cases kind with
    | object entries entries' =>
      cases selects
      exact .key
    | array items items' unordered =>
      cases selects with
      | index => exact .index
      | each => exact .each (List.getElem?_eq_some_iff.mp part).1

theorem rebuilds_set {i : Nat} {items : List Value} (h : i < items.length) (rest : Path)
    (unordered : Bool) (y : Value) :
    Rebuilds (.index i :: rest) (.array items unordered) (.array (items.set i y) unordered) where
  others t ht := by
    cases t with
    | index j =>
      have hne : i ≠ j := by
        rintro rfl
        exact ht rest .index
      exact List.getElem?_set_ne hne
    | key k => rfl
  same hsame := by
    have hi : (items.set i y)[i]? = items[i]? := hsame _ _ .index
    rw [List.getElem?_set_self h, List.getElem?_eq_getElem h, Option.some.injEq] at hi
    rw [hi, List.set_getElem_self]

theorem rebuilds_append (items : List Value) (rest : Path) (unordered : Bool) (y : Value) :
    Rebuilds (.index items.length :: rest) (.array items unordered)
      (.array (items ++ [y]) unordered) where
  others t ht := by
    cases t with
    | index j =>
      have hne : j ≠ items.length := by
        rintro rfl
        exact ht rest .index
      change (items ++ [y])[j]? = items[j]?
      rcases Nat.lt_or_gt_of_ne hne with hlt | hlt
      · exact List.getElem?_append_left hlt
      · rw [List.getElem?_eq_none (Nat.le_of_lt hlt), List.getElem?_eq_none]
        rw [List.length_append, List.length_singleton]
        exact hlt
    | key k => rfl
  same hsame := by
    have hi : (items ++ [y])[items.length]? = items[items.length]? := hsame _ _ .index
    rw [List.getElem?_concat_length, List.getElem?_eq_none (Nat.le_refl _)] at hi
    exact nomatch hi

theorem rebuilds_insert (k : String) (rest : Path) (entries : List (String × Value)) (y : Value) :
    Rebuilds (.key k :: rest) (.object entries) (.object (Entries.insert k y entries)) where
  others t ht := by
    cases t with
    | index j => rfl
    | key k' =>
      have hne : k' ≠ k := by
        rintro rfl
        exact ht rest .key
      exact Entries.get?_insert_of_ne y entries hne
  same hsame := by
    have hk : Entries.get? k (Entries.insert k y entries) = Entries.get? k entries :=
      hsame _ _ .key
    rw [Entries.get?_insert_self] at hk
    rw [Entries.insert_of_get?_eq_some hk.symm]

theorem rebuilds_each (k : String) (rest : Path) {items items' : List Value} (unordered : Bool)
    (hlen : items'.length = items.length) :
    Rebuilds (.key k :: rest) (.array items unordered) (.array items' unordered) where
  others t ht := by
    cases t with
    | index j =>
      have hj : items.length ≤ j := Nat.not_lt.mp fun hj ↦ ht _ (.each hj)
      change items'[j]? = items[j]?
      rw [List.getElem?_eq_none hj, List.getElem?_eq_none (hlen.symm ▸ hj)]
    | key k => rfl
  same hsame := by
    congr 1
    refine List.ext_getElem? fun j ↦ ?_
    by_cases hj : j < items.length
    · exact hsame _ _ (.each hj)
    · rw [List.getElem?_eq_none (Nat.not_lt.mp hj),
        List.getElem?_eq_none (hlen.symm ▸ Nat.not_lt.mp hj)]

end Mixin

end DataOutline
