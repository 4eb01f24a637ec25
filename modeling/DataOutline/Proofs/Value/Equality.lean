import Mathlib
import DataOutline.Proofs.Mixin.Distinct
import DataOutline.Proofs.Mixin.Order
import DataOutline.Value.Operator

/-!
# The laws of equality

Two objects are compared by how many entries they have and by the values of the keys of the first
one. If neither names anything twice, that is enough: as many keys, all of them keys of the second
object, are all the keys of the second object. So two such objects are equal exactly if every key
has equal values in both, or a value in neither. Said in this way, equality does not tell one object
from the other, nor one order of entries from another.

From there on the laws go through values by induction. Equality is symmetric and transitive, it does
not look at the order of entries, and a value equals itself unless not-a-number is in it. Of the
two operators of expressions the strict one is this equality, and the loose one differs from it only
between values of different types.
-/

namespace DataOutline

open Expression (BinaryOperator)

namespace Value

variable {a a' b b' c : Value} {entries entries' : List (String × Value)}

/-! ## Equality as a relation -/

/-- Equal values: arrays item by item, objects key by key. -/
inductive Equal : Value → Value → Prop
  | null : Equal .null .null
  | boolean (b : Bool) : Equal (.boolean b) (.boolean b)
  | number {x y : Float} (h : (x == y) = true) : Equal (.number x) (.number y)
  | string (s : String) : Equal (.string s) (.string s)
  | function {f g : HostFunction} (h : f.id = g.id) : Equal (.function f) (.function g)
  | array {items items' : List Value} (unordered : Bool) (h : List.Forall₂ Equal items items') :
      Equal (.array items unordered) (.array items' unordered)
  | object {entries entries' : List (String × Value)}
      (h : ∀ k, Option.Rel Equal (Entries.get? k entries) (Entries.get? k entries')) :
      Equal (.object entries) (.object entries')

theorem equal_array_iff {items items' : List Value} {unordered unordered' : Bool} :
    Equal (.array items unordered) (.array items' unordered') ↔
      unordered = unordered' ∧ List.Forall₂ Equal items items' := by
  constructor
  · rintro (_ | _ | _ | _ | _ | ⟨_, h⟩ | _)
    exact ⟨rfl, h⟩
  · rintro ⟨rfl, h⟩
    exact .array unordered h

theorem equal_object_iff :
    Equal (.object entries) (.object entries') ↔
      ∀ k, Option.Rel Equal (Entries.get? k entries) (Entries.get? k entries') := by
  constructor
  · rintro (_ | _ | _ | _ | _ | _ | h)
    exact h
  · exact .object

/-! ### Comparing values -/

theorem beqItems_iff {items items' : List Value}
    (each : ∀ x ∈ items, ∀ y ∈ items', (x == y) = true ↔ Equal x y) :
    beqItems items items' = true ↔ List.Forall₂ Equal items items' := by
  induction items generalizing items' with
  | nil => cases items' <;> simp [beqItems]
  | cons x items ih =>
    cases items' with
    | nil => simp [beqItems]
    | cons y items' =>
      have hfirst := each x List.mem_cons_self y List.mem_cons_self
      have hmore := ih fun x hx y hy ↦
        each x (List.mem_cons_of_mem _ hx) y (List.mem_cons_of_mem _ hy)
      rw [beqItems, Bool.and_eq_true, hmore, List.forall₂_cons]
      exact and_congr_left fun _ ↦ hfirst

theorem beqEntries_iff :
    beqEntries entries entries' = true ↔
      ∀ e ∈ entries, ∃ y, Entries.get? e.1 entries' = some y ∧ (e.2 == y) = true := by
  induction entries with
  | nil => simp [beqEntries]
  | cons e entries ih =>
    obtain ⟨k, x⟩ := e
    rw [beqEntries, Bool.and_eq_true, ih, List.forall_mem_cons]
    refine and_congr_left fun _ ↦ ?_
    cases Entries.get? k entries' with
    | none => simp
    | some y => simp [BEq.beq]

/-- As many keys, all of which another object has, are all that it has: the counting behind the
comparison of objects. -/
theorem keys_perm_of_each (nodup : (Entries.keys entries).Nodup)
    (length : entries.length = entries'.length)
    (each : ∀ e ∈ entries, ∃ y, Entries.get? e.1 entries' = some y ∧ (e.2 == y) = true) :
    (Entries.keys entries).Perm (Entries.keys entries') := by
  have hsubset : Entries.keys entries ⊆ Entries.keys entries' := by
    intro k hk
    obtain ⟨v, hv⟩ := Entries.mem_keys_iff_exists.mp hk
    obtain ⟨y, hy, -⟩ := each _ (Entries.mem_of_get?_eq_some hv)
    exact Entries.mem_keys_iff_exists.mpr ⟨y, hy⟩
  refine (List.subperm_of_subset nodup hsubset).perm_of_length_le ?_
  simp only [Entries.keys, List.length_map, length, le_refl]

theorem object_beq_iff (nodup : (Entries.keys entries).Nodup)
    (nodup' : (Entries.keys entries').Nodup)
    (each : ∀ e ∈ entries, ∀ e' ∈ entries', (e.2 == e'.2) = true ↔ Equal e.2 e'.2) :
    (object entries == object entries') = true ↔ Equal (.object entries) (.object entries') := by
  change (entries.length == entries'.length && beqEntries entries entries') = true ↔ _
  rw [Bool.and_eq_true, beq_iff_eq, beqEntries_iff, equal_object_iff]
  have heach : ∀ {k x y}, Entries.get? k entries = some x → Entries.get? k entries' = some y →
      ((x == y) = true ↔ Equal x y) := fun hx hy ↦
    each _ (Entries.mem_of_get?_eq_some hx) _ (Entries.mem_of_get?_eq_some hy)
  constructor
  · rintro ⟨hlength, hvalues⟩ k
    have hkeys := keys_perm_of_each nodup hlength hvalues
    rw [option_rel_iff]
    by_cases hk : k ∈ Entries.keys entries
    · obtain ⟨x, hx⟩ := Entries.mem_keys_iff_exists.mp hk
      obtain ⟨y, hy, hequal⟩ := hvalues _ (Entries.mem_of_get?_eq_some hx)
      exact Or.inr ⟨x, y, hx, hy, (heach hx hy).mp hequal⟩
    · have hk' : k ∉ Entries.keys entries' := hk ∘ hkeys.mem_iff.mpr
      rw [Entries.mem_keys_iff, Option.not_isSome_iff_eq_none] at hk hk'
      exact Or.inl ⟨hk, hk'⟩
  · intro hrel
    have hkeys : (Entries.keys entries).Perm (Entries.keys entries') := by
      refine (List.perm_ext_iff_of_nodup nodup nodup').mpr fun k ↦ ?_
      rw [Entries.mem_keys_iff, Entries.mem_keys_iff]
      rcases option_rel_iff.mp (hrel k) with ⟨hx, hy⟩ | ⟨x, y, hx, hy, -⟩ <;> simp [hx, hy]
    constructor
    · simpa only [Entries.keys, List.length_map] using hkeys.length_eq
    · intro e he
      have hx := Entries.get?_eq_some_of_mem nodup he
      rcases option_rel_iff.mp (hrel e.1) with ⟨hnone, -⟩ | ⟨x, y, hx', hy, hequal⟩
      · cases hx.symm.trans hnone
      · cases hx.symm.trans hx'
        exact ⟨y, hy, (heach hx hy).mpr hequal⟩

theorem typeName_eq_of_beq (h : (a == b) = true) : a.typeName = b.typeName := by
  cases a <;> cases b <;> first | rfl | cases h

theorem Equal.typeName_eq (h : Equal a b) : a.typeName = b.typeName := by
  cases h <;> rfl

theorem beq_iff_equal_of_ne (h : a.typeName ≠ b.typeName) : (a == b) = true ↔ Equal a b :=
  iff_of_false (h ∘ typeName_eq_of_beq) (h ∘ Equal.typeName_eq)

theorem plain_beq_iff (plain : a.isStructured = false) : (a == b) = true ↔ Equal a b := by
  cases a with
  | null =>
    cases b with
    | null => exact ⟨fun _ ↦ .null, fun _ ↦ rfl⟩
    | _ => exact beq_iff_equal_of_ne (by simp [typeName])
  | boolean x =>
    cases b with
    | boolean y =>
      change (x == y) = true ↔ _
      rw [beq_iff_eq]
      constructor
      · rintro rfl
        exact .boolean x
      · rintro ⟨⟩
        rfl
    | _ => exact beq_iff_equal_of_ne (by simp [typeName])
  | number x =>
    cases b with
    | number y =>
      constructor
      · exact .number
      · rintro (_ | _ | h)
        exact h
    | _ => exact beq_iff_equal_of_ne (by simp [typeName])
  | string s =>
    cases b with
    | string t =>
      change (s == t) = true ↔ _
      rw [beq_iff_eq]
      constructor
      · rintro rfl
        exact .string s
      · rintro ⟨⟩
        rfl
    | _ => exact beq_iff_equal_of_ne (by simp [typeName])
  | function f =>
    cases b with
    | function g =>
      change (f.id == g.id) = true ↔ _
      rw [beq_iff_eq]
      constructor
      · exact .function
      · rintro (_ | _ | _ | _ | h)
        exact h
    | _ => exact beq_iff_equal_of_ne (by simp [typeName])
  | array | object => cases plain

/-- **Values are compared as equality says**, if they name nothing twice. -/
theorem beq_iff_equal (ha : a.Distinct) (hb : b.Distinct) : (a == b) = true ↔ Equal a b := by
  induction a using Value.induction generalizing b with
  | plain a plain => exact plain_beq_iff plain
  | array items unordered ih =>
    cases b with
    | array items' unordered' =>
      change (unordered == unordered' && beqItems items items') = true ↔ _
      rw [Bool.and_eq_true, beq_iff_eq, equal_array_iff,
        beqItems_iff fun x hx y hy ↦ ih x hx (ha.each_item hx) (hb.each_item hy)]
    | _ => exact beq_iff_equal_of_ne (by simp [typeName])
  | object entries ih =>
    cases b with
    | object entries' =>
      refine object_beq_iff ha.keys_nodup hb.keys_nodup fun e he e' he' ↦ ?_
      exact ih e he (ha.each_entry he) (hb.each_entry he')
    | _ => exact beq_iff_equal_of_ne (by simp [typeName])

/-! ## The laws -/

namespace Equal

theorem symm (h : Equal a b) : Equal b a := by
  induction a using Value.induction generalizing b with
  | plain a plain =>
    cases h with
    | null => exact .null
    | boolean b => exact .boolean b
    | number h => exact .number (BEq.symm h)
    | string s => exact .string s
    | function h => exact .function h.symm
    | array | object => cases plain
  | array items unordered ih =>
    cases h with
    | array _ h =>
      refine .array unordered (forall₂_symm ?_ h)
      exact fun x hx y hxy ↦ ih x hx hxy
  | object entries ih =>
    cases h with
    | object h =>
      refine .object fun k ↦ option_rel_symm ?_ (h k)
      exact fun x hx y hxy ↦ ih _ (Entries.mem_of_get?_eq_some hx) hxy

theorem trans (h : Equal a b) (h' : Equal b c) : Equal a c := by
  induction a using Value.induction generalizing b c with
  | plain a plain =>
    cases h with
    | null => exact h'
    | boolean b => exact h'
    | number h =>
      cases h' with
      | number h' => exact .number (BEq.trans h h')
    | string s => exact h'
    | function h =>
      cases h' with
      | function h' => exact .function (h.trans h')
    | array | object => cases plain
  | array items unordered ih =>
    cases h with
    | array _ h =>
      cases h' with
      | array _ h' =>
        refine .array unordered (forall₂_trans ?_ h h')
        exact fun x hx _ _ ↦ ih x hx
  | object entries ih =>
    cases h with
    | object h =>
      cases h' with
      | object h' =>
        refine .object fun k ↦ option_rel_trans ?_ (h k) (h' k)
        exact fun x hx y z ↦ ih _ (Entries.mem_of_get?_eq_some hx)

/-- The order of keys is no part of what equality looks at. -/
theorem of_reorders (h : Equal a b) (reorders : a.Reorders a') : Equal a' b := by
  induction a using Value.induction generalizing a' b with
  | plain a plain =>
    cases reorders with
    | plain => exact h
    | array | object => cases plain
  | array items unordered ih =>
    cases reorders with
    | plain h => cases h
    | array _ hitems =>
      cases h with
      | array _ h =>
        refine .array unordered (forall₂_of_common ?_ hitems h)
        exact fun x hx _ _ hreorders hequal ↦ ih x hx hequal hreorders
  | object entries ih =>
    cases h with
    | object h =>
      cases reorders with
      | plain h => cases h
      | @object _ entries' keys values =>
        have hreorders := fun k ↦ option_rel_iff.mpr (Reorders.get?_rel (.object keys values) k)
        refine .object fun k ↦ option_rel_of_common ?_ (hreorders k) (h k)
        exact fun x hx x' y hxx' hxy ↦ ih _ (Entries.mem_of_get?_eq_some hx) hxy hxx'

end Equal

/-- Whether not-a-number stands somewhere in a value. -/
inductive HasNaN : Value → Prop
  | number {x : Float} (h : x.isNaN = true) : HasNaN (.number x)
  | item {items : List Value} {x : Value} (unordered : Bool) (hx : x ∈ items) (h : HasNaN x) :
      HasNaN (.array items unordered)
  | entry {entries : List (String × Value)} {e : String × Value} (he : e ∈ entries)
      (h : HasNaN e.2) : HasNaN (.object entries)

section HasNaN

theorem hasNaN_number_iff {x : Float} : (number x).HasNaN ↔ x.isNaN = true := by
  constructor
  · rintro ⟨h⟩
    exact h
  · exact .number

theorem hasNaN_array_iff {items : List Value} {unordered : Bool} :
    (array items unordered).HasNaN ↔ ∃ x ∈ items, x.HasNaN := by
  constructor
  · rintro (_ | ⟨_, hx, h⟩ | _)
    exact ⟨_, hx, h⟩
  · rintro ⟨x, hx, h⟩
    exact .item unordered hx h

theorem hasNaN_object_iff : (object entries).HasNaN ↔ ∃ e ∈ entries, e.2.HasNaN := by
  constructor
  · rintro (_ | _ | ⟨he, h⟩)
    exact ⟨_, he, h⟩
  · rintro ⟨e, he, h⟩
    exact .entry he h

/-- Only numbers and what has parts can have not-a-number in them. -/
theorem not_hasNaN_of_plain (plain : a.isStructured = false) (h : a.typeName ≠ "number") :
    ¬a.HasNaN := by
  rintro (_ | _ | _)
  · exact h rfl
  · cases plain
  · cases plain

end HasNaN

theorem equal_self_iff (ha : a.Distinct) : Equal a a ↔ ¬a.HasNaN := by
  induction a using Value.induction with
  | plain a plain =>
    cases a with
    | null => exact iff_of_true .null (not_hasNaN_of_plain plain (by simp [typeName]))
    | boolean b => exact iff_of_true (.boolean b) (not_hasNaN_of_plain plain (by simp [typeName]))
    | number x =>
      rw [hasNaN_number_iff, Float.isNaN_eq_decide_eq_nan, decide_eq_true_iff, ← ne_eq,
        ← Float.beq_self_iff]
      exact (plain_beq_iff plain).symm
    | string s => exact iff_of_true (.string s) (not_hasNaN_of_plain plain (by simp [typeName]))
    | function f =>
      exact iff_of_true (.function rfl) (not_hasNaN_of_plain plain (by simp [typeName]))
    | array | object => cases plain
  | array items unordered ih =>
    have hitems : Equal (array items unordered) (array items unordered) ↔
        ∀ x ∈ items, Equal x x := by
      rw [equal_array_iff, List.forall₂_same]
      exact and_iff_right rfl
    rw [hitems, hasNaN_array_iff, not_exists]
    refine forall_congr' fun x ↦ ?_
    rw [not_and]
    exact forall_congr' fun hx ↦ ih x hx (ha.each_item hx)
  | object entries ih =>
    have hentries : Equal (object entries) (object entries) ↔ ∀ e ∈ entries, Equal e.2 e.2 := by
      rw [equal_object_iff]
      constructor
      · intro h e he
        have hself := h e.1
        rw [Entries.get?_eq_some_of_mem ha.keys_nodup he] at hself
        cases hself with
        | some hself => exact hself
      · intro h k
        cases hx : Entries.get? k entries with
        | none => exact .none
        | some x => exact .some (h _ (Entries.mem_of_get?_eq_some hx))
    rw [hentries, hasNaN_object_iff, not_exists]
    refine forall_congr' fun e ↦ ?_
    rw [not_and]
    exact forall_congr' fun he ↦ ih e he (ha.each_entry he)

/-! ## The order of entries -/

namespace Reorders

theorem symm (h : a.Reorders b) : b.Reorders a := by
  induction a using Value.induction generalizing b with
  | plain a plain =>
    cases h with
    | plain h => exact .plain h
    | array | object => cases plain
  | array items unordered ih =>
    cases h with
    | plain h => cases h
    | array _ h =>
      refine .array unordered (forall₂_symm ?_ h)
      exact fun x hx y hxy ↦ ih x hx hxy
  | object entries ih =>
    cases h with
    | plain h => cases h
    | object keys values =>
      refine .object keys.symm fun k y x hy hx ↦ ?_
      exact ih _ (Entries.mem_of_get?_eq_some hx) (values k x y hx hy)

theorem of_perm (nodup : (Entries.keys entries).Nodup) (h : entries.Perm entries') :
    Reorders (.object entries) (.object entries') := by
  have hkeys : (Entries.keys entries).Perm (Entries.keys entries') := h.map Prod.fst
  refine of_get?_eq hkeys fun k ↦ Option.ext fun v ↦ ?_
  rw [Entries.get?_eq_some_iff nodup, Entries.get?_eq_some_iff (hkeys.nodup_iff.mp nodup),
    h.mem_iff]

theorem distinct (h : a.Reorders b) (ha : a.Distinct) : b.Distinct := by
  induction a using Value.induction generalizing b with
  | plain a plain =>
    cases h with
    | plain => exact ha
    | array | object => cases plain
  | array items unordered ih =>
    cases h with
    | plain h => cases h
    | array _ h =>
      refine .array unordered fun y hy ↦ ?_
      obtain ⟨x, hx, hxy⟩ := exists_of_forall₂ h.flip hy
      exact ih x hx hxy (ha.each_item hx)
  | object entries ih =>
    cases h with
    | plain h => cases h
    | @object _ entries' keys values =>
      have hnodup : (Entries.keys entries').Nodup := keys.nodup_iff.mp ha.keys_nodup
      refine .object hnodup fun e he ↦ ?_
      have hy := Entries.get?_eq_some_of_mem hnodup he
      have hk : e.1 ∈ Entries.keys entries :=
        keys.mem_iff.mpr (Entries.mem_keys_iff_exists.mpr ⟨_, hy⟩)
      obtain ⟨x, hx⟩ := Entries.mem_keys_iff_exists.mp hk
      have hmem := Entries.mem_of_get?_eq_some hx
      exact ih _ hmem (values e.1 x e.2 hx hy) (ha.each_entry hmem)

end Reorders

/-! ## What a comparison gives -/

theorem beq_comm (ha : a.Distinct) (hb : b.Distinct) : (a == b) = (b == a) := by
  rw [Bool.eq_iff_iff, beq_iff_equal ha hb, beq_iff_equal hb ha]
  exact ⟨.symm, .symm⟩

/-- Entries of objects may be reordered, at any depth and on both sides. -/
theorem beq_congr (ha : a.Distinct) (hb : b.Distinct) (haa' : a.Reorders a')
    (hbb' : b.Reorders b') : (a' == b') = (a == b) := by
  rw [Bool.eq_iff_iff, beq_iff_equal ha hb, beq_iff_equal (haa'.distinct ha) (hbb'.distinct hb)]
  constructor
  · exact fun h ↦ ((h.of_reorders haa'.symm).symm.of_reorders hbb'.symm).symm
  · exact fun h ↦ ((h.of_reorders haa').symm.of_reorders hbb').symm

theorem looseEq_comm (ha : a.Distinct) (hb : b.Distinct) : looseEq a b = looseEq b a := by
  unfold looseEq
  by_cases htype : a.typeName = b.typeName
  · rw [if_pos htype, if_pos htype.symm, beq_comm ha hb]
  · rw [if_neg htype, if_neg (Ne.symm htype)]
    cases a.looseNumber? with
    | none => cases b.looseNumber? <;> rfl
    | some x =>
      cases b.looseNumber? with
      | none => rfl
      | some y => exact BEq.comm

/-- **The laws of equality.** Of values that name nothing twice, as all do whose objects were built
by insertion, equality is symmetric and transitive; a value equals itself exactly if not-a-number is
nowhere in it; and the order of entries in objects, at any depth, does not matter. The loose
operator of expressions is symmetric as well. It holds where the strict one does, and between values
of one type the two are the same. -/
theorem equality_laws :
    (∀ {a b c : Value}, a.Distinct → b.Distinct → c.Distinct →
      (a == b) = (b == a) ∧
        ((a == b) = true → (b == c) = true → (a == c) = true) ∧
        ((a == a) = true ↔ ¬a.HasNaN) ∧
        (∀ {a' b' : Value}, a.Reorders a' → b.Reorders b' → (a' == b') = (a == b)) ∧
        binary .equal a b = binary .equal b a) ∧
    ∀ {a b : Value},
      (binary .strictEqual a b = .ok (.boolean true) → binary .equal a b = .ok (.boolean true)) ∧
        (a.typeName = b.typeName → binary .equal a b = binary .strictEqual a b) := by
  constructor
  · intro a b c ha hb hc
    refine ⟨beq_comm ha hb, ?_, ?_, beq_congr ha hb, ?_⟩
    · rw [beq_iff_equal ha hb, beq_iff_equal hb hc, beq_iff_equal ha hc]
      exact .trans
    · rw [beq_iff_equal ha ha]
      exact equal_self_iff ha
    · simp only [binary, looseEq_comm ha hb]
  · intro a b
    constructor
    · intro h
      have hstrict : (a == b) = true := boolean.inj (Except.ok.inj h)
      simp only [binary, looseEq, if_pos (typeName_eq_of_beq hstrict), hstrict]
    · intro htype
      simp only [binary, looseEq, if_pos htype]

/-- An object with its entries in two orders. -/
theorem equality_laws_swapped :
    let entries := [("x", number 1.5), ("y", array [object [("z", null)], boolean true] false)]
    (object entries).Distinct ∧ (object entries).Reorders (object entries.reverse) ∧
      (object entries.reverse == object entries) = true ∧
      binary .equal (object entries.reverse) (object entries) = .ok (.boolean true) := by
  intro entries
  have hdistinct : (object entries).Distinct := by
    have hinner : (object [("z", null)]).Distinct :=
      .object (by decide) (List.forall_mem_singleton.mpr (.plain rfl))
    refine .object (by decide) (List.forall_mem_cons.mpr ⟨.plain rfl, ?_⟩)
    refine List.forall_mem_singleton.mpr (.array false (List.forall_mem_cons.mpr ⟨hinner, ?_⟩))
    exact List.forall_mem_singleton.mpr (.plain rfl)
  have hreorders : (object entries).Reorders (object entries.reverse) :=
    .of_perm (by decide) (List.reverse_perm entries).symm
  have hnan : ¬(object entries.reverse).HasNaN := by
    have hnumber : (1.5 : Float).isNaN = false := by decide
    have hnull : ¬null.HasNaN := not_hasNaN_of_plain rfl (by decide)
    have htrue : ¬(boolean true).HasNaN := not_hasNaN_of_plain rfl (by decide)
    simpa [entries, hasNaN_object_iff, hasNaN_array_iff, hasNaN_number_iff] using
      And.intro (And.intro hnull htrue) hnumber
  obtain ⟨hlaws, hoperators⟩ := equality_laws
  obtain ⟨-, -, hself, hcongr, -⟩ := hlaws (hreorders.distinct hdistinct) hdistinct hdistinct
  obtain ⟨hloose, -⟩ := hoperators (a := object entries.reverse) (b := object entries)
  have hequal : (object entries.reverse == object entries) = true :=
    (hcongr (.refl _) hreorders).symm.trans (hself.mpr hnan)
  refine ⟨hdistinct, hreorders, hequal, hloose ?_⟩
  rw [binary, hequal]

end Value

end DataOutline
