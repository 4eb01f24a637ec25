import Mathlib.Data.Set.Card
import DataOutline.Entries.Operation
import DataOutline.Proofs.Entries

/-!
# Entries as an ordered map

What entries hold after some operations can be said without them, by the operations alone. A name is
present if it was inserted and has not been removed since; its value is the last one that was
written to it while it was present; and of two names the one that has been present longer stands
first. This describes one list of entries and no other. That it describes the list that the
operations leave is shown operation by operation: what it says of a history with one operation more
follows from what it says of the history, and the list changes accordingly.

Building entries from a list of pairs is a history of insertions.
-/

namespace DataOutline

namespace Entries

variable {α : Type}

/-! ## Histories -/

namespace Operation

/-- The name that an operation is about, if it may change anything. -/
def touches? : Operation α → Option String
  | .insert k _ | .remove k | .assign k _ => some k
  | .get _ | .has _ => none

/-- Whether an operation writes a value to a name that is present. -/
inductive Writes (key : String) (value : α) : Operation α → Prop
  | insert : Writes key value (.insert key value)
  | assign : Writes key value (.assign key value)

theorem touches?_eq_some_iff {op : Operation α} {key : String} :
    op.touches? = some key ↔ (∃ value, op.Writes key value) ∨ op = .remove key := by
  constructor
  · intro h
    cases op with
    | insert k v | assign k v =>
      cases h
      exact Or.inl ⟨v, by constructor⟩
    | remove k =>
      cases h
      exact Or.inr rfl
    | get | has => exact nomatch h
  · rintro (⟨value, _ | _⟩ | rfl) <;> rfl

theorem Writes.touches?_eq {op : Operation α} {key : String} {value : α}
    (h : op.Writes key value) : op.touches? = some key := by
  cases h <;> rfl

theorem Writes.unique {op : Operation α} {key other : String} {value w : α}
    (h : op.Writes key value) (h' : op.Writes other w) : key = other ∧ value = w := by
  cases h <;> cases h' <;> exact ⟨rfl, rfl⟩

end Operation

variable {history : List (Operation α)} {op : Operation α} {key other : String} {value : α}
  {es es' : Entries α}

/-- A name is present if it was inserted, and not removed since. -/
def Present (history : List (Operation α)) (key : String) : Prop :=
  ∃ before value after, history = before ++ .insert key value :: after ∧ .remove key ∉ after

/-- A name is absent if it was never inserted, or was last removed. -/
def Absent (history : List (Operation α)) (key : String) : Prop :=
  (∀ value, .insert key value ∉ history) ∨
    ∃ before after, history = before ++ .remove key :: after ∧ ∀ value, .insert key value ∉ after

/-- The last value that was written to a name since it became present: the name was present
afterwards, and there has been nothing about it since. -/
def LastWrite (history : List (Operation α)) (key : String) (value : α) : Prop :=
  ∃ before op after, history = before ++ op :: after ∧ op.Writes key value ∧
    Present (before ++ [op]) key ∧ ∀ o ∈ after, o.touches? ≠ some key

/-- A name that is present became so after the operations `before`. -/
def Arrives (history : List (Operation α)) (key : String) (before : List (Operation α)) : Prop :=
  ∃ value after, history = before ++ .insert key value :: after ∧ ¬Present before key ∧
    .remove key ∉ after

/-- Of two names that are present, one has been so for longer. -/
def Earlier (history : List (Operation α)) (key other : String) : Prop :=
  ∃ before before', Arrives history key before ∧ Arrives history other before' ∧
    before.length < before'.length

/-! ### One operation more -/

/-- A history that ends in an operation is split at this operation, or before it. -/
theorem concat_eq_split_iff {before after : List (Operation α)} {o : Operation α} :
    history ++ [op] = before ++ o :: after ↔
      (before = history ∧ o = op ∧ after = []) ∨
        ∃ after', after = after' ++ [op] ∧ history = before ++ o :: after' := by
  constructor
  · intro h
    rcases List.eq_nil_or_concat after with rfl | ⟨after', last, rfl⟩
    · obtain ⟨hhistory, hop⟩ := List.append_inj' h rfl
      exact Or.inl ⟨hhistory.symm, (List.singleton_inj.mp hop).symm, rfl⟩
    · rw [List.concat_eq_append, ← List.cons_append, ← List.append_assoc] at h
      obtain ⟨hhistory, hop⟩ := List.append_inj' h rfl
      exact Or.inr ⟨after', by rw [List.concat_eq_append, hop], hhistory⟩
  · rintro (⟨rfl, rfl, rfl⟩ | ⟨after', rfl, rfl⟩)
    · rfl
    · rw [List.append_assoc, List.cons_append]

theorem not_present_nil : ¬Present ([] : List (Operation α)) key := by
  rintro ⟨before, value, after, hnil, -⟩
  simp at hnil

theorem not_lastWrite_nil : ¬LastWrite ([] : List (Operation α)) key value := by
  rintro ⟨before, op, after, hnil, -⟩
  simp at hnil

theorem present_concat :
    Present (history ++ [op]) key ↔
      (∃ value, op = .insert key value) ∨ (Present history key ∧ op ≠ .remove key) := by
  constructor
  · rintro ⟨before, value, after, hsplit, hafter⟩
    rcases concat_eq_split_iff.mp hsplit with ⟨-, rfl, -⟩ | ⟨after', rfl, hhistory⟩
    · exact Or.inl ⟨value, rfl⟩
    · rw [List.mem_append, List.mem_singleton, not_or] at hafter
      exact Or.inr ⟨⟨before, value, after', hhistory, hafter.1⟩, Ne.symm hafter.2⟩
  · rintro (⟨value, rfl⟩ | ⟨⟨before, value, after, rfl, hafter⟩, hop⟩)
    · exact ⟨history, value, [], rfl, List.not_mem_nil⟩
    · refine ⟨before, value, after ++ [op], concat_eq_split_iff.mpr (Or.inr ⟨after, rfl, rfl⟩), ?_⟩
      rw [List.mem_append, List.mem_singleton, not_or]
      exact ⟨hafter, hop.symm⟩

theorem absent_concat :
    Absent (history ++ [op]) key ↔
      (∀ value, op ≠ .insert key value) ∧ (Absent history key ∨ op = .remove key) := by
  simp only [Absent, List.mem_append, List.mem_singleton, not_or]
  constructor
  · rintro (hnever | ⟨before, after, hsplit, hafter⟩)
    · exact ⟨fun value ↦ Ne.symm (hnever value).2, Or.inl (Or.inl fun value ↦ (hnever value).1)⟩
    · rcases concat_eq_split_iff.mp hsplit with ⟨-, rfl, -⟩ | ⟨after', rfl, hhistory⟩
      · refine ⟨fun value heq ↦ ?_, Or.inr rfl⟩
        cases heq
      · simp only [List.mem_append, List.mem_singleton, not_or] at hafter
        exact ⟨fun value ↦ Ne.symm (hafter value).2,
          Or.inl (Or.inr ⟨before, after', hhistory, fun value ↦ (hafter value).1⟩)⟩
  · rintro ⟨hop, (hnever | ⟨before, after, rfl, hafter⟩) | rfl⟩
    · exact Or.inl fun value ↦ ⟨hnever value, (hop value).symm⟩
    · refine Or.inr ⟨before, after ++ [op], concat_eq_split_iff.mpr (Or.inr ⟨after, rfl, rfl⟩), ?_⟩
      simp only [List.mem_append, List.mem_singleton, not_or]
      exact fun value ↦ ⟨hafter value, (hop value).symm⟩
    · exact Or.inr ⟨history, [], rfl, fun value ↦ List.not_mem_nil⟩

theorem lastWrite_concat :
    LastWrite (history ++ [op]) key value ↔
      (op.Writes key value ∧ Present (history ++ [op]) key) ∨
        (LastWrite history key value ∧ op.touches? ≠ some key) := by
  constructor
  · rintro ⟨before, o, after, hsplit, hwrites, hpresent, hafter⟩
    rcases concat_eq_split_iff.mp hsplit with ⟨rfl, rfl, -⟩ | ⟨after', rfl, hhistory⟩
    · exact Or.inl ⟨hwrites, hpresent⟩
    · rw [List.forall_mem_append, List.forall_mem_singleton] at hafter
      exact Or.inr ⟨⟨before, o, after', hhistory, hwrites, hpresent, hafter.1⟩, hafter.2⟩
  · rintro (⟨hwrites, hpresent⟩ | ⟨⟨before, o, after, rfl, hwrites, hpresent, hafter⟩, hop⟩)
    · exact ⟨history, op, [], rfl, hwrites, hpresent, nofun⟩
    · refine ⟨before, o, after ++ [op], concat_eq_split_iff.mpr (Or.inr ⟨after, rfl, rfl⟩), hwrites,
        hpresent, ?_⟩
      rw [List.forall_mem_append, List.forall_mem_singleton]
      exact ⟨hafter, hop⟩

theorem arrives_concat {before : List (Operation α)} :
    Arrives (history ++ [op]) key before ↔
      (before = history ∧ ¬Present history key ∧ ∃ value, op = .insert key value) ∨
        (Arrives history key before ∧ op ≠ .remove key) := by
  constructor
  · rintro ⟨value, after, hsplit, habsent, hafter⟩
    rcases concat_eq_split_iff.mp hsplit with ⟨rfl, rfl, -⟩ | ⟨after', rfl, hhistory⟩
    · exact Or.inl ⟨rfl, habsent, value, rfl⟩
    · rw [List.mem_append, List.mem_singleton, not_or] at hafter
      exact Or.inr ⟨⟨value, after', hhistory, habsent, hafter.1⟩, Ne.symm hafter.2⟩
  · rintro (⟨rfl, habsent, value, rfl⟩ | ⟨⟨value, after, rfl, habsent, hafter⟩, hop⟩)
    · exact ⟨value, [], rfl, habsent, List.not_mem_nil⟩
    · refine ⟨value, after ++ [op], concat_eq_split_iff.mpr (Or.inr ⟨after, rfl, rfl⟩), habsent, ?_⟩
      rw [List.mem_append, List.mem_singleton, not_or]
      exact ⟨hafter, hop.symm⟩

/-! ### What a history determines -/

theorem absent_iff_not_present : Absent history key ↔ ¬Present history key := by
  induction history using List.reverseRecOn with
  | nil => exact iff_of_true (Or.inl fun _ ↦ List.not_mem_nil) not_present_nil
  | append_singleton history op ih =>
    rw [absent_concat, present_concat, ih, not_or, not_exists, not_and_or, not_not]

theorem present_iff_exists_lastWrite :
    Present history key ↔ ∃ value, LastWrite history key value := by
  induction history using List.reverseRecOn with
  | nil =>
    refine iff_of_false not_present_nil ?_
    rintro ⟨value, hlast⟩
    exact not_lastWrite_nil hlast
  | append_singleton history op ih =>
    simp only [lastWrite_concat]
    constructor
    · intro hpresent
      by_cases hwrites : ∃ value, op.Writes key value
      · obtain ⟨value, hwrites⟩ := hwrites
        exact ⟨value, Or.inl ⟨hwrites, hpresent⟩⟩
      · rcases present_concat.mp hpresent with ⟨value, rfl⟩ | ⟨hbefore, hop⟩
        · exact absurd ⟨value, .insert⟩ hwrites
        · obtain ⟨value, hlast⟩ := ih.mp hbefore
          refine ⟨value, Or.inr ⟨hlast, fun htouches ↦ ?_⟩⟩
          exact (Operation.touches?_eq_some_iff.mp htouches).elim hwrites hop
    · rintro ⟨value, ⟨-, hpresent⟩ | ⟨hlast, hop⟩⟩
      · exact hpresent
      · refine present_concat.mpr (Or.inr ⟨ih.mpr ⟨value, hlast⟩, ?_⟩)
        rintro rfl
        exact hop rfl

theorem Arrives.length_lt {before : List (Operation α)} (h : Arrives history key before) :
    before.length < history.length := by
  obtain ⟨value, after, rfl, -⟩ := h
  rw [List.length_append, List.length_cons]
  omega

theorem Present.exists_arrives (h : Present history key) :
    ∃ before, Arrives history key before := by
  induction history using List.reverseRecOn with
  | nil => exact absurd h not_present_nil
  | append_singleton history op ih =>
    simp only [arrives_concat]
    by_cases hbefore : Present history key
    · obtain ⟨before, harrives⟩ := ih hbefore
      refine ⟨before, Or.inr ⟨harrives, ?_⟩⟩
      rintro rfl
      rcases present_concat.mp h with ⟨value, hop⟩ | ⟨-, hop⟩
      · exact nomatch hop
      · exact hop rfl
    · rcases present_concat.mp h with hinsert | ⟨hpresent, -⟩
      · exact ⟨history, Or.inl ⟨rfl, hbefore, hinsert⟩⟩
      · exact absurd hpresent hbefore

theorem Arrives.present {before : List (Operation α)} (h : Arrives history key before) :
    Present history key := by
  obtain ⟨value, after, hsplit, -, hafter⟩ := h
  exact ⟨before, value, after, hsplit, hafter⟩

theorem Arrives.unique {before before' : List (Operation α)} (h : Arrives history key before)
    (h' : Arrives history key before') : before = before' := by
  induction history using List.reverseRecOn with
  | nil => exact absurd h.present not_present_nil
  | append_singleton history op ih =>
    rcases arrives_concat.mp h with ⟨rfl, habsent, -⟩ | ⟨harrives, -⟩ <;>
      rcases arrives_concat.mp h' with ⟨rfl, habsent', -⟩ | ⟨harrives', -⟩
    · rfl
    · exact absurd harrives'.present habsent
    · exact absurd harrives.present habsent'
    · exact ih harrives harrives'

theorem Earlier.asymm (h : Earlier history key other) : ¬Earlier history other key := by
  obtain ⟨before, before', harrives, harrives', hlt⟩ := h
  rintro ⟨after', after, hafter', hafter, hlt'⟩
  rw [← harrives.unique hafter, ← harrives'.unique hafter'] at hlt'
  omega

/-- What is not removed stays in its place. -/
theorem Earlier.concat (h : Earlier history key other) (hkey : op ≠ .remove key)
    (hother : op ≠ .remove other) : Earlier (history ++ [op]) key other := by
  obtain ⟨before, before', harrives, harrives', hlt⟩ := h
  exact ⟨before, before', arrives_concat.mpr (Or.inr ⟨harrives, hkey⟩),
    arrives_concat.mpr (Or.inr ⟨harrives', hother⟩), hlt⟩

/-! ## What a history describes -/

/-- The entries that a history describes. -/
structure Describes (history : List (Operation α)) (es : Entries α) : Prop where
  /-- No name stands twice. -/
  nodup : es.keys.Nodup
  /-- A name has the value that was last written to it. -/
  get?_iff : ∀ key value, es.get? key = some value ↔ LastWrite history key value
  /-- Names stand in the order in which they became present. -/
  order : es.keys.Pairwise (Earlier history)

namespace Describes

theorem mem_keys_iff (h : Describes history es) : key ∈ es.keys ↔ Present history key := by
  rw [mem_keys_iff_exists, present_iff_exists_lastWrite]
  exact exists_congr fun value ↦ h.get?_iff key value

theorem get?_eq_none_iff (h : Describes history es) : es.get? key = none ↔ Absent history key := by
  rw [absent_iff_not_present, ← h.mem_keys_iff, Entries.mem_keys_iff, Option.not_isSome_iff_eq_none]

theorem contains_iff (h : Describes history es) : es.contains key = true ↔ Present history key := by
  rw [← h.mem_keys_iff, Entries.mem_keys_iff, contains]

theorem mem_iff (h : Describes history es) : (key, value) ∈ es ↔ LastWrite history key value := by
  rw [← get?_eq_some_iff h.nodup, h.get?_iff]

theorem unique (h : Describes history es) (h' : Describes history es') : es = es' := by
  have hkeys : es.keys = es'.keys := by
    have hperm : es.keys.Perm es'.keys := by
      refine (List.perm_ext_iff_of_nodup h.nodup h'.nodup).mpr fun key ↦ ?_
      rw [h.mem_keys_iff, h'.mem_keys_iff]
    exact hperm.eq_of_pairwise (fun _ _ _ _ h h' ↦ absurd h' h.asymm) h.order h'.order
  refine eq_of_keys_eq h.nodup hkeys fun key _ ↦ Option.ext fun value ↦ ?_
  rw [h.get?_iff, h'.get?_iff]

theorem length_eq (h : Describes history es) :
    es.length = {key | Present history key}.ncard := by
  have hset : {key | Present history key} = (es.keys.toFinset : Set String) := by
    ext key
    rw [Set.mem_ofPred_eq, ← h.mem_keys_iff, Finset.mem_coe, List.mem_toFinset]
  rw [hset, Set.ncard_coe_finset, List.toFinset_card_of_nodup h.nodup, keys, List.length_map]

theorem isEmpty_iff (h : Describes history es) :
    es.isEmpty = true ↔ ∀ key, ¬Present history key := by
  rw [List.isEmpty_iff]
  constructor
  · rintro rfl key hpresent
    exact List.not_mem_nil (h.mem_keys_iff.mpr hpresent)
  · intro hnone
    refine List.eq_nil_iff_forall_not_mem.mpr fun e he ↦ ?_
    exact hnone e.1 (h.mem_keys_iff.mp (List.mem_map_of_mem he))

end Describes

/-! ## One operation -/

section Places

variable {before rest : Entries α} {old : α}

theorem exists_split (h : key ∈ es.keys) :
    ∃ before old rest, es = before ++ (key, old) :: rest ∧ key ∉ keys before := by
  obtain ⟨old, hold⟩ := mem_keys_iff_exists.mp h
  obtain ⟨before, rest, hsplit, hbefore, -⟩ := exists_erase_eq hold
  exact ⟨before, old, rest, hsplit, hbefore⟩

theorem position?_eq_none (h : key ∉ es.keys) : es.position? key = none := by
  refine List.findIdx?_eq_none_iff.mpr fun e he ↦ decide_eq_false ?_
  rintro rfl
  exact h (List.mem_map_of_mem he)

theorem position?_split (h : key ∉ before.keys) :
    position? key (before ++ (key, old) :: rest) = some before.length := by
  have hbefore := position?_eq_none h
  rw [position?] at hbefore ⊢
  rw [List.findIdx?_append, hbefore]
  simp [List.findIdx?_cons]

theorem insert_split (h : key ∉ before.keys) (value : α) :
    insert key value (before ++ (key, old) :: rest) = before ++ (key, value) :: rest := by
  induction before with
  | nil => exact if_pos rfl
  | cons e before ih =>
    rw [keys, List.map_cons, List.mem_cons, not_or] at h
    rw [List.cons_append, insert, if_neg (Ne.symm h.1), ih h.2, List.cons_append]

theorem get?_split (h : key ∉ before.keys) :
    get? key (before ++ (key, old) :: rest) = some old := by
  induction before with
  | nil => exact if_pos rfl
  | cons e before ih =>
    rw [keys, List.map_cons, List.mem_cons, not_or] at h
    rw [List.cons_append, get?, if_neg (Ne.symm h.1), ih h.2]

theorem erase_split (h : key ∉ before.keys) :
    erase key (before ++ (key, old) :: rest) = before ++ rest := by
  induction before with
  | nil => exact if_pos rfl
  | cons e before ih =>
    rw [keys, List.map_cons, List.mem_cons, not_or] at h
    rw [List.cons_append, erase, if_neg (Ne.symm h.1), ih h.2, List.cons_append]

theorem assign?_split (h : key ∉ before.keys) (value : α) :
    assign? key value (before ++ (key, old) :: rest) = some (before ++ (key, value) :: rest) := by
  rw [assign?, position?_split h, Option.map_some, List.set_append_right _ _ (Nat.le_refl _),
    Nat.sub_self, List.set_cons_zero]

theorem remove?_split (h : key ∉ before.keys) :
    remove? key (before ++ (key, old) :: rest) = some (old, before ++ rest) := by
  have hentry : (before ++ (key, old) :: rest)[before.length]? = some (key, old) := by
    rw [List.getElem?_append_right (Nat.le_refl _), Nat.sub_self, List.getElem?_cons_zero]
  have hrest : (before ++ (key, old) :: rest).eraseIdx before.length = before ++ rest := by
    rw [List.eraseIdx_append_of_length_le (Nat.le_refl _), Nat.sub_self, List.eraseIdx_cons_zero]
  rw [remove?, position?_split h, Option.bind_eq_bind, Option.bind_some, hentry,
    Option.bind_eq_bind, Option.bind_some, hrest]
  rfl

end Places

theorem erase_of_notMem (h : key ∉ es.keys) : es.erase key = es := by
  induction es with
  | nil => rfl
  | cons e es ih =>
    rw [keys, List.map_cons, List.mem_cons, not_or] at h
    rw [erase, if_neg (Ne.symm h.1), ih h.2]

theorem get?_eq_none_of_notMem (h : key ∉ es.keys) : es.get? key = none := by
  rwa [mem_keys_iff, Option.not_isSome_iff_eq_none] at h

theorem get?_erase_self (nodup : es.keys.Nodup) : (es.erase key).get? key = none := by
  refine get?_eq_none_of_notMem ?_
  rw [keys_erase]
  exact nodup.not_mem_erase

theorem perform_remove (key : String) (es : Entries α) :
    es.perform (.remove key) = (.found (es.get? key), es.erase key) := by
  rw [perform]
  by_cases hkey : key ∈ es.keys
  · obtain ⟨before, old, rest, rfl, hbefore⟩ := exists_split hkey
    rw [remove?_split hbefore, get?_split hbefore, erase_split hbefore]
  · rw [remove?, position?_eq_none hkey, get?_eq_none_of_notMem hkey, erase_of_notMem hkey]
    rfl

theorem perform_assign (key : String) (value : α) (es : Entries α) :
    es.perform (.assign key value) =
      (.present (es.contains key), if key ∈ es.keys then es.insert key value else es) := by
  rw [perform]
  by_cases hkey : key ∈ es.keys
  · obtain ⟨before, old, rest, rfl, hbefore⟩ := exists_split hkey
    rw [assign?_split hbefore, if_pos hkey, insert_split hbefore,
      contains_of_get?_eq_some (get?_split hbefore)]
  · rw [assign?, position?_eq_none hkey, if_neg hkey,
      contains_of_get?_eq_none (get?_eq_none_of_notMem hkey)]
    rfl

namespace Describes

theorem write (h : Describes history es) (hwrites : op.Writes key value)
    (hpresent : Present (history ++ [op]) key) :
    Describes (history ++ [op]) (es.insert key value) where
  nodup := nodup_keys_insert h.nodup key value
  get?_iff other w := by
    have htouches := hwrites.touches?_eq
    rw [lastWrite_concat]
    by_cases hother : other = key
    · subst hother
      have hw : op.Writes other w ↔ value = w := by
        refine ⟨fun hw ↦ (hwrites.unique hw).2, ?_⟩
        rintro rfl
        exact hwrites
      simp [get?_insert_self, hw, hpresent, htouches]
    · have hnot : ¬op.Writes other w := fun hw ↦ hother (hwrites.unique hw).1.symm
      have hne : op.touches? ≠ some other := by
        rw [htouches]
        exact fun heq ↦ hother (Option.some.inj heq).symm
      rw [get?_insert_of_ne _ _ hother, h.get?_iff]
      simp [hnot, hne]
  order := by
    have hkeep : ∀ k, op ≠ .remove k := by
      rintro k rfl
      exact nomatch hwrites
    have hold : es.keys.Pairwise (Earlier (history ++ [op])) :=
      h.order.imp fun hearlier ↦ hearlier.concat (hkeep _) (hkeep _)
    rw [keys_insert]
    split
    · exact hold
    · next hkey =>
      have habsent : ¬Present history key := h.mem_keys_iff.not.mp hkey
      have hinsert : ∃ value, op = .insert key value :=
        (present_concat.mp hpresent).resolve_right fun hbefore ↦ habsent hbefore.1
      have harrives : Arrives (history ++ [op]) key history :=
        arrives_concat.mpr (Or.inl ⟨rfl, habsent, hinsert⟩)
      refine List.pairwise_append.mpr
        ⟨hold, List.pairwise_singleton _ _, fun k hk other hother ↦ ?_⟩
      rw [List.mem_singleton.mp hother]
      obtain ⟨before, hbefore⟩ := (h.mem_keys_iff.mp hk).exists_arrives
      exact ⟨before, history, arrives_concat.mpr (Or.inr ⟨hbefore, hkeep k⟩), harrives,
        hbefore.length_lt⟩

theorem erase (h : Describes history es) (key : String) :
    Describes (history ++ [.remove key]) (es.erase key) where
  nodup := nodup_keys_erase h.nodup key
  get?_iff other w := by
    have hwrites : ¬(Operation.remove key).Writes other w := nofun
    have htouches : (Operation.remove key : Operation α).touches? = some key := rfl
    rw [lastWrite_concat]
    by_cases hother : other = key
    · subst hother
      simp [get?_erase_self h.nodup, hwrites, htouches]
    · rw [get?_erase_of_ne _ hother, h.get?_iff]
      simp [hwrites, htouches, Ne.symm hother]
  order := by
    rw [keys_erase]
    refine (h.order.sublist List.erase_sublist).imp_of_mem fun hk hother hearlier ↦ ?_
    rw [h.nodup.mem_erase_iff] at hk hother
    refine hearlier.concat ?_ ?_
    · rintro ⟨⟩
      exact hk.1 rfl
    · rintro ⟨⟩
      exact hother.1 rfl

/-- An operation that is about no name that is present changes nothing, unless it inserts one. -/
theorem idle (h : Describes history es) (hinsert : ∀ key value, op ≠ .insert key value)
    (hidle : ∀ key, op.touches? = some key → ¬Present history key) :
    Describes (history ++ [op]) es where
  nodup := h.nodup
  get?_iff key w := by
    rw [h.get?_iff, lastWrite_concat]
    constructor
    · intro hlast
      exact Or.inr ⟨hlast, fun htouches ↦
        hidle key htouches (present_iff_exists_lastWrite.mpr ⟨w, hlast⟩)⟩
    · rintro (⟨hwrites, hpresent⟩ | ⟨hlast, -⟩)
      · rcases present_concat.mp hpresent with ⟨value, hop⟩ | ⟨hbefore, -⟩
        · exact absurd hop (hinsert key value)
        · exact absurd hbefore (hidle key hwrites.touches?_eq)
      · exact hlast
  order := by
    refine h.order.imp_of_mem fun hk hother hearlier ↦ hearlier.concat ?_ ?_
    · rintro rfl
      exact hidle _ rfl (h.mem_keys_iff.mp hk)
    · rintro rfl
      exact hidle _ rfl (h.mem_keys_iff.mp hother)

/-- **What is described changes as the entries do.** -/
theorem step (h : Describes history es) (op : Operation α) :
    Describes (history ++ [op]) (es.perform op).2 := by
  cases op with
  | insert key value =>
    exact h.write .insert (present_concat.mpr (Or.inl ⟨value, rfl⟩))
  | remove key =>
    rw [perform_remove]
    exact h.erase key
  | assign key value =>
    rw [perform_assign]
    by_cases hkey : key ∈ es.keys
    · rw [if_pos hkey]
      exact h.write .assign (present_concat.mpr (Or.inr ⟨h.mem_keys_iff.mp hkey, nofun⟩))
    · rw [if_neg hkey]
      refine h.idle nofun fun k hk ↦ ?_
      cases hk
      exact h.mem_keys_iff.not.mp hkey
  | get | has => exact h.idle nofun nofun

end Describes

/-- What an operation does to the entries that a history describes, and what it answers: writing to
a name that is present replaces its value in its place, a new name goes last, and removal closes the
gap. -/
inductive Effect (history : List (Operation α)) (es : Entries α) :
    Operation α → Answer α → Entries α → Prop
  | insertPresent {before rest : Entries α} {key : String} {old : α} (value : α)
      (split : es = before ++ (key, old) :: rest) :
      Effect history es (.insert key value) .done (before ++ (key, value) :: rest)
  | insertAbsent {key : String} (value : α) (absent : Absent history key) :
      Effect history es (.insert key value) .done (es ++ [(key, value)])
  | removePresent {before rest : Entries α} {key : String} {value : α}
      (last : LastWrite history key value) (split : es = before ++ (key, value) :: rest) :
      Effect history es (.remove key) (.found (some value)) (before ++ rest)
  | removeAbsent {key : String} (absent : Absent history key) :
      Effect history es (.remove key) (.found none) es
  | assignPresent {before rest : Entries α} {key : String} {old : α} (value : α)
      (split : es = before ++ (key, old) :: rest) :
      Effect history es (.assign key value) (.present true) (before ++ (key, value) :: rest)
  | assignAbsent {key : String} (value : α) (absent : Absent history key) :
      Effect history es (.assign key value) (.present false) es
  | getPresent {key : String} {value : α} (last : LastWrite history key value) :
      Effect history es (.get key) (.found (some value)) es
  | getAbsent {key : String} (absent : Absent history key) :
      Effect history es (.get key) (.found none) es
  | hasPresent {key : String} (present : Present history key) :
      Effect history es (.has key) (.present true) es
  | hasAbsent {key : String} (absent : Absent history key) :
      Effect history es (.has key) (.present false) es

/-- **Each operation has the effect that the history before it asks for.** -/
theorem Describes.effect (h : Describes history es) (op : Operation α) :
    Effect history es op (es.perform op).1 (es.perform op).2 := by
  have habsent : ∀ {key}, key ∉ es.keys → Absent history key := fun hkey ↦
    absent_iff_not_present.mpr (h.mem_keys_iff.not.mp hkey)
  cases op with
  | insert key value =>
    rw [perform]
    by_cases hkey : key ∈ es.keys
    · obtain ⟨before, old, rest, hsplit, hbefore⟩ := exists_split hkey
      rw [hsplit, insert_split hbefore, ← hsplit]
      exact .insertPresent value hsplit
    · rw [insert_of_get?_eq_none (get?_eq_none_of_notMem hkey)]
      exact .insertAbsent value (habsent hkey)
  | remove key =>
    rw [perform_remove]
    by_cases hkey : key ∈ es.keys
    · obtain ⟨before, old, rest, hsplit, hbefore⟩ := exists_split hkey
      have hold : es.get? key = some old := by rw [hsplit, get?_split hbefore]
      have herase : es.erase key = before ++ rest := by rw [hsplit, erase_split hbefore]
      rw [hold, herase]
      exact .removePresent ((h.get?_iff key old).mp hold) hsplit
    · rw [get?_eq_none_of_notMem hkey, erase_of_notMem hkey]
      exact .removeAbsent (habsent hkey)
  | assign key value =>
    rw [perform_assign]
    by_cases hkey : key ∈ es.keys
    · obtain ⟨before, old, rest, hsplit, hbefore⟩ := exists_split hkey
      have hinsert : es.insert key value = before ++ (key, value) :: rest := by
        rw [hsplit, insert_split hbefore]
      rw [h.contains_iff.mpr (h.mem_keys_iff.mp hkey), if_pos hkey, hinsert]
      exact .assignPresent value hsplit
    · rw [contains_of_get?_eq_none (get?_eq_none_of_notMem hkey), if_neg hkey]
      exact .assignAbsent value (habsent hkey)
  | get key =>
    rw [perform]
    cases hvalue : es.get? key with
    | some value => exact .getPresent ((h.get?_iff key value).mp hvalue)
    | none => exact .getAbsent (h.get?_eq_none_iff.mp hvalue)
  | has key =>
    rw [perform]
    cases hcontains : es.contains key with
    | true => exact .hasPresent (h.contains_iff.mp hcontains)
    | false =>
      refine .hasAbsent (absent_iff_not_present.mpr fun hpresent ↦ ?_)
      rw [h.contains_iff.mpr hpresent] at hcontains
      cases hcontains

/-! ## Histories from the start -/

/-- Entries are built from a list of pairs by inserting one after another. -/
def built (pairs : List (String × α)) : List (Operation α) := pairs.map fun e ↦ .insert e.1 e.2

theorem ofList_eq_after (pairs : List (String × α)) : ofList pairs = after [] (built pairs) := by
  rw [ofList, after, built, List.foldl_map]
  rfl

theorem after_append (es : Entries α) (ops ops' : List (Operation α)) :
    es.after (ops ++ ops') = (es.after ops).after ops' :=
  List.foldl_append

theorem describes_nil : Describes [] ([] : Entries α) where
  nodup := List.nodup_nil
  get?_iff _ _ := iff_of_false (Option.some_ne_none _).symm not_lastWrite_nil
  order := .nil

theorem describes_after (ops : List (Operation α)) : Describes ops (after [] ops) := by
  induction ops using List.reverseRecOn with
  | nil => exact describes_nil
  | append_singleton ops op ih =>
    rw [after_append]
    exact ih.step op

/-- **Entries are a map in insertion order.** Entries that are built from a list of pairs, and on
which operations are performed afterwards, are those that this history describes, and no others are:
no name stands twice, a name has the value that was last written to it since it became present, and
names stand in the order in which they became present. Whatever is asked next is answered as the
history says, in the place that it says. -/
theorem after_ofList (pairs : List (String × α)) (ops : List (Operation α)) :
    let history := built pairs ++ ops
    let es := (ofList pairs).after ops
    (Describes history es ∧ ∀ es', Describes history es' → es' = es) ∧
      ((∀ key, es.get? key = none ↔ Absent history key) ∧
        (∀ key, key ∈ es.keys ↔ Present history key) ∧
        (∀ key value, (key, value) ∈ es ↔ LastWrite history key value) ∧
        es.length = {key | Present history key}.ncard ∧
        (es.isEmpty = true ↔ ∀ key, ¬Present history key)) ∧
      ∀ op, Effect history es op (es.perform op).1 (es.perform op).2 := by
  intro history es
  have hes : es = after [] history := by
    rw [after_append, ← ofList_eq_after]
  have hdescribes : Describes history es := hes ▸ describes_after history
  refine ⟨⟨hdescribes, fun es' h ↦ h.unique hdescribes⟩, ⟨?_, ?_, ?_, ?_, ?_⟩, hdescribes.effect⟩
  · exact fun key ↦ hdescribes.get?_eq_none_iff
  · exact fun key ↦ hdescribes.mem_keys_iff
  · exact fun key value ↦ hdescribes.mem_iff
  · exact hdescribes.length_eq
  · exact hdescribes.isEmpty_iff

/-- A name that is removed and inserted again stands last. -/
example : (ofList [("a", 1), ("b", 2), ("a", 3)]).after
    [.remove "a", .insert "a" 4, .assign "b" 5, .assign "c" 6] = [("b", 5), ("a", 4)] := by decide

end Entries

end DataOutline
