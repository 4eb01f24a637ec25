import Mathlib.Data.List.Forall2

/-!
# Results of computations that may fail

What is known when a computation that was put together from others has a given result. A list of
computations succeeds when each of them does, and its result is theirs, one by one; it fails with
the error of the first of them that fails.

Where success and failure are of equal interest, `Settles` says what holds in the one case and in
the other.
-/

namespace DataOutline

variable {ε α β : Type}

theorem ok_bind (a : α) (k : α → Except ε β) : (Except.ok a >>= k) = k a := rfl

theorem map_eq_ok_iff {r : Except ε α} {f : α → β} {b : β} :
    f <$> r = .ok b ↔ ∃ a, r = .ok a ∧ f a = b := by
  cases r with
  | error e => exact iff_of_false (fun h ↦ nomatch h) fun ⟨_, h, _⟩ ↦ nomatch h
  | ok a =>
    constructor
    · exact fun h ↦ ⟨a, rfl, Except.ok.inj h⟩
    · rintro ⟨_, ⟨⟩, rfl⟩
      rfl

theorem map_eq_error_iff {r : Except ε α} {f : α → β} {e : ε} :
    f <$> r = .error e ↔ r = .error e := by
  cases r with
  | error e' =>
    exact ⟨fun h ↦ congrArg _ (Except.error.inj h), fun h ↦ congrArg _ (Except.error.inj h)⟩
  | ok a => exact iff_of_false (fun h ↦ nomatch h) fun h ↦ nomatch h

theorem bind_eq_ok_iff {r : Except ε α} {k : α → Except ε β} {b : β} :
    (r >>= k) = .ok b ↔ ∃ a, r = .ok a ∧ k a = .ok b := by
  cases r with
  | error e => exact iff_of_false (fun h ↦ nomatch h) fun ⟨_, h, _⟩ ↦ nomatch h
  | ok a =>
    constructor
    · exact fun h ↦ ⟨a, rfl, h⟩
    · rintro ⟨_, ⟨⟩, hk⟩
      exact hk

theorem toOption_eq_some_iff {r : Except ε α} {a : α} : r.toOption = some a ↔ r = .ok a := by
  cases r with
  | error e => exact iff_of_false (fun h ↦ nomatch h) fun h ↦ nomatch h
  | ok a' => simp [Except.toOption]

/-- A list of computations succeeds with the results of each. -/
theorem mapM_eq_ok_iff {k : α → Except ε β} {as : List α} {bs : List β} :
    as.mapM k = .ok bs ↔ List.Forall₂ (fun a b ↦ k a = .ok b) as bs := by
  induction as generalizing bs with
  | nil =>
    rw [List.forall₂_nil_left_iff]
    exact ⟨fun h ↦ (Except.ok.inj h).symm, fun h ↦ by rw [h]; rfl⟩
  | cons a as ih =>
    rw [List.mapM_cons, bind_eq_ok_iff, List.forall₂_cons_left_iff]
    constructor
    · rintro ⟨b, ha, h⟩
      obtain ⟨bs', has, ⟨⟩⟩ := bind_eq_ok_iff.mp h
      exact ⟨b, bs', ha, ih.mp has, rfl⟩
    · rintro ⟨b, bs', ha, has, rfl⟩
      exact ⟨b, ha, bind_eq_ok_iff.mpr ⟨bs', ih.mpr has, rfl⟩⟩

theorem mapM_eq_ok_map {as : List α} {k : α → Except ε β} {f : α → β}
    (h : ∀ a ∈ as, k a = .ok (f a)) : as.mapM k = .ok (as.map f) := by
  rw [mapM_eq_ok_iff, List.forall₂_map_right_iff, List.forall₂_same]
  exact h

theorem mapError_eq_ok_iff {ε' : Type} {r : Except ε α} {f : ε → ε'} {a : α} :
    r.mapError f = .ok a ↔ r = .ok a := by
  cases r with
  | error e => exact iff_of_false (fun h ↦ nomatch h) fun h ↦ nomatch h
  | ok a' => exact ⟨fun h ↦ congrArg _ (Except.ok.inj h), fun h ↦ congrArg _ (Except.ok.inj h)⟩

theorem mapError_mapM {ε' : Type} (f : ε → ε') (k : α → Except ε β) (as : List α) :
    (as.mapM k).mapError f = as.mapM fun a ↦ (k a).mapError f := by
  induction as with
  | nil => rfl
  | cons a as ih =>
    rw [List.mapM_cons, List.mapM_cons, ← ih]
    cases k a with
    | error e => rfl
    | ok b => cases as.mapM k <;> rfl

theorem mapM_congr {m : Type → Type} [Monad m] [LawfulMonad m] {k k' : α → m β} {as : List α}
    (h : ∀ a ∈ as, k a = k' a) : as.mapM k = as.mapM k' := by
  induction as with
  | nil => rfl
  | cons a as ih =>
    obtain ⟨ha, has⟩ := List.forall_mem_cons.mp h
    rw [List.mapM_cons, List.mapM_cons, ha, ih has]

theorem bind_congr_ok {r : Except ε α} {k k' : α → Except ε β}
    (h : ∀ a, r = .ok a → k a = k' a) : (r >>= k) = (r >>= k') := by
  cases r with
  | error e => rfl
  | ok a => exact h a rfl

theorem bind_eq_error_iff {r : Except ε α} {k : α → Except ε β} {e : ε} :
    (r >>= k) = .error e ↔ r = .error e ∨ ∃ a, r = .ok a ∧ k a = .error e := by
  cases r with
  | error e' =>
    constructor
    · exact fun h ↦ Or.inl (congrArg Except.error (Except.error.inj h))
    · rintro (h | ⟨a, h, -⟩)
      · rw [h]
        rfl
      · exact nomatch h
  | ok a =>
    constructor
    · exact fun h ↦ Or.inr ⟨a, rfl, h⟩
    · rintro (h | ⟨_, ⟨⟩, hk⟩)
      · exact nomatch h
      · exact hk

/-- A list of computations fails with the error of the first that does. -/
theorem mapM_eq_error_iff {k : α → Except ε β} {as : List α} {e : ε} :
    as.mapM k = .error e ↔ ∃ before a after, as = before ++ a :: after ∧
      (∀ a' ∈ before, ∃ b, k a' = .ok b) ∧ k a = .error e := by
  induction as with
  | nil =>
    refine iff_of_false (fun h ↦ nomatch h) ?_
    rintro ⟨before, a, after, h, -⟩
    exact List.append_ne_nil_of_right_ne_nil before (List.cons_ne_nil a after) h.symm
  | cons a as ih =>
    rw [List.mapM_cons, bind_eq_error_iff]
    constructor
    · rintro (ha | ⟨b, ha, h⟩)
      · exact ⟨[], a, as, rfl, fun _ h ↦ absurd h List.not_mem_nil, ha⟩
      · rcases bind_eq_error_iff.mp h with has | ⟨bs, -, h⟩
        · obtain ⟨before, a', after, rfl, hbefore, ha'⟩ := ih.mp has
          exact ⟨a :: before, a', after, rfl, List.forall_mem_cons.mpr ⟨⟨b, ha⟩, hbefore⟩, ha'⟩
        · exact nomatch h
    · rintro ⟨before, a', after, hsplit, hbefore, ha'⟩
      rcases before with _ | ⟨x, before⟩
      · cases hsplit
        exact Or.inl ha'
      · cases hsplit
        obtain ⟨⟨b, hb⟩, hbefore⟩ := List.forall_mem_cons.mp hbefore
        have hrest := ih.mpr ⟨before, a', after, rfl, hbefore, ha'⟩
        exact Or.inr ⟨b, hb, bind_eq_error_iff.mpr (Or.inl hrest)⟩

theorem exists_of_mapM_eq_error {k : α → Except ε β} {as : List α} {e : ε}
    (h : as.mapM k = .error e) : ∃ a ∈ as, k a = .error e := by
  obtain ⟨before, a, after, rfl, -, ha⟩ := mapM_eq_error_iff.mp h
  exact ⟨a, List.mem_append_right _ List.mem_cons_self, ha⟩

/-! ## Success and failure at once -/

/-- The result of a computation that succeeds has `P`, and `Q` holds if it fails. -/
def Settles (r : Except ε α) (P : α → Prop) (Q : Prop) : Prop :=
  match r with
  | .ok a => P a
  | .error _ => Q

theorem Settles.map {r : Except ε α} {P : α → Prop} {P' : β → Prop} {Q Q' : Prop} {f : α → β}
    (h : Settles r P Q) (ok : ∀ a, P a → P' (f a)) (failed : Q → Q') :
    Settles (f <$> r) P' Q' := by
  cases r with
  | error e => exact failed h
  | ok a => exact ok a h

theorem Settles.of_eq_ok {r : Except ε α} {P : α → Prop} {Q : Prop} {a : α} (h : Settles r P Q)
    (hr : r = .ok a) : P a := by
  subst hr
  exact h

theorem Settles.exists_ok {r : Except ε α} {P : α → Prop} {Q : Prop} (h : Settles r P Q)
    (hfree : ¬Q) : ∃ a, r = .ok a ∧ P a := by
  cases r with
  | error e => exact absurd h hfree
  | ok a => exact ⟨a, rfl, h⟩

theorem settles_mapM {k : α → Except ε β} {P : α → β → Prop} {Q : α → Prop} {as : List α}
    (h : ∀ a ∈ as, Settles (k a) (P a) (Q a)) :
    Settles (as.mapM k) (List.Forall₂ P as) (∃ a ∈ as, Q a) := by
  induction as with
  | nil => exact List.Forall₂.nil
  | cons a as ih =>
    obtain ⟨ha, has⟩ := List.forall_mem_cons.mp h
    rw [List.mapM_cons]
    cases hk : k a with
    | error e =>
      rw [hk] at ha
      exact ⟨a, List.mem_cons_self, ha⟩
    | ok b =>
      rw [hk] at ha
      have hmore := ih has
      cases hks : as.mapM k with
      | error e =>
        rw [hks] at hmore
        exact hmore.imp fun a' h ↦ ⟨List.mem_cons_of_mem a h.1, h.2⟩
      | ok bs =>
        rw [hks] at hmore
        exact List.Forall₂.cons ha hmore

/-- What every step keeps, a computation that takes step after step keeps. -/
theorem foldlM_preserves {P : α → Prop} {k : α → β → Except ε α} {bs : List β} {a a' : α}
    (step : ∀ b ∈ bs, ∀ c c', P c → k c b = .ok c' → P c') (h : bs.foldlM k a = .ok a')
    (ha : P a) : P a' := by
  induction bs generalizing a with
  | nil =>
    cases h
    exact ha
  | cons b bs ih =>
    obtain ⟨hfirst, hmore⟩ := List.forall_mem_cons.mp step
    obtain ⟨c, hc, hrest⟩ := bind_eq_ok_iff.mp (List.foldlM_cons.symm.trans h)
    exact ih hmore hrest (hfirst a c ha hc)

/-- A computation that takes step after step fails with the error of a step. -/
theorem exists_of_foldlM_eq_error {k : α → β → Except ε α} {bs : List β} {a : α} {e : ε}
    (h : bs.foldlM k a = .error e) : ∃ b ∈ bs, ∃ c, k c b = .error e := by
  induction bs generalizing a with
  | nil => cases h
  | cons b bs ih =>
    rcases bind_eq_error_iff.mp (List.foldlM_cons.symm.trans h) with hfirst | ⟨c, -, hmore⟩
    · exact ⟨b, List.mem_cons_self, a, hfirst⟩
    · obtain ⟨b', hb', hstep⟩ := ih hmore
      exact ⟨b', List.mem_cons_of_mem b hb', hstep⟩

/-! ## Two computations -/

/-- Two computations both fail, or their results are related. -/
inductive Agree (R : α → β → Prop) : Except ε α → Except ε β → Prop
  | ok {a : α} {b : β} (h : R a b) : Agree R (.ok a) (.ok b)
  | failed (e e' : ε) : Agree R (.error e) (.error e')

namespace Agree

variable {γ δ : Type} {R : α → β → Prop} {S : γ → δ → Prop}

theorem of_fails {r : Except ε α} {r' : Except ε β} (h : ∃ e, r = .error e)
    (h' : ∃ e, r' = .error e) : Agree R r r' := by
  obtain ⟨e, rfl⟩ := h
  obtain ⟨e', rfl⟩ := h'
  exact .failed e e'

theorem refl {R : α → α → Prop} (h : ∀ a, R a a) (r : Except ε α) : Agree R r r := by
  cases r with
  | error e => exact .failed e e
  | ok a => exact .ok (h a)

theorem symm {r : Except ε α} {r' : Except ε β} (h : Agree R r r') :
    Agree (fun b a ↦ R a b) r' r := by
  cases h with
  | ok hab => exact .ok hab
  | failed e e' => exact .failed e' e

theorem trans {P : α → γ → Prop} {Q : β → γ → Prop} (h : ∀ a b c, R a b → Q b c → P a c)
    {r : Except ε α} {r' : Except ε β} {r'' : Except ε γ} (first : Agree R r r')
    (second : Agree Q r' r'') : Agree P r r'' := by
  cases first with
  | failed e e' =>
    cases second
    exact .failed e _
  | ok hab =>
    cases second with
    | ok hbc => exact .ok (h _ _ _ hab hbc)

theorem bind {r : Except ε α} {r' : Except ε β} {k : α → Except ε γ} {k' : β → Except ε δ}
    (h : Agree R r r') (hk : ∀ a b, R a b → Agree S (k a) (k' b)) :
    Agree S (r >>= k) (r' >>= k') := by
  cases h with
  | ok hab => exact hk _ _ hab
  | failed e e' => exact .failed e e'

theorem map {r : Except ε α} {r' : Except ε β} {f : α → γ} {f' : β → δ} (h : Agree R r r')
    (hf : ∀ a b, R a b → S (f a) (f' b)) : Agree S (f <$> r) (f' <$> r') := by
  cases h with
  | ok hab => exact .ok (hf _ _ hab)
  | failed e e' => exact .failed e e'

theorem mapM {as : List γ} {bs : List δ} {k : γ → Except ε α} {k' : δ → Except ε β}
    (h : List.Forall₂ (fun c d ↦ Agree R (k c) (k' d)) as bs) :
    Agree (List.Forall₂ R) (as.mapM k) (bs.mapM k') := by
  induction h with
  | nil => exact .ok .nil
  | cons hab _ ih =>
    rw [List.mapM_cons, List.mapM_cons]
    refine hab.bind fun a b hR ↦ ih.bind fun as bs hmore ↦ ?_
    exact .ok (.cons hR hmore)

theorem of_eq_ok_iff {r r' : Except ε α} (h : ∀ a, r = .ok a ↔ r' = .ok a) : Agree Eq r r' := by
  cases r with
  | ok a =>
    rw [(h a).mp rfl]
    exact .ok rfl
  | error e =>
    cases r' with
    | error e' => exact .failed e e'
    | ok a => exact nomatch (h a).mpr rfl

/-- Two computations for each of some values, one after the other: it makes no difference whether
all of the first ones come first, but for which of them fails. -/
theorem mapM_mapM (k : α → Except ε β) (k' : β → Except ε γ) (as : List α) :
    Agree Eq (as.mapM k >>= fun bs ↦ bs.mapM k') (as.mapM fun a ↦ k a >>= k') := by
  refine of_eq_ok_iff fun cs ↦ ?_
  simp only [bind_eq_ok_iff, mapM_eq_ok_iff]
  constructor
  · rintro ⟨bs, hbs, hcs⟩
    induction hbs generalizing cs with
    | nil =>
      cases hcs
      exact .nil
    | cons hab _ ih =>
      obtain ⟨c, cs', hbc, hcs', rfl⟩ := List.forall₂_cons_left_iff.mp hcs
      exact .cons ⟨_, hab, hbc⟩ (ih cs' hcs')
  · intro h
    induction h with
    | nil => exact ⟨[], .nil, .nil⟩
    | cons hac _ ih =>
      obtain ⟨b, hab, hbc⟩ := hac
      obtain ⟨bs, hbs, hcs⟩ := ih
      exact ⟨b :: bs, .cons hab hbs, .cons hbc hcs⟩

/-- **The order of computations that commute does not matter.** Each of them takes related values
to related ones, and two of them that are apart commute. -/
theorem foldlM_perm {R : α → α → Prop} (refl : ∀ a, R a a)
    (trans : ∀ a b c, R a b → R b c → R a c) {k : γ → α → Except ε α} {apart : γ → γ → Prop}
    (symm : ∀ {i j}, apart i j → apart j i)
    (congr : ∀ i {a b}, R a b → Agree R (k i a) (k i b))
    (comm : ∀ {i j}, apart i j → ∀ a, Agree R (k i a >>= k j) (k j a >>= k i)) {is js : List γ}
    (perm : is.Perm js) (h : is.Pairwise apart) {a b : α} (hab : R a b) :
    Agree R (is.foldlM (fun a i ↦ k i a) a) (js.foldlM (fun a i ↦ k i a) b) := by
  -- One list, with values that are related at its start.
  have hfold : ∀ (is : List γ) {a b}, R a b →
      Agree R (is.foldlM (fun a i ↦ k i a) a) (is.foldlM (fun a i ↦ k i a) b) := by
    intro is
    induction is with
    | nil => exact fun h ↦ .ok h
    | cons i is ih => exact fun h ↦ (congr i h).bind fun _ _ ↦ ih
  induction perm generalizing a b with
  | nil => exact .ok hab
  | cons i _ ih => exact (congr i hab).bind fun _ _ ↦ ih (List.pairwise_cons.mp h).2
  | swap i j is =>
    have hapart : apart j i := (List.pairwise_cons.mp h).1 i List.mem_cons_self
    have hswap : Agree R (k j a >>= k i) (k i b >>= k j) :=
      (comm hapart a).trans trans ((congr i hab).bind fun _ _ ↦ congr j)
    simp only [List.foldlM_cons, ← bind_assoc]
    exact hswap.bind fun _ _ ↦ hfold is
  | trans perm _ ih ih' =>
    have hpairwise := (perm.pairwise_iff symm).mp h
    exact (ih h (refl a)).trans trans (ih' hpairwise hab)

end Agree

/-- Two computations both succeed, with results related by `R`, or both fail, with errors related by
`E`. -/
inductive Corresponds (E : ε → ε → Prop) (R : α → β → Prop) : Except ε α → Except ε β → Prop
  | ok {a : α} {b : β} (h : R a b) : Corresponds E R (.ok a) (.ok b)
  | error {e e' : ε} (h : E e e') : Corresponds E R (.error e) (.error e')

namespace Corresponds

variable {γ δ : Type} {E : ε → ε → Prop} {R : α → β → Prop} {S : γ → δ → Prop}

theorem exists_of_left {a : α} {r' : Except ε β} (h : Corresponds E R (.ok a) r') :
    ∃ b, r' = .ok b ∧ R a b := by
  cases h with
  | ok hab => exact ⟨_, rfl, hab⟩

theorem exists_of_right {r : Except ε α} {b : β} (h : Corresponds E R r (.ok b)) :
    ∃ a, r = .ok a ∧ R a b := by
  cases h with
  | ok hab => exact ⟨_, rfl, hab⟩

theorem bind {r : Except ε α} {r' : Except ε β} {k : α → Except ε γ} {k' : β → Except ε δ}
    (h : Corresponds E R r r') (hk : ∀ a b, R a b → Corresponds E S (k a) (k' b)) :
    Corresponds E S (r >>= k) (r' >>= k') := by
  cases h with
  | ok hab => exact hk _ _ hab
  | error he => exact .error he

theorem map {r : Except ε α} {r' : Except ε β} {f : α → γ} {f' : β → δ}
    (h : Corresponds E R r r') (hf : ∀ a b, R a b → S (f a) (f' b)) :
    Corresponds E S (f <$> r) (f' <$> r') := by
  cases h with
  | ok hab => exact .ok (hf _ _ hab)
  | error he => exact .error he

theorem imp {E' : ε → ε → Prop} {R' : α → β → Prop} {r : Except ε α} {r' : Except ε β}
    (h : Corresponds E R r r') (hE : ∀ e e', E e e' → E' e e')
    (hR : ∀ a b, r = .ok a → r' = .ok b → R a b → R' a b) : Corresponds E' R' r r' := by
  cases h with
  | ok hab => exact .ok (hR _ _ rfl rfl hab)
  | error he => exact .error (hE _ _ he)

theorem equivalence {R : α → α → Prop} (hE : Equivalence E) (hR : Equivalence R) :
    Equivalence (Corresponds E R) where
  refl r := by
    cases r with
    | ok a => exact .ok (hR.refl a)
    | error e => exact .error (hE.refl e)
  symm h := by
    cases h with
    | ok hab => exact .ok (hR.symm hab)
    | error he => exact .error (hE.symm he)
  trans h h' := by
    cases h with
    | ok hab => cases h' with | ok hbc => exact .ok (hR.trans hab hbc)
    | error he => cases h' with | error he' => exact .error (hE.trans he he')

theorem mapM {as : List γ} {bs : List δ} {k : γ → Except ε α} {k' : δ → Except ε β}
    (h : List.Forall₂ S as bs) (hk : ∀ c d, S c d → Corresponds E R (k c) (k' d)) :
    Corresponds E (List.Forall₂ R) (as.mapM k) (bs.mapM k') := by
  induction h with
  | nil => exact .ok .nil
  | cons hab _ ih =>
    rw [List.mapM_cons, List.mapM_cons]
    refine (hk _ _ hab).bind fun a b hR ↦ ih.bind fun as bs hmore ↦ ?_
    exact .ok (.cons hR hmore)

end Corresponds

theorem forall₂_getElem? {P : α → β → Prop} {as : List α} {bs : List β} (h : List.Forall₂ P as bs)
    {i : Nat} {a : α} {b : β} (ha : as[i]? = some a) (hb : bs[i]? = some b) : P a b := by
  induction h generalizing i with
  | nil => exact nomatch ha
  | cons hab _ ih =>
    cases i with
    | zero =>
      cases ha
      cases hb
      exact hab
    | succ i => exact ih ha hb

theorem forall₂_getElem?_cases {P : α → β → Prop} {as : List α} {bs : List β}
    (h : List.Forall₂ P as bs) (i : Nat) :
    (as[i]? = none ∧ bs[i]? = none) ∨ ∃ a b, as[i]? = some a ∧ bs[i]? = some b ∧ P a b := by
  by_cases hi : i < as.length
  · have ha := List.getElem?_eq_getElem hi
    have hb := List.getElem?_eq_getElem (h.length_eq ▸ hi)
    exact Or.inr ⟨_, _, ha, hb, forall₂_getElem? h ha hb⟩
  · have hi' : ¬i < bs.length := h.length_eq ▸ hi
    rw [Nat.not_lt] at hi hi'
    exact Or.inl ⟨List.getElem?_eq_none hi, List.getElem?_eq_none hi'⟩

theorem forall₂_set {P : α → β → Prop} {as : List α} {bs : List β} (h : List.Forall₂ P as bs)
    (i : Nat) {a : α} {b : β} (hab : P a b) : List.Forall₂ P (as.set i a) (bs.set i b) := by
  induction h generalizing i with
  | nil => exact .nil
  | cons hhead hmore ih =>
    cases i with
    | zero => exact .cons hab hmore
    | succ i => exact .cons hhead (ih i)

theorem exists_of_forall₂ {P : α → β → Prop} {as : List α} {bs : List β} (h : List.Forall₂ P as bs)
    {a : α} (ha : a ∈ as) : ∃ b ∈ bs, P a b := by
  induction h with
  | nil => exact absurd ha List.not_mem_nil
  | cons hab _ ih =>
    rcases List.mem_cons.mp ha with rfl | ha
    · exact ⟨_, List.mem_cons_self, hab⟩
    · obtain ⟨b, hb, hP⟩ := ih ha
      exact ⟨b, List.mem_cons_of_mem _ hb, hP⟩

theorem map_eq_map_of_forall₂ {γ : Type} {P : α → β → Prop} {f : α → γ} {g : β → γ} {as : List α}
    {bs : List β} (h : List.Forall₂ P as bs) (hfg : ∀ a ∈ as, ∀ b, P a b → f a = g b) :
    as.map f = bs.map g := by
  induction h with
  | nil => rfl
  | cons hab _ ih =>
    obtain ⟨hfirst, hmore⟩ := List.forall_mem_cons.mp hfg
    rw [List.map_cons, List.map_cons, hfirst _ hab, ih hmore]

/-- What holds of the ones in pairs holds of the others, if they have to do with each other. -/
theorem pairwise_of_forall₂ {P : α → β → Prop} {Q : α → α → Prop} {R : β → β → Prop} {as : List α}
    {bs : List β} (h : List.Forall₂ P as bs) (hQ : as.Pairwise Q)
    (hR : ∀ {a a' b b'}, P a b → P a' b' → Q a a' → R b b') : bs.Pairwise R := by
  induction h with
  | nil => exact .nil
  | cons hab hrest ih =>
    obtain ⟨hfirst, hmore⟩ := List.pairwise_cons.mp hQ
    refine List.pairwise_cons.mpr ⟨fun b' hb' ↦ ?_, ih hmore⟩
    obtain ⟨a', ha', hab'⟩ := exists_of_forall₂ hrest.flip hb'
    exact hR hab hab' (hfirst a' ha')

theorem forall₂_trans {γ : Type} {P : α → β → Prop} {Q : β → γ → Prop} {R : α → γ → Prop}
    {as : List α} {bs : List β} {cs : List γ} (trans : ∀ a ∈ as, ∀ b c, P a b → Q b c → R a c)
    (h : List.Forall₂ P as bs) (h' : List.Forall₂ Q bs cs) : List.Forall₂ R as cs := by
  induction h generalizing cs with
  | nil =>
    cases h'
    exact .nil
  | cons hab _ ih =>
    obtain ⟨hfirst, hmore⟩ := List.forall_mem_cons.mp trans
    obtain ⟨c, cs', hbc, hrest, rfl⟩ := List.forall₂_cons_left_iff.mp h'
    exact .cons (hfirst _ _ hab hbc) (ih hmore hrest)

/-- Lists that are related to one list are related to each other if their elements are. -/
theorem forall₂_of_common {γ : Type} {P : α → β → Prop} {Q : α → γ → Prop} {R : β → γ → Prop}
    {as : List α} {bs : List β} {cs : List γ}
    (common : ∀ a ∈ as, ∀ b c, P a b → Q a c → R b c) (h : List.Forall₂ P as bs)
    (h' : List.Forall₂ Q as cs) : List.Forall₂ R bs cs := by
  induction h generalizing cs with
  | nil =>
    rw [List.forall₂_nil_left_iff.mp h']
    exact .nil
  | cons hab _ ih =>
    obtain ⟨hfirst, hmore⟩ := List.forall_mem_cons.mp common
    obtain ⟨c, cs, hac, hrest, rfl⟩ := List.forall₂_cons_left_iff.mp h'
    exact .cons (hfirst _ _ hab hac) (ih hmore hrest)

theorem forall₂_unique {P : α → β → Prop} {as : List α} {bs bs' : List β}
    (unique : ∀ a ∈ as, ∀ b b', P a b → P a b' → b = b') (h : List.Forall₂ P as bs)
    (h' : List.Forall₂ P as bs') : bs = bs' := by
  have hsame := forall₂_of_common unique h h'
  rwa [List.forall₂_eq_eq_eq] at hsame

theorem forall₂_symm {P : α → β → Prop} {Q : β → α → Prop} {as : List α} {bs : List β}
    (symm : ∀ a ∈ as, ∀ b, P a b → Q b a) (h : List.Forall₂ P as bs) : List.Forall₂ Q bs as := by
  have hsame : List.Forall₂ Eq as as := List.forall₂_same.mpr fun _ _ ↦ rfl
  refine forall₂_of_common ?_ h hsame
  rintro a ha b _ hab rfl
  exact symm a ha b hab

theorem option_rel_iff {P : α → β → Prop} {a : Option α} {b : Option β} :
    Option.Rel P a b ↔ (a = none ∧ b = none) ∨ ∃ x y, a = some x ∧ b = some y ∧ P x y := by
  constructor
  · intro h
    cases h with
    | none => exact Or.inl ⟨rfl, rfl⟩
    | some h => exact Or.inr ⟨_, _, rfl, rfl, h⟩
  · rintro (⟨rfl, rfl⟩ | ⟨x, y, rfl, rfl, h⟩)
    · exact .none
    · exact .some h

section Options

variable {γ : Type} {P : α → β → Prop} {a : Option α} {b : Option β} {c : Option γ}

theorem option_rel_trans {Q : β → γ → Prop} {R : α → γ → Prop}
    (trans : ∀ x, a = some x → ∀ y z, P x y → Q y z → R x z) (h : Option.Rel P a b)
    (h' : Option.Rel Q b c) : Option.Rel R a c := by
  cases h with
  | none =>
    cases h'
    exact .none
  | some h =>
    cases h' with
    | some h' => exact .some (trans _ rfl _ _ h h')

theorem option_rel_of_common {Q : α → γ → Prop} {R : β → γ → Prop}
    (common : ∀ x, a = some x → ∀ y z, P x y → Q x z → R y z) (h : Option.Rel P a b)
    (h' : Option.Rel Q a c) : Option.Rel R b c := by
  cases h with
  | none =>
    cases h'
    exact .none
  | some h =>
    cases h' with
    | some h' => exact .some (common _ rfl _ _ h h')

theorem option_rel_symm {Q : β → α → Prop} (symm : ∀ x, a = some x → ∀ y, P x y → Q y x)
    (h : Option.Rel P a b) : Option.Rel Q b a := by
  cases h with
  | none => exact .none
  | some h => exact .some (symm _ rfl _ h)

end Options

end DataOutline
