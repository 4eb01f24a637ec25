import DataOutline.Proofs.Program.Compilation
import DataOutline.Proofs.Program.Execution

/-!
# Where a run fails

An evaluator may keep a state from one code to the next and fail whenever it likes. Wherever that
is, a run that fails names the lines of a mixin or expression that is a part of the value: nothing
else in a run can fail, and each step that can is bound to its lines when the value is compiled.
-/

namespace DataOutline

variable {σ ε α β : Type}

/-- Whatever state a computation starts in, if it fails, its error has `P`. -/
def FailsOnly (P : ε → Prop) (x : ExceptT ε (StateM σ) α) : Prop :=
  ∀ s e, (x.run.run s).1 = .error e → P e

namespace FailsOnly

variable {P Q : ε → Prop} {x : ExceptT ε (StateM σ) α}

theorem pure (a : α) : FailsOnly P (Pure.pure a : ExceptT ε (StateM σ) α) := fun _ _ h ↦ nomatch h

theorem throw {e : ε} (h : P e) : FailsOnly P (MonadExcept.throw e : ExceptT ε (StateM σ) α) := by
  rintro s e' ⟨⟩
  exact h

theorem mono (h : FailsOnly P x) (hPQ : ∀ e, P e → Q e) : FailsOnly Q x :=
  fun s e he ↦ hPQ e (h s e he)

theorem bind {k : α → ExceptT ε (StateM σ) β} (h : FailsOnly P x)
    (hk : ∀ a, FailsOnly P (k a)) : FailsOnly P (x >>= k) := by
  intro s e he
  have hrun : ((x >>= k).run.run s) = match x.run.run s with
      | (.ok a, s') => (k a).run.run s'
      | (.error e, s') => (.error e, s') := by
    rw [ExceptT.run_bind, StateT.run_bind]
    rcases x.run.run s with ⟨_ | _, s'⟩ <;> rfl
  rw [hrun] at he
  rcases hx : x.run.run s with ⟨e' | a, s'⟩
  · rw [hx] at he
    cases he
    exact h s e (congrArg Prod.fst hx)
  · rw [hx] at he
    exact hk a s' e he

theorem map (h : FailsOnly P x) (f : α → β) : FailsOnly P (f <$> x) := by
  rw [map_eq_pure_bind]
  exact h.bind fun a ↦ pure (f a)

theorem mapM {as : List α} {k : α → ExceptT ε (StateM σ) β} (h : ∀ a ∈ as, FailsOnly P (k a)) :
    FailsOnly P (as.mapM k) := by
  induction as with
  | nil =>
    rw [List.mapM_nil]
    exact pure []
  | cons a as ih =>
    obtain ⟨ha, has⟩ := List.forall_mem_cons.mp h
    rw [List.mapM_cons]
    exact ha.bind fun b ↦ (ih has).bind fun bs ↦ pure (b :: bs)

end FailsOnly

namespace Program

variable {U : Type} {evaluator : Evaluator (StateM σ)} {context : Context}

theorem failsOnly_blame (span : Span) (step : ExceptT RunError (StateM σ) α) :
    FailsOnly (fun f ↦ f.span = span) (blame span step) := by
  intro s f hf
  have hrun : (blame span step).run.run s
      = ((step.run.run s).1.mapError (⟨·, span⟩), (step.run.run s).2) := rfl
  rw [hrun] at hf
  rcases h : (step.run.run s).1 with e | a
  · rw [h] at hf
    cases hf
    rfl
  · rw [h] at hf
    exact nomatch hf

/-- **A run that fails names the lines of a part of the value.** By induction on the value: what
fails is a step of its own, which is blamed on its lines, or the run of a child. -/
theorem failsOnly_run {t : ValueTree U} {p : Program} (h : compile t = .ok p) :
    FailsOnly (fun f ↦ ∃ part ∈ t.parts, f.span = part.block.span) (run evaluator context p) := by
  induction t using ValueTree.childInduction generalizing p with
  | step t ih =>
    have hown : ∀ {α : Type} (step : ExceptT RunError (StateM σ) α),
        FailsOnly (fun f ↦ ∃ part ∈ t.parts, f.span = part.block.span)
          (blame t.block.span step) :=
      fun step ↦ (failsOnly_blame _ step).mono fun f hf ↦ ⟨t, t.self_mem_parts, hf⟩
    have hparts : ∀ {ps}, List.Forall₂ (fun t p ↦ compile t = .ok p) t.children ps → ∀ p ∈ ps,
        FailsOnly (fun f ↦ ∃ part ∈ t.parts, f.span = part.block.span)
          (run evaluator context p) := by
      intro ps compiled p hmem
      obtain ⟨child, hchild, hcompile⟩ := exists_of_forall₂ compiled.flip hmem
      refine (ih child hchild hcompile).mono ?_
      rintro f ⟨part, hpart, hspan⟩
      exact ⟨part, ValueTree.mem_parts_of_child hchild hpart, hspan⟩
    cases compilesAs_of_compile h with
    | array compiled =>
      rw [run_array]
      exact (FailsOnly.mapM (hparts compiled)).map _
    | object compiled =>
      rw [run_object]
      exact (FailsOnly.mapM fun p hp ↦ hparts compiled p (mem_of_mem_map_snd_zip hp)).map _
    | mixin compiled =>
      rw [run_mixin]
      exact (FailsOnly.mapM fun p hp ↦ hparts compiled p (mem_of_mem_map_snd_zip hp)).bind
        fun _ ↦ hown _
    | expression block code =>
      rw [run_expression]
      exact hown _

end Program

end DataOutline
