import DataOutline.Program.Run
import DataOutline.Proofs.Result

/-!
# Where a run stands

A run is at some lines when it begins, and goes to others on its way. But it fails nowhere except in
a step that it has gone to the lines of: programs are made of such steps, and of what cannot fail.
So it is of no consequence where a run begins, by induction on the program, and what is reported of
a part is what a run of this part alone would report. A run comes apart into the runs of its parts,
in a row, and the step of the program itself, whose errors lie in the lines of the program.
-/

namespace DataOutline.Program

variable {m : Type → Type} [Monad m] {α β : Type}

/-- A step whose errors lie in some lines. -/
def blame (span : Span) (step : ExceptT RunError m α) : ExceptT Failure m α :=
  step.adapt fun error ↦ ⟨error, span⟩

/-- A computation reports the same from all lines on. -/
def Unmoved (x : Located m α) : Prop := ∀ span span', report span x = report span' x

variable [LawfulMonad m]

/-! ## Reports -/

theorem run_report (span : Span) (x : Located m α) :
    (report span x).run =
      (fun r ↦ r.1.mapError fun error ↦ ⟨error, r.2⟩) <$> x.run.run span := by
  rw [report, ExceptT.run_mk, map_eq_pure_bind]

theorem report_pure (span : Span) (a : α) : report (m := m) span (pure a) = pure a := by
  refine ExceptT.ext ?_
  rw [run_report, ExceptT.run_pure, StateT.run_pure, map_pure]
  rfl

/-- What comes second is reported as if it came first, if it is run alike from all lines. -/
theorem report_bind {x : Located m α} {k : α → Located m β} (hk : ∀ a, Unmoved (k a))
    (span : Span) :
    report span (x >>= k) = report span x >>= fun a ↦ report start (k a) := by
  refine ExceptT.ext ?_
  rw [run_report, ExceptT.run_bind, StateT.run_bind, map_bind, ExceptT.run_bind, run_report,
    bind_map_left]
  refine bind_congr fun ⟨result, reached⟩ ↦ ?_
  cases result with
  | ok a =>
    change _ = (report start (k a)).run
    rw [hk a start reached, run_report]
  | error e => exact map_pure _ _

theorem report_stepAt (span span' : Span) (step : ExceptT RunError m α) :
    report span' (stepAt span step) = blame span step := by
  refine ExceptT.ext ?_
  have hrun : (stepAt span step).run.run span' = (·, span) <$> step.run := by
    rw [stepAt, ExceptT.run_mk, StateT.run_bind, StateT.run_set, pure_bind, StateT.run_lift,
      map_eq_pure_bind]
  rw [run_report, hrun, Functor.map_map]
  rfl

namespace Unmoved

theorem pure (a : α) : Unmoved (m := m) (Pure.pure a) := fun span span' ↦
  (report_pure span a).trans (report_pure span' a).symm

theorem stepAt (span : Span) (step : ExceptT RunError m α) : Unmoved (Program.stepAt span step) :=
  fun _ _ ↦ (report_stepAt _ _ _).trans (report_stepAt _ _ _).symm

theorem bind {x : Located m α} {k : α → Located m β} (hx : Unmoved x) (hk : ∀ a, Unmoved (k a)) :
    Unmoved (x >>= k) := by
  intro span span'
  rw [report_bind hk, report_bind hk, hx span span']

theorem mapM {as : List α} {k : α → Located m β} (h : ∀ a ∈ as, Unmoved (k a)) :
    Unmoved (as.mapM k) := by
  induction as with
  | nil =>
    rw [List.mapM_nil]
    exact pure []
  | cons a as ih =>
    obtain ⟨ha, has⟩ := List.forall_mem_cons.mp h
    rw [List.mapM_cons]
    exact ha.bind fun b ↦ (ih has).bind fun bs ↦ pure (b :: bs)

end Unmoved

theorem report_mapM {as : List α} {k : α → Located m β} (h : ∀ a ∈ as, Unmoved (k a))
    (span : Span) :
    report span (as.mapM k) = as.mapM fun a ↦ report start (k a) := by
  induction as generalizing span with
  | nil => exact report_pure span []
  | cons a as ih =>
    obtain ⟨ha, has⟩ := List.forall_mem_cons.mp h
    rw [List.mapM_cons, List.mapM_cons,
      report_bind fun b ↦ (Unmoved.mapM has).bind fun bs ↦ .pure (b :: bs), ha span start]
    refine bind_congr fun b ↦ ?_
    rw [report_bind fun bs ↦ .pure (b :: bs), ih has]
    exact bind_congr fun bs ↦ report_pure _ _

theorem report_map (span : Span) (f : α → β) (x : Located m α) :
    report span (f <$> x) = f <$> report span x := by
  rw [map_eq_pure_bind, map_eq_pure_bind, report_bind fun a ↦ .pure (f a)]
  exact bind_congr fun a ↦ report_pure start (f a)

/-! ## Parts in a row -/

section Execution

variable (evaluator : Evaluator m) (context : Context)

theorem executeAll_eq_mapM (ps : List Program) :
    executeAll evaluator context ps = ps.mapM (execute evaluator context) := by
  induction ps with
  | nil => rw [executeAll, List.mapM_nil]
  | cons p ps ih => rw [executeAll, List.mapM_cons, ih]

/-- Entries and additions are run alike: their programs in a row, each value put to its name. -/
private theorem executeNamed_eq {K : Type}
    {named : List (K × Program) → Located m (List (K × Value))}
    (nil : named [] = pure [])
    (cons : ∀ e es, named (e :: es) = do
      let v ← execute evaluator context e.2
      let vs ← named es
      return (e.1, v) :: vs) (es : List (K × Program)) :
    named es = (es.map Prod.fst).zip <$> (es.map Prod.snd).mapM (execute evaluator context) := by
  induction es with
  | nil => rw [nil, List.map_nil, List.map_nil, List.mapM_nil, map_pure, List.zip_nil_left]
  | cons e es ih =>
    rw [cons, List.map_cons, List.map_cons, List.mapM_cons, map_bind]
    refine bind_congr fun v ↦ ?_
    rw [ih, bind_map_left, map_bind]
    refine bind_congr fun vs ↦ ?_
    rw [map_pure]
    rfl

theorem executeEntries_eq (es : List (String × Program)) :
    executeEntries evaluator context es =
      (es.map Prod.fst).zip <$> (es.map Prod.snd).mapM (execute evaluator context) :=
  executeNamed_eq evaluator context (by rw [executeEntries])
    (fun e es ↦ by rw [executeEntries]) es

theorem executeAdditions_eq (es : List (Mixin.Path × Program)) :
    executeAdditions evaluator context es =
      (es.map Prod.fst).zip <$> (es.map Prod.snd).mapM (execute evaluator context) :=
  executeNamed_eq evaluator context (by rw [executeAdditions])
    (fun e es ↦ by rw [executeAdditions]) es

/-! ## Wherever a run begins -/

mutual

theorem unmoved_execute : ∀ p : Program, Unmoved (execute evaluator context p)
  | .array _ elements => by
    rw [execute]
    exact (unmoved_executeAll elements).bind fun _ ↦ .pure _
  | .object entries => by
    rw [execute]
    exact (unmoved_executeEntries entries).bind fun _ ↦ .pure _
  | .mixin span _ _ additions => by
    rw [execute]
    exact (unmoved_executeAdditions additions).bind fun _ ↦ .stepAt span _
  | .expression span _ => by
    rw [execute]
    exact .stepAt span _

theorem unmoved_executeAll : ∀ ps : List Program, Unmoved (executeAll evaluator context ps)
  | [] => by
    rw [executeAll]
    exact .pure []
  | p :: ps => by
    rw [executeAll]
    exact (unmoved_execute p).bind fun _ ↦ (unmoved_executeAll ps).bind fun _ ↦ .pure _

theorem unmoved_executeEntries :
    ∀ es : List (String × Program), Unmoved (executeEntries evaluator context es)
  | [] => by
    rw [executeEntries]
    exact .pure []
  | (_, p) :: es => by
    rw [executeEntries]
    exact (unmoved_execute p).bind fun _ ↦ (unmoved_executeEntries es).bind fun _ ↦ .pure _

theorem unmoved_executeAdditions :
    ∀ es : List (Mixin.Path × Program), Unmoved (executeAdditions evaluator context es)
  | [] => by
    rw [executeAdditions]
    exact .pure []
  | (_, p) :: es => by
    rw [executeAdditions]
    exact (unmoved_execute p).bind fun _ ↦ (unmoved_executeAdditions es).bind fun _ ↦ .pure _

end

/-! ## The equations of a run -/

theorem report_mapM_execute (ps : List Program) :
    report start (ps.mapM (execute evaluator context)) = ps.mapM (run evaluator context) :=
  report_mapM (fun p _ ↦ unmoved_execute evaluator context p) start

theorem run_array (unordered : Bool) (elements : List Program) :
    run evaluator context (.array unordered elements) =
      (Value.array · unordered) <$> elements.mapM (run evaluator context) := by
  rw [run, execute, executeAll_eq_mapM, ← map_eq_pure_bind, report_map, report_mapM_execute]

theorem run_object (entries : List (String × Program)) :
    run evaluator context (.object entries) =
      (fun values ↦ Value.object (Entries.ofList ((entries.map Prod.fst).zip values))) <$>
        (entries.map Prod.snd).mapM (run evaluator context) := by
  rw [run, execute, executeEntries_eq, ← map_eq_pure_bind, Functor.map_map, report_map,
    report_mapM_execute]

theorem run_mixin (span : Span) (base : String) (removals : List Mixin.Path)
    (additions : List (Mixin.Path × Program)) :
    run evaluator context (.mixin span base removals additions) =
      (additions.map Prod.snd).mapM (run evaluator context) >>= fun values ↦
        blame span (ExceptT.mk (pure
          (mix context base removals ((additions.map Prod.fst).zip values)))) := by
  rw [run, execute, executeAdditions_eq, bind_map_left, report_bind fun _ ↦ .stepAt span _,
    report_mapM_execute]
  simp only [report_stepAt]

theorem run_expression (span : Span) (code : String) :
    run evaluator context (.expression span code) = blame span (evaluator code context) := by
  rw [run, execute, report_stepAt]

end Execution

end DataOutline.Program
