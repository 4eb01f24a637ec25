import Mathlib.Data.List.Basic
import DataOutline.Proofs.Program.Execution

/-!
# Runs without effects

An evaluator that is a function of a code and a context has no effects, and a run of a program with
it is a value or a failure, nothing else. Here the equations of such runs are put in terms of
results: the parts of a program are run one by one, up to the first that fails, and then comes what
the program itself does with their values.
-/

namespace DataOutline

/-- The result of a computation without effects. -/
def settled {ε α : Type} (x : ExceptT ε Id α) : Except ε α := x.run

theorem settled_bind {ε α β : Type} (x : ExceptT ε Id α) (k : α → ExceptT ε Id β) :
    settled (x >>= k) = settled x >>= fun a ↦ settled (k a) := by
  change ExceptT.bindCont k x.run = _
  rw [settled]
  rcases h : x.run with e | a
  · rfl
  · rfl

theorem settled_map {ε α β : Type} (f : α → β) (x : ExceptT ε Id α) :
    settled (f <$> x) = f <$> settled x := by
  rw [map_eq_pure_bind, settled_bind, map_eq_pure_bind]
  rfl

theorem settled_mapM {ε α β : Type} (f : α → ExceptT ε Id β) (as : List α) :
    settled (as.mapM f) = as.mapM fun a ↦ settled (f a) := by
  induction as with
  | nil => rfl
  | cons a as ih =>
    rw [List.mapM_cons, List.mapM_cons, settled_bind]
    refine bind_congr fun b ↦ ?_
    rw [settled_bind, ih]
    rfl

namespace Program

variable (evaluator : Evaluator Id) (context : Context)

/-- The value of a program in a context, or the failure of its run. -/
def outcome (p : Program) : Except Failure Value := settled (run evaluator context p)

variable {evaluator context}

/-- A failure is an error and the lines that the execution has come to, wherever it began. -/
theorem outcome_eq_error_iff (p : Program) (span : Span) (f : Failure) :
    outcome evaluator context p = .error f ↔
      (execute evaluator context p).run.run span = (.error f.error, f.span) := by
  have houtcome : outcome evaluator context p =
      ((execute evaluator context p).run.run span).1.mapError
        fun error ↦ ⟨error, ((execute evaluator context p).run.run span).2⟩ := by
    rw [outcome, run, unmoved_execute evaluator context p start span]
    rfl
  rw [houtcome]
  rcases (execute evaluator context p).run.run span with ⟨e | v, reached⟩
  · constructor
    · rintro ⟨⟩
      rfl
    · rintro ⟨⟩
      rfl
  · constructor
    · rintro ⟨⟩
    · rintro ⟨⟩

/-! ## The equations of a run -/

theorem settled_runs (ps : List Program) :
    settled (ps.mapM (run evaluator context)) = ps.mapM (outcome evaluator context) :=
  settled_mapM _ ps

theorem outcome_array (unordered : Bool) (elements : List Program) :
    outcome evaluator context (.array unordered elements)
      = (Value.array · unordered) <$> elements.mapM (outcome evaluator context) := by
  rw [outcome, run_array, settled_map, settled_runs]

theorem outcome_object (entries : List (String × Program)) :
    outcome evaluator context (.object entries)
      = (fun values ↦ Value.object (Entries.ofList ((entries.map Prod.fst).zip values)))
          <$> (entries.map Prod.snd).mapM (outcome evaluator context) := by
  rw [outcome, run_object, settled_map, settled_runs]

theorem outcome_mixin (span : Span) (base : String) (removals : List Mixin.Path)
    (additions : List (Mixin.Path × Program)) :
    outcome evaluator context (.mixin span base removals additions)
      = (additions.map Prod.snd).mapM (outcome evaluator context) >>= fun values ↦
          (mix context base removals ((additions.map Prod.fst).zip values)).mapError
            fun error ↦ ⟨error, span⟩ := by
  rw [outcome, run_mixin, settled_bind, settled_runs]
  rfl

theorem outcome_expression (span : Span) (code : String) :
    outcome evaluator context (.expression span code)
      = (settled (evaluator code context)).mapError fun error ↦ ⟨error, span⟩ := by
  rw [outcome, run_expression]
  rfl

end Program

end DataOutline
