import DataOutline.Excerpt
import DataOutline.Mixin.Edit
import DataOutline.Program.Basic

/-!
# Running a program

A program is run in a context and yields a value, each time anew. Parts are run from left to right.
A mixin runs what it adds before it looks up its base, removes, and adds.

A run keeps the lines that it is at. A mixin and an expression take a step of their own, and go to
their lines right before it; nothing else moves a run. If it fails, the failure is reported at the
lines where it ended.
-/

namespace DataOutline

/-- An error of a run and the lines of the value part that it comes from. -/
structure Failure where
  error : RunError
  span : Span
deriving DecidableEq

def Failure.excerpt (f : Failure) (source : String) : String := Excerpt.render source f.span

/-- The message of a failure with its excerpt. -/
def Failure.report (f : Failure) (source : String) : String :=
  f.error.message ++ "\n" ++ f.excerpt source

/-- What expressions mean: the value of a code in a context. -/
abbrev Evaluator (m : Type → Type) := String → Context → ExceptT RunError m Value

/-- A computation that is at some lines, and still is when it fails. -/
abbrev Located (m : Type → Type) := ExceptT RunError (StateT Span m)

namespace Program

variable {m : Type → Type} [Monad m] {α : Type}

/-- A step that is taken at some lines, wherever the run was before. -/
def stepAt (span : Span) (step : ExceptT RunError m α) : Located m α := ExceptT.mk do
  set span
  StateT.lift step.run

/-- What a computation comes to from some lines on. A failure is one at the lines where it ended. -/
def report (start : Span) (x : Located m α) : ExceptT Failure m α := ExceptT.mk do
  let (result, span) ← x.run.run start
  return result.mapError fun error => ⟨error, span⟩

/-- The value of a mixin, given the values that it adds. -/
def mix (context : Context) (base : String) (removals : List Mixin.Path)
    (additions : List (Mixin.Path × Value)) : Except RunError Value := do
  let v ← Mixin.resolveBase context base
  (Mixin.apply v removals additions).mapError RunError.mixin

mutual

/-- The value of a program in a context. -/
def execute (evaluator : Evaluator m) (context : Context) : Program → Located m Value
  | .array unordered elements => do
    let items ← executeAll evaluator context elements
    return .array items unordered
  | .object entries => do
    let values ← executeEntries evaluator context entries
    return .object (Entries.ofList values)
  | .mixin span base removals additions => do
    let values ← executeAdditions evaluator context additions
    stepAt span (ExceptT.mk (pure (mix context base removals values)))
  | .expression span code => stepAt span (evaluator code context)

def executeAll (evaluator : Evaluator m) (context : Context) :
    List Program → Located m (List Value)
  | [] => return []
  | p :: ps => do
    let v ← execute evaluator context p
    let vs ← executeAll evaluator context ps
    return v :: vs

def executeEntries (evaluator : Evaluator m) (context : Context) :
    List (String × Program) → Located m (List (String × Value))
  | [] => return []
  | (k, p) :: es => do
    let v ← execute evaluator context p
    let vs ← executeEntries evaluator context es
    return (k, v) :: vs

def executeAdditions (evaluator : Evaluator m) (context : Context) :
    List (Mixin.Path × Program) → Located m (List (Mixin.Path × Value))
  | [] => return []
  | (path, p) :: es => do
    let v ← execute evaluator context p
    let vs ← executeAdditions evaluator context es
    return (path, v) :: vs

end

/-- The lines that a run is at before its first step. -/
def start : Span := ⟨1, 1⟩

/-- The value of a program in a context, or the failure of its run with the lines that the run has
come to. -/
def run (evaluator : Evaluator m) (context : Context) (p : Program) : ExceptT Failure m Value :=
  report start (execute evaluator context p)

end Program

end DataOutline
