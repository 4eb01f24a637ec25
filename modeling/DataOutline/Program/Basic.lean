import DataOutline.Document.Basic
import DataOutline.Mixin.Path

/-!
# Programs

A program is what a value block becomes when it is compiled: the tree of the value without the text,
with paths cut into their steps, and with the lines of the parts whose own step can fail. A unit
that is compiled already is no part of a value, so a value that holds one does not compile.
-/

namespace DataOutline

open Mixin (Path)

/-- A value that can be run. -/
inductive Program where
  | array (unordered : Bool) (elements : List Program)
  | object (entries : List (String × Program))
  | mixin (span : Span) (base : String) (removals : List Path)
      (additions : List (Path × Program))
  | expression (span : Span) (code : String)
deriving Inhabited

/-- Why a value does not compile: at some line it holds a unit that is compiled already. -/
structure CompileError where
  line : Nat
deriving DecidableEq, Repr

def CompileError.message (e : CompileError) : String :=
  "value at line " ++ toString e.line ++ " contains an already compiled value"

namespace Program

variable {U : Type}

mutual

def compile : ValueTree U → Except CompileError Program
  | .array _ unordered elements => .array unordered <$> compileAll elements
  | .object _ entries => .object <$> compileEntries entries
  | .mixin block base removals additions =>
    .mixin block.span base (removals.map Path.ofText) <$> compileAdditions additions
  | .expression block code => .ok (.expression block.span code)
  | .compiled block _ => .error ⟨block.span.line⟩

def compileAll : List (ValueTree U) → Except CompileError (List Program)
  | [] => .ok []
  | t :: ts => do
    let p ← compile t
    let ps ← compileAll ts
    return p :: ps

def compileEntries : List (String × ValueTree U) → Except CompileError (List (String × Program))
  | [] => .ok []
  | (k, t) :: es => do
    let p ← compile t
    let ps ← compileEntries es
    return (k, p) :: ps

def compileAdditions : List (String × ValueTree U) → Except CompileError (List (Path × Program))
  | [] => .ok []
  | (k, t) :: es => do
    let p ← compile t
    let ps ← compileAdditions es
    return (Path.ofText k, p) :: ps

end

end Program

/-! ## Compiling the values of a document

The values are compiled in the order of the source. At the first one that does not compile the work
stops: the values before it are compiled, and it and those after it are as they were.
-/

/-- How far compilation came: the number of values compiled so far, or the error that ended it. -/
abbrev Progress := Except CompileError Nat

variable {U : Type}

mutual

/-- A child with its values compiled, and how far compilation came. -/
def Node.compile (unit : Program → U) (count : Nat) : Node U → Node U × Progress
  | .subsection header children =>
    let (children, progress) := Node.compileAll unit count children
    (.subsection header children, progress)
  | .value (.compiled block u) => (.value (.compiled block u), .ok count)
  | .value tree =>
    match Program.compile tree with
    | .ok p => (.value (.compiled tree.block (unit p)), .ok (count + 1))
    | .error e => (.value tree, .error e)
  | node => (node, .ok count)

def Node.compileAll (unit : Program → U) (count : Nat) : List (Node U) → List (Node U) × Progress
  | [] => ([], .ok count)
  | n :: ns =>
    match n.compile unit count with
    | (n, .ok count) =>
      let (ns, progress) := Node.compileAll unit count ns
      (n :: ns, progress)
    | (n, .error e) => (n :: ns, .error e)

end

/-- A section with its values compiled into units, and how many there were to compile. -/
def Section.compile (unit : Program → U) (s : Section U) : Section U × Progress :=
  let (children, progress) := Node.compileAll unit 0 s.children
  (⟨s.header, children⟩, progress)

end DataOutline
