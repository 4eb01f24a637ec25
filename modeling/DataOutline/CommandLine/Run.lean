import DataOutline.CommandLine.Help
import DataOutline.CommandLine.Log
import DataOutline.Document.Parser
import DataOutline.Document.Printer
import DataOutline.Generator.Basic

/-!
# Running the command line

A request reads its document first, and then, if it is an evaluation, the files of its contexts.
The first trouble ends it. An evaluation runs the values in scope one after the other; a value that
fails is reported, and the others are run all the same. What happens on the way is logged, if the
request asks for it.
-/

namespace DataOutline.CommandLine

open Generator (Supply)

/-! ## Contexts -/

/-- The last part of a path that names something. -/
def fileName? (path : String) : Option (List Char) :=
  ((path.toList.splitOn '/').filter fun part => part ≠ [] && part ≠ ['.']).getLast?

/-- What follows the last dot of a file name. A dot at its start does not count. -/
def extension? (path : String) : Option (List Char) := do
  let name ← fileName? path
  let ending := (name.reverse.takeWhile (· ≠ '.')).reverse
  if name = ['.', '.'] ∨ name.length ≤ ending.length + 1 then none else some ending

/-- Whether the file of a path is TOML, by its extension. All other files are JSON. -/
def isToml (path : String) : Bool :=
  (extension? path).any fun ending => ending.map Char.toLower = ['t', 'o', 'm', 'l']

/-- The context that the text of a file gives. The keys of JSON objects come out sorted. -/
def readContext (path text : String) : Except Trouble Context :=
  if isToml path then
    match Toml.read text.toList with
    | .ok values => .ok ⟨values⟩
    | .error e => .error (.notToml path e)
  else
    match Json.read text.toList with
    | .ok j =>
      match Value.ofJson j.sortKeys with
      | .object entries => .ok ⟨entries⟩
      | _ => .error (.noObject path)
    | .error e => .error (.notJson path e)

/-- The context of an evaluation: the generators if they are wanted, and the contexts of the files
over them, later ones over earlier ones. -/
def layered (helpers : Bool) (contexts : List Context) : Context :=
  contexts.foldl Context.extend (if helpers then Generator.context else .empty)

/-! ## Evaluation -/

section Evaluation

variable {n : Type → Type} [Monad n] (log : Event → String)

def logged (e : Event) : Output := { stderr := log e }

/-- What a value that is run contributes to the output: its JSON, or a report. -/
def outcome (source : String) : Except Failure Value → Output
  | .ok v => { stdout := String.ofList (v.toJson.pretty 0) ++ "\n" }
  | .error f =>
    (logged log (.failed f.span.line f.error)).append
      { stderr := "runtime error: " ++ f.report source ++ "\n", code := 1 }

/-- The output of the values of a section, each run in the same context. -/
def evaluateScope (host : Host n) (source : String) (context : Context) (scope : Section Program) :
    n Output := do
  let results ← (scope.values.filterMap ValueTree.unit?).mapM fun p =>
    (p.run (Expression.evaluateText host) context).run
  return Output.concat (results.map (outcome log source))

/-- The section of a document that is evaluated: the first of the given name, or all of it. -/
def scopeOf (name : Option String) (document : Section Program) :
    Except Trouble (Section Program) :=
  match name with
  | none => .ok document
  | some name =>
    match document.find? name with
    | some scope => .ok scope
    | none => .error (.noSection name)

/-- The output of an evaluation of a document. -/
def evaluate (host : Host n) (source : String) (context : Context) (name : Option String)
    (document : Section Program) : n Output :=
  match document.compile id with
  | (_, .error e) => return (Trouble.notCompiled e).output
  | (document, .ok values) => do
    let output ← match scopeOf name document with
      | .error t => pure t.output
      | .ok scope => evaluateScope log host source context scope
    return (logged log (.compiled values document.header.name)).append output

end Evaluation

/-! ## Requests

Files are read in a monad `m`, and only then are values run, in the monad `n` of their host.
-/

variable {m n : Type → Type} [Monad m] [Monad n]

/-- The text of a file, or the reason why there is none. -/
abbrev Files (m : Type → Type) := String → m (Except String String)

def readFile (files : Files m) (path : String) : ExceptT Trouble m String := do
  match ← files path with
  | .ok text => return text
  | .error reason => throw (.unreadable path reason)

def readDocument (files : Files m) (path : String) :
    ExceptT Trouble m (String × Section Program) := do
  let source ← readFile files path
  match Document.parse source with
  | .ok document => return (source, document)
  | .error e => throw (.malformed path source e)

def contextOfFile (files : Files m) (path : String) : ExceptT Trouble m Context := do
  let text ← readFile files path
  ExceptT.mk (pure (readContext path text))

/-- Do what a request asks for with its document, up to the values that it runs. -/
def Request.perform (files : Files m) (log : Event → String) (host : Host n) (r : Request)
    (source : String) (document : Section Program) : ExceptT Trouble m (n Output) := do
  match r.verb with
  | .check => return pure { stderr := "ok: " ++ r.file ++ " parsed successfully\n" }
  | .list => return pure { stdout := document.listing ++ "\n" }
  | .print => return pure { stdout := document.print ++ "\n" }
  | .evaluate =>
    let contexts ← (r.values .context).mapM (contextOfFile files)
    let context := layered (!r.has .noHelpers) contexts
    return evaluate log host source context (r.values .scope).head? document

/-- What is logged for a request: nothing, unless it asks for the log. -/
def Request.heard (log : Event → String) (r : Request) (e : Event) : String :=
  if r.has .verbose then log e else ""

/-- Carry out a request, up to the values that it runs. -/
def Request.run (files : Files m) (log : Event → String) (host : Host n) (r : Request) :
    m (n Output) := do
  match ← (readDocument files r.file).run with
  | .error trouble => return pure trouble.output
  | .ok (source, document) =>
    let parsed := logged (r.heard log) (.parsed r.file)
    match ← (r.perform files (r.heard log) host source document).run with
    | .error trouble => return pure (parsed.append trouble.output)
    | .ok output => return parsed.append <$> output

/-- What the program comes to for some arguments: its output, once the values are run that it
runs. -/
def respond (files : Files m) (log : Event → String) (host : Host n) (arguments : List String) :
    m (n Output) :=
  match Request.ofArguments arguments with
  | .error stop => return pure stop.output
  | .ok r => r.run files log host

/-- The output of the program for some arguments. -/
def run (files : Files m) (supply : Supply) (arguments : List String) : m Output := do
  let output ← respond files (Event.line supply.now) Generator.host arguments
  return (output.run supply).1

end DataOutline.CommandLine
