import DataOutline.Document.Fault
import DataOutline.Grammar.Key

/-!
# Values from lines

The first line of a value decides what it is: an array if the line begins with a marker, an object
if with a key, a mixin if with a base and a clause; otherwise an expression, which is one line. The
lines below that belong to an element or entry are indented by one tab more. Comment lines count for
nothing, and so does a blank line at the start.

Elements, entries and additions are values of fewer characters than the one that they are part of,
which is what the recursion is on.
-/

namespace DataOutline

open Text Grammar

/-- A line of a value, without the tabs of the levels around it, and its number in the source. -/
structure NumberedLine where
  number : Nat
  text : Line
deriving DecidableEq, Repr

/-- The lines of a value or of a part of one: there is at least the one that opens it. -/
structure Passage where
  first : NumberedLine
  more : List NumberedLine
deriving DecidableEq, Repr

namespace Passage

def lines (p : Passage) : List NumberedLine := p.first :: p.more

def lastNumber (p : Passage) : Nat := (p.more.getLast?.getD p.first).number

def size (p : Passage) : Nat := p.lines.foldr (fun l n => l.text.length + n) 0

/-- Whether a line is a comment: two slashes with nothing but blanks before them. -/
def isComment (line : Line) : Bool := ['/', '/'].isPrefixOf (trimStart line)

/-- Where the content of a passage stands: from its first line, or from its second if the first is
blank and there is a second, to its last. -/
def span (p : Passage) : Span :=
  let line := if allBlank p.first.text then (p.more.head?.getD p.first).number else p.first.number
  ⟨line, max 1 (p.lastNumber + 1 - line)⟩

/-- The lines that count: all but comments and a blank line at the start. -/
def content (p : Passage) : List NumberedLine :=
  (if allBlank p.first.text then p.more else p.lines).filter fun l => !isComment l.text

end Passage

namespace ValueTree

def faultAt {α : Type} (fault : Fault) (line : Nat) : Except SyntaxError α :=
  .error ⟨fault, ⟨line, 1⟩⟩

/-- The elements of an array, each with the lines below it; before them the lines that belong to the
element that is open. `kind` is that of the markers before, read as "is unordered". -/
def elements (kind : Option Bool) :
    List NumberedLine → Except SyntaxError (List NumberedLine × List Passage)
  | [] => .ok ([], [])
  | line :: rest =>
    match marker? line.text, unindent? line.text, kind with
    | some (unordered, text), _, _ => do
      if kind.any (· ≠ unordered) then faultAt .mixedMarkers line.number
      let (below, passages) ← elements (some unordered) rest
      return ([], ⟨{ line with text }, below⟩ :: passages)
    | none, some text, some _ => do
      let (below, passages) ← elements kind rest
      return ({ line with text } :: below, passages)
    | none, _, _ => faultAt .missingMarker line.number

/-- The entries of an object or of a clause of additions, each with its name and the lines below it;
before them the lines that belong to the entry that is open. -/
def entries (form : KeyForm) (within : Bool) :
    List NumberedLine → Except SyntaxError (List NumberedLine × List (String × Passage))
  | [] => .ok ([], [])
  | line :: rest =>
    match key? form line.text, unindent? line.text, within with
    | some (name, text), _, _ => do
      let (below, passages) ← entries form true rest
      return ([], (name, ⟨{ line with text }, below⟩) :: passages)
    | none, some text, true => do
      let (below, passages) ← entries form within rest
      return ({ line with text } :: below, passages)
    | none, _, _ => faultAt .missingKey line.number

/-- The paths of a list with commas, each once, in the order in which they first come. -/
def removals (line : Nat) (list : Line) : Except SyntaxError (List String) := do
  if allBlank list then faultAt .missingRemovals line
  let paths := (list.splitOn ',').map trim
  paths.foldlM (fun found path =>
    if !isPath path then faultAt (.invalidPath (String.ofList path)) line
    else
      let path := String.ofList path
      return if path ∈ found then found else found ++ [path]) []

/-- Lines without the tab that indents each. -/
def unindentAll : List NumberedLine → Except SyntaxError (List NumberedLine)
  | [] => .ok []
  | line :: rest =>
    match unindent? line.text with
    | some text => do return { line with text } :: (← unindentAll rest)
    | none => faultAt .unindentedAddition line.number

/-- The entries of a clause of additions: what stands behind the clause, and the lines below. -/
def additions (number : Nat) (text : Line) (below : List NumberedLine) :
    Except SyntaxError (List (String × Passage)) := do
  let passage : Passage := ⟨⟨number, text⟩, ← unindentAll below⟩
  match passage.content with
  | [] => .error ⟨.missingAdditions, passage.span⟩
  | head :: rest =>
    if (key? .path head.text).isNone then faultAt .missingAdditionKey head.number
    else return (← entries .path false (head :: rest)).2

/-- What a mixin removes, and the entries that it adds, given its clause and the lines of it. -/
def mixinParts (clause : Clause) (number : Nat) (text : Line) (below : List NumberedLine) :
    Except SyntaxError (List String × List (String × Passage)) :=
  match clause with
  | .adding => do return ([], ← additions number text below)
  | .removing => do
    let list := text.takeWhile (· ≠ ';')
    let removals ← removals number list
    match text.drop list.length with
    | _ :: tail =>
      match additions? tail with
      | some text => return (removals, ← additions number text below)
      | none => faultAt .missingWith number
    | [] =>
      match below with
      | [] => return (removals, [])
      | extra :: more =>
        let last := more.getLast?.getD extra
        throw ⟨.linesAfterWithout, ⟨extra.number, last.number - extra.number + 1⟩⟩

variable {U : Type}

/-- The value of a passage with at most `fuel` levels of parts in it. -/
def readFrom : Nat → Passage → Except SyntaxError (ValueTree U)
  | 0, p => .error ⟨.missingValue, p.span⟩
  | fuel + 1, p =>
    match p.content with
    | [] => .error ⟨.missingValue, p.span⟩
    | head :: rest =>
      let block : Block := ⟨p.span, String.ofList (unlines ((head :: rest).map (·.text)))⟩
      match marker? head.text with
      | some (unordered, _) => do
        let (_, passages) ← elements none (head :: rest)
        return .array block unordered (← passages.mapM (readFrom fuel))
      | none =>
        if (key? .word head.text).isSome then do
          let (_, passages) ← entries .word false (head :: rest)
          return .object block (← passages.mapM fun (name, q) => do
            return (name, ← readFrom fuel q))
        else
          match mixin? head.text with
          | some (base, clause, text) => do
            let (removals, passages) ← mixinParts clause head.number text rest
            return .mixin block base removals (← passages.mapM fun (name, q) => do
              return (name, ← readFrom fuel q))
          | none =>
            if rest.isEmpty then .ok (.expression block (String.ofList (trim head.text)))
            else .error ⟨.malformedValue, p.span⟩

def read (p : Passage) : Except SyntaxError (ValueTree U) := readFrom (p.size + 1) p

end ValueTree

end DataOutline
