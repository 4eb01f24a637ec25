import DataOutline.Text.Blank
import DataOutline.Text.Letter
import DataOutline.Text.Line

/-!
# Keys, paths and clauses

The beginnings of the lines of a value block. An entry begins with a key and a colon; a key is a
word, with a question mark behind it or not, or any text in quotes. Where paths are allowed, words
with dots between them are keys, too. A mixin begins with a path to its base and a clause that adds
to it or removes from it.
-/

namespace DataOutline.Grammar

open Text

/-- Whether a text is a path: words with dots between them. -/
def isPath (cs : List Char) : Bool :=
  (cs.splitOn '.').all fun part => !part.isEmpty && part.all isWordChar

/-- The longest part of a line that is made of words and dots, and the rest. -/
def pathPart (line : Line) : Line × Line :=
  line.span fun c => isWordChar c || c == '.'

/-- What a character of a quoted key means behind a backslash. -/
def unescape : Char → Char
  | 'n' => '\n'
  | 't' => '\t'
  | 'r' => '\r'
  | c => c

/-- The text up to a closing quote, with its escapes resolved, and what follows the quote. -/
def quotedBody : Line → Option (List Char × Line)
  | [] => none
  | '"' :: rest => some ([], rest)
  | '\\' :: rest =>
    match rest with
    | [] => none
    | c :: rest => (quotedBody rest).map fun (name, rest) => (unescape c :: name, rest)
  | c :: rest => (quotedBody rest).map fun (name, rest) => (c :: name, rest)

/-- Whether keys are single words or paths. -/
inductive KeyForm where
  | word
  | path
deriving DecidableEq, Repr

/-- Whether a bare key has a form. -/
def KeyForm.admits : KeyForm → List Char → Bool
  | .word, cs => !cs.isEmpty && cs.all isWordChar
  | .path, cs => isPath cs

/-- The key at the start of a line, and the rest. A bare key keeps its question mark. -/
def keyName? (form : KeyForm) : Line → Option (List Char × Line)
  | '"' :: rest => quotedBody rest
  | line =>
    let (bare, rest) := pathPart line
    if form.admits bare then
      match rest with
      | '?' :: rest => some (bare ++ ['?'], rest)
      | rest => some (bare, rest)
    else none

/-- The key of an entry at the start of a line, and what follows its colon and one space. -/
def key? (form : KeyForm) (line : Line) : Option (String × Line) :=
  match keyName? form line with
  | some (name, ':' :: ' ' :: rest) => some (String.ofList name, rest)
  | some (name, ':' :: rest) => some (String.ofList name, rest)
  | _ => none

/-- The marker of an array element at the start of a line, read as "is unordered", and what follows
it. -/
def marker? : Line → Option (Bool × Line)
  | '*' :: '\t' :: rest => some (false, rest)
  | '@' :: '\t' :: rest => some (true, rest)
  | _ => none

/-- What a mixin does to its base. -/
inductive Clause where
  | adding
  | removing
deriving DecidableEq, Repr

/-- The clause that a word opens. -/
def Clause.ofWord? (word : List Char) : Option Clause :=
  if word = ['w', 'i', 't', 'h'] then some .adding
  else if word = ['w', 'i', 't', 'h', 'o', 'u', 't'] then some .removing
  else none

/-- The base and the clause at the start of a line, and what follows them. -/
def mixin? (line : Line) : Option (String × Clause × Line) :=
  let (base, rest) := pathPart line
  let (word, rest) := firstWord (trimStart rest)
  if isPath base && !(base.head?.any isDigit) && ((line.drop base.length).head?.any isBlank) then
    (Clause.ofWord? word).map fun clause => (String.ofList base, clause, rest)
  else none

/-- What follows the word that opens a clause of additions, blanks before it or not. -/
def additions? (line : Line) : Option Line :=
  let (word, rest) := firstWord (trimStart line)
  if Clause.ofWord? word = some .adding then some rest else none

end DataOutline.Grammar
