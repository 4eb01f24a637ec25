import DataOutline.Toml.Quoted
import DataOutline.Toml.Scalar
import DataOutline.Toml.Table

/-!
# TOML from text

A text is a row of statements, one to a line, with blank lines and comments between them. Arrays may
go over several lines, tables within braces may not. Values may be nested up to a limit, and the
levels that are left are what the recursion is on.
-/

namespace DataOutline.Toml

/-! ## Lines -/

/-- A text without the blanks, line breaks and comments at its start. A comment ends at a line
break. -/
def skipLines (inComment : Bool) : List Char → Except Stop (List Char)
  | [] => if inComment then mismatch [] none [] else .ok []
  | c :: cs =>
    if inComment && isPlain c then skipLines true cs
    else if c = '\n' then skipLines false cs
    else if c = '\r' then
      if cs.head? = some '\n' then skipLines false cs else mismatch cs none []
    else if inComment then mismatch cs none []
    else if c = '#' then skipLines true cs
    else if isSpace c then skipLines false cs
    else .ok (c :: cs)

/-- What follows a line break, or the end of the text. -/
def lineBreak? (cs : List Char) : Option (List Char) := if cs.isEmpty then some [] else newline? cs

def skipComment : List Char → List Char
  | '#' :: rest => rest.dropWhile isPlain
  | rest => rest

/-- What follows the end of a line, which blanks and a comment may precede. -/
def lineEnd (cs : List Char) : Except Stop (List Char) :=
  let rest := skipComment (skipSpaces cs)
  match lineBreak? rest with
  | some rest => .ok rest
  | none => stop rest none ["newline", inBackticks "#"]

/-! ## Keys -/

def isBareKeyChar (c : Char) : Bool := c.isAlphanum || c == '_' || c == '-'

/-- One part of a key, and the rest. -/
def keyPart (cs : List Char) : Except Stop (List Char × List Char) :=
  match cs with
  | '"' :: _ => readLine '"' cs
  | '\'' :: _ => readLine '\'' cs
  | cs =>
    let (name, rest) := cs.span isBareKeyChar
    if name.isEmpty then mismatch cs none [] else .ok (name, rest)

/-- The parts of a dotted key, blanks around each, and the rest. A dot that no part follows is not
of the key. -/
def dottedKey : Nat → List Char → Except Stop (List String × List Char)
  | 0, cs => mismatch cs none []
  | fuel + 1, cs => do
    let (part, rest) ← keyPart (skipSpaces cs)
    let name := String.ofList part
    match skipSpaces rest with
    | '.' :: behind =>
      orElse (do
        let (parts, rest) ← dottedKey fuel behind
        return (name :: parts, rest)) fun _ => return ([name], '.' :: behind)
    | rest => return ([name], rest)

/-- How deep arrays and tables may be nested in each other, plus one. -/
def levelLimit : Nat := 80

def readKey (cs : List Char) : Except Stop (List String × List Char) := do
  let (parts, rest) ← inside .key (dottedKey (cs.length + 1) cs)
  if levelLimit ≤ parts.length then
    .error { left := cs.length, cause := some .tooDeep, isFinal := false }
  else return (parts, rest)

/-! ## Values -/

/-- A reader of the value at the start of a text. -/
abbrev Reader := List Char → Except Stop ((Kind × Value) × List Char)

def item (sub : Reader) (cs : List Char) : Except Stop (Value × List Char) := do
  let ((_, v), rest) ← sub (← skipLines false cs)
  return (v, ← skipLines false rest)

/-- Values with commas between them, and the rest. A comma that no value follows is not of them. -/
def items (sub : Reader) : Nat → List Char → Except Stop (List Value × List Char)
  | 0, cs => .ok ([], cs)
  | fuel + 1, cs =>
    orElse (do
      let (v, rest) ← item sub cs
      match rest with
      | ',' :: behind => do
        let (vs, rest) ← items sub fuel behind
        return (v :: vs, if vs.isEmpty then ',' :: behind else rest)
      | rest => return ([v], rest)) fun _ => .ok ([], cs)

def array (sub : Reader) (cs : List Char) : Except Stop (Value × List Char) := do
  let (vs, rest) ← if cs.head? = some ']' then pure ([], cs) else items sub (cs.length + 1) cs
  let rest := if !vs.isEmpty && rest.head? = some ',' then rest.tail else rest
  match ← committed (if cs.head? = some ']' then pure rest else skipLines false rest) with
  | ']' :: rest => return (.array vs false, rest)
  | rest => stop rest (some .array) [inBackticks "]"]

/-- A key, an equals sign and a value, and the rest. Behind the key it cannot be anything else. -/
def assignment (sub : Reader) (cs : List Char) :
    Except Stop ((List String × Kind × Value) × List Char) := do
  let (path, rest) ← readKey cs
  match rest with
  | '=' :: rest => committed do
    let ((kind, v), rest) ← sub (skipSpaces rest)
    return ((path, kind, v), rest)
  | rest => stop rest none [inBackticks ".", inBackticks "="]

/-- Assignments with commas between them, and the rest. A comma that none follows is not of them. -/
def assignments (sub : Reader) :
    Nat → List Char → Except Stop (List (List String × Kind × Value) × List Char)
  | 0, cs => .ok ([], cs)
  | fuel + 1, cs =>
    orElse (do
      let (a, rest) ← assignment sub cs
      match skipSpaces rest with
      | ',' :: behind => do
        let (more, rest) ← assignments sub fuel behind
        return (a :: more, if more.isEmpty then ',' :: behind else rest)
      | rest => return ([a], rest)) fun _ => .ok ([], cs)

/-- The table that assignments make. -/
def Table.ofAssignments (as : List (List String × Kind × Value)) : Except Cause Table :=
  as.foldlM (fun t (path, kind, v) => t.assign .braces path kind v) []

/-- A table behind its brace, and the rest. -/
def inlineTable (sub : Reader) (cs : List Char) : Except Stop (Value × List Char) := do
  let (as, rest) ← assignments sub (cs.length + 1) cs
  match Table.ofAssignments as with
  | .error cause => refuse cs none cause
  | .ok t =>
    match skipSpaces rest with
    | '\x7d' :: rest => return (.object t.values, rest)
    | rest => stop rest (some .inlineTable) [inBackticks "\x7d"]

/-- The value at the start of a text, when so many levels are left. -/
def value : Nat → Reader
  | 0, cs => refuse cs none .tooDeep
  | levels + 1, cs =>
    match cs with
    | '[' :: rest => do
      if levels = 0 then refuse cs none .tooDeep
      let (v, rest) ← array (value levels) rest
      return ((.array, v), rest)
    | '\x7b' :: rest => do
      if levels = 0 then refuse cs none .tooDeep
      let (v, rest) ← inlineTable (value levels) rest
      return ((.inlineTable, v), rest)
    | '"' :: _ => do
      let (text, rest) ← readQuoted '"' cs
      return ((.string, .string (String.ofList text)), rest)
    | '\'' :: _ => do
      let (text, rest) ← readQuoted '\'' cs
      return ((.string, .string (String.ofList text)), rest)
    | cs => readScalar cs

/-! ## Statements -/

/-- A line of a TOML text. -/
inductive Statement where
  /-- `[path]` -/
  | table (path : List String)
  /-- `[[path]]` -/
  | item (path : List String)
  /-- `path = value` -/
  | assign (path : List String) (kind : Kind) (v : Value)

def header (closing : List Char) (cs : List Char) : Except Stop (List String × List Char) := do
  let (path, rest) ← committed (readKey cs)
  match closing.isPrefixOf? rest with
  | some rest => return (path, rest)
  | none => stop rest none [inBackticks ".", inBackticks (String.ofList closing)]

/-- The header at the start of a text, and what follows its line. -/
def headerLine (cs : List Char) : Except Stop (Statement × List Char) :=
  inside .tableHeader <|
    match cs with
    | '[' :: '[' :: rest => do
      let (path, rest) ← header [']', ']'] rest
      return (.item path, ← lineEnd rest)
    | '[' :: c :: rest => do
      let (path, rest) ← header [']'] (c :: rest)
      return (.table path, ← lineEnd rest)
    | cs => stop cs none []

def statement (cs : List Char) : Except Stop (Statement × List Char) :=
  if cs.head? = some '[' then headerLine cs
  else do
    let ((path, kind, v), rest) ← assignment (value levelLimit) cs
    return (.assign path kind v, ← lineEnd rest)

/-- A table that is being built, and the path of the table in it that is open. -/
structure Draft where
  root : Table := []
  path : List String := []

/-- Carry out a statement. -/
def Draft.apply (d : Draft) : Statement → Except Cause Draft
  | .table path => do return ⟨← d.root.openTable path, path⟩
  | .item path => do return ⟨← d.root.openItem path, path⟩
  | .assign path kind v => do return { d with root := ← d.root.assignUnder d.path path kind v }

/-- What a statement is in, if it is a header. -/
def Statement.construct? : Statement → Option Construct
  | .table _ | .item _ => some .tableHeader
  | .assign .. => none

def statements : Nat → Draft → List Char → Except Stop Draft
  | 0, d, _ => .ok d
  | fuel + 1, d, cs =>
    match skipSpaces cs with
    | [] => .ok d
    | c :: rest =>
      if c = '#' then
        match lineBreak? (rest.dropWhile isPlain) with
        | some rest => statements fuel d rest
        | none => stop (rest.dropWhile isPlain) none []
      else if c = '\n' ∨ c = '\r' then
        match newline? (c :: rest) with
        | some rest => statements fuel d rest
        | none => stop (c :: rest) none []
      else do
        let (s, below) ← statement (c :: rest)
        match d.apply s with
        | .ok d => statements fuel d below
        | .error cause => refuse (c :: rest) s.construct? cause

/-- A text without the byte order mark that may stand in front of it. -/
def withoutMark : List Char → List Char
  | '\ufeff' :: cs => cs
  | cs => cs

/-- The values of a text, sorted by key. -/
def read (text : List Char) : Except ReadError (Entries Value) :=
  match statements (text.length + 1) {} (withoutMark text) with
  | .ok d => .ok d.root.values
  | .error s => .error ⟨s, text⟩

end DataOutline.Toml
