import DataOutline.Grammar.Value

/-!
# Documents from text

A source is read in three steps. Its lines are first gathered into items: headers, runs of text
lines, runs of value lines, and fenced code; this is where the shape of the document is checked.
Then each run of value lines is read as a value, from the first to the last. At the end the items
are nested: a section takes what follows its header, up to the next header that is not below it.
-/

namespace DataOutline

open Text

/-- A header or a block of a source, in the order of the source. -/
inductive Item where
  | header (h : Header)
  | text (line : Nat) (lines : List Line)
  | value (line : Nat) (lines : List Line)
  | code (line : Nat) (language : Line) (lines : List Line)
deriving DecidableEq, Repr

namespace Document

/-- The mark that opens fenced code at the start of a line and closes it on a line of its own. -/
def fence : Line := ['`', '`', '`']

/-- The level and the name of a header line: number signs alone, or with a space behind them. -/
def header? (line : Line) : Option (Nat × Line) :=
  let level := (line.takeWhile (· == '#')).length
  if level = 0 then none
  else
    match line.drop level with
    | [] => some (level, [])
    | ' ' :: name => some (level, trim name)
    | _ => none

def headerAt (number level : Nat) (name line : Line) : Header :=
  ⟨String.ofList name, level, number, String.ofList line⟩

/-- A text line before the items that follow it. A run of text lines right below it takes it in. -/
def consText (number : Nat) (line : Line) : List Item → List Item
  | .text below ls :: rest =>
    if below = number + 1 then .text number (line :: ls) :: rest
    else .text number [line] :: .text below ls :: rest
  | rest => .text number [line] :: rest

/-- A value line before the items that follow it. A run of value lines right below it takes it
in. -/
def consValue (number : Nat) (line : Line) : List Item → List Item
  | .value below ls :: rest =>
    if below = number + 1 then .value number (line :: ls) :: rest
    else .value number [line] :: .value below ls :: rest
  | rest => .value number [line] :: rest

/-- Fenced code that is still open: the line of its fence, its language, and its lines so far, the
last one first. -/
structure OpenCode where
  line : Nat
  language : Line
  lines : List Line

/-- The items of lines, given the number of the first, the level of the last header before it, and
the code that is open there. -/
def gather (number depth : Nat) : Option OpenCode → List Line → Except SyntaxError (List Item)
  | none, [] => .ok []
  | some code, [] => .error ⟨.unterminatedCode, ⟨code.line, 1⟩⟩
  | some code, line :: rest =>
    if line = fence then do
      let items ← gather (number + 1) depth none rest
      return .code code.line code.language code.lines.reverse :: items
    else gather (number + 1) depth (some { code with lines := line :: code.lines }) rest
  | none, line :: rest =>
    match fence.isPrefixOf? line with
    | some language => gather (number + 1) depth (some ⟨number, language, []⟩) rest
    | none =>
      if allBlank line then gather (number + 1) depth none rest
      else
        match header? line with
        | some (level, name) => do
          if depth + 1 < level then throw ⟨.levelJump level depth, ⟨number, 1⟩⟩
          if level = 1 then throw ⟨.secondRoot, ⟨number, 1⟩⟩
          let items ← gather (number + 1) level none rest
          return .header (headerAt number level name line) :: items
        | none =>
          if line.head? = some '\t' then
            consValue number line <$> gather (number + 1) depth none rest
          else if line.head?.any isBlank then throw ⟨.strayIndentation, ⟨number, 1⟩⟩
          else consText number line <$> gather (number + 1) depth none rest

variable {U : Type}

def blockOf (line : Nat) (lines : List Line) : Block :=
  ⟨⟨line, lines.length⟩, String.ofList (unlines lines)⟩

/-- The lines of a value block with their numbers, each without the tab that makes it one. -/
def numbered (line : Nat) (lines : List Line) : List NumberedLine :=
  lines.zipIdx.map fun (text, i) => ⟨line + i, (unindent? text).getD text⟩

/-- The value of a value block. It keeps its lines as they are. -/
def readValue (line : Nat) (lines : List Line) : Except SyntaxError (ValueTree U) :=
  match numbered line lines with
  | [] => .error ⟨.missingValue, ⟨line, 1⟩⟩
  | first :: more => do
    let tree ← ValueTree.read ⟨first, more⟩
    return tree.withBlock ⟨tree.block.span, String.ofList (unlines lines)⟩

/-- A header, or a child that is complete. -/
inductive Entry (U : Type) where
  | header (h : Header)
  | leaf (node : Node U)

/-- An item with its value read. -/
def Entry.ofItem : Item → Except SyntaxError (Entry U)
  | .header h => .ok (.header h)
  | .text line lines => .ok (.leaf (.text (blockOf line lines)))
  | .code line language lines =>
    .ok (.leaf (.code (String.ofList language)
      ⟨⟨line, lines.length + 2⟩, String.ofList (unlines lines)⟩))
  | .value line lines => do return .leaf (.value (← readValue line lines))

/-- Whether a child belongs to a section of a level that it follows: all but the sections that are
not deeper. -/
def belongsBelow (level : Nat) : Node U → Bool
  | .subsection header _ => level < header.level
  | _ => true

/-- The children that entries make up: each header takes in what belongs below it. -/
def nest (entries : List (Entry U)) : List (Node U) :=
  entries.foldr (fun entry nodes =>
    match entry with
    | .leaf node => node :: nodes
    | .header h =>
      let (children, others) := nodes.span (belongsBelow h.level)
      .subsection h children :: others) []

def ofLines : List Line → Except SyntaxError (Section U)
  | [] => .error ⟨.emptyDocument, ⟨1, 1⟩⟩
  | first :: rest =>
    match header? first with
    | some (1, name) => do
      let items ← gather 2 1 none rest
      let entries ← items.mapM Entry.ofItem
      return ⟨headerAt 1 1 name first, nest entries⟩
    | _ => .error ⟨.noRootHeader, ⟨1, 1⟩⟩

def parse (source : String) : Except SyntaxError (Section U) :=
  if source = "" then .error ⟨.emptyDocument, ⟨1, 1⟩⟩ else ofLines (lines source.toList)

end Document

end DataOutline
