import DataOutline.Document.Fault
import DataOutline.Text.Display

/-!
# Drawn reports

A syntax error as a drawing: its message, the place of its lines, the lines themselves beside their
numbers, and a mark at those that are meant. One line is underlined with carets. Several lines are
held together by a bracket at their left, whose lower end points to the last character; of more than
seven lines, those in the middle are left out.
-/

namespace DataOutline.Report

open Text

/-- Where a tab goes: to the next multiple of this many columns. -/
def tabStop : Nat := 4

/-- The columns of a character that stands at a column. -/
def width (column : Nat) (c : Char) : Nat :=
  if c = '\t' then tabStop - column % tabStop else columns c

/-- The column behind a text that begins at a column. -/
def endColumn (column : Nat) (line : Line) : Nat :=
  line.foldl (fun column c => column + width column c) column

/-- A line as it is drawn from a column on: tabs become spaces. -/
def expandTabs (column : Nat) : Line → List Char
  | [] => []
  | c :: cs =>
    (if c = '\t' then List.replicate (width column c) ' ' else [c]) ++
      expandTabs (column + width column c) cs

/-- The part of a line that is drawn: not the carriage returns and null characters at its end. -/
def drawnPart (line : Line) : Line :=
  (line.reverse.dropWhile fun c => c == '\r' || c == '\x00').reverse

/-- The start of a row: a line number or nothing, in a gutter of a width. -/
def gutter (size : Nat) (number : List Char) : List Char :=
  List.replicate (size - number.length) ' ' ++ number ++ [' ']

def row (size : Nat) (number : List Char) (rest : List Char) : List Char :=
  gutter size number ++ '│' :: rest

/-- The carets under a line. There is at least one; one more stands behind the drawn part if the
line goes on there. -/
def carets (line : Line) : List Char :=
  let drawn := drawnPart line
  let beyond := byteSize drawn < max (byteSize (withoutReturn line)) 1
  List.replicate (endColumn 0 drawn + if beyond then 1 else 0) '^'

/-- The rows of a single line. -/
def singleRows (size number : Nat) (line : Line) : List (List Char) :=
  [row size [] [],
    row size (Nat.toDigits 10 number) (' ' :: expandTabs 0 (drawnPart line)),
    row size [] (' ' :: carets line)]

/-- The row of one of several lines, with its piece of the bracket. -/
def bracketRow (size number : Nat) (piece : Char) (line : Line) : List Char :=
  row size (Nat.toDigits 10 number) (' ' :: piece :: ' ' :: expandTabs 0 (drawnPart line))

/-- The row that stands for the lines that are left out. -/
def gap (size : Nat) : List Char := gutter size [] ++ ['·', ' ', '│']

/-- How many lines are drawn at most without a gap, before a gap, and after a gap. -/
def extent : Nat × Nat × Nat := (7, 4, 2)

/-- Rows without those in the middle, if there are too many. -/
def elide (size : Nat) (rows : List (List Char)) : List (List Char) :=
  let (all, before, after) := extent
  if rows.length ≤ all then rows
  else rows.take before ++ gap size :: rows.drop (rows.length - after)

/-- The rows of several lines, the first of which has a number. -/
def bracketRows (size number : Nat) (first : Line) (more : List Line) : List (List Char) :=
  let last := more.getLast?.getD first
  let below := more.zipIdx.map fun (line, i) => bracketRow size (number + 1 + i) '│' line
  let corner := ' ' :: '╰' :: (List.replicate (endColumn 0 (drawnPart last)) '─' ++ ['^'])
  row size [] [' ', ' '] :: elide size (bracketRow size number '╭' first :: below) ++
    [row size [] corner]

def noteRows (size : Nat) (notes : List String) : List (List Char) :=
  if notes.isEmpty then []
  else row size [] [] :: notes.map fun note => gutter size [] ++ '=' :: ' ' :: note.toList

def draw (name source : String) (e : SyntaxError) : String :=
  let all := rawLines source.toList
  let lines := (all.drop (e.span.line - 1)).take e.span.size
  let size := (Nat.toDigits 10 (e.span.line + lines.length - 1)).length
  let place := gutter size [] ++ '┌' :: '─' :: ' ' ::
    (name ++ ":" ++ toString e.span.line ++ ":1").toList
  let body := match lines with
    | [] => []
    | [line] => singleRows size e.span.line line
    | first :: more => bracketRows size e.span.line first more
  let rows := ("error: " ++ e.fault.message).toList :: place :: body ++
    noteRows size e.fault.notes ++ [[]]
  String.ofList (rows.flatMap (· ++ ['\n']))

end DataOutline.Report
