import DataOutline.Document.Basic
import DataOutline.Text.Line

/-!
# Excerpts of a source

Errors point at lines. An excerpt shows these lines with two more before and after them, as far as
the source has them, and marks the lines that are meant. The byte range of some lines starts at the
first character of the first and ends before the line break of the last.
-/

namespace DataOutline.Excerpt

open Text

/-- The number of lines shown before and after those that are meant. -/
def margin : Nat := 2

/-- A line of an excerpt with its number and its mark. -/
def row (span : Span) (number : Nat) (line : Line) : List Char :=
  let marked := span.line ≤ number ∧ number < span.line + span.size
  ' ' :: Nat.toDigits 10 number ++ ' ' :: (if marked then ['>', '>'] else [' ', ' ']) ++
    ' ' :: '|' :: ' ' :: line

/-- The excerpt around some lines of a source. Lines are counted from one, and at least one line is
meant. -/
def render (source : String) (span : Span) : String :=
  let meant : Span := ⟨max span.line 1, max span.size 1⟩
  let all := lines source.toList
  let first := max (meant.line - margin) 1
  let last := min (meant.line + meant.size - 1 + margin) all.length
  let shown := (all.drop (first - 1)).take (last + 1 - first)
  String.ofList (unlines (shown.zipIdx.map fun (line, i) => row meant (first + i) line))

/-- The number of bytes of some pieces of a text and of the line feeds behind them, which is the
number of bytes before the next piece. -/
def offset (pieces : List Line) : Nat := pieces.foldr (fun piece n => byteSize piece + 1 + n) 0

/-- Line numbers are words: behind the greatest comes zero. -/
def wordBound : Nat := 18446744073709551616

/-- The number of the last of some lines, of which there is at least one. -/
def lastLine (span : Span) : Nat := (span.line + max span.size 1 - 1) % wordBound

/-- The range of bytes that some lines of a source take, from the start of the first to the end of
the last without its line break. A line that the source does not have stands at its end. -/
def byteRange (source : String) (span : Span) : Nat × Nat :=
  let pieces := rawLines source.toList
  let total := byteSize source.toList
  let last := lastLine span
  let start :=
    if 1 ≤ span.line ∧ span.line ≤ pieces.length then offset (pieces.take (span.line - 1))
    else total
  let stop :=
    if 1 ≤ last ∧ last ≤ pieces.length then
      offset (pieces.take (last - 1)) + byteSize (withoutReturn ((pieces[last - 1]?).getD []))
    else total
  (min start stop, stop)

end DataOutline.Excerpt
