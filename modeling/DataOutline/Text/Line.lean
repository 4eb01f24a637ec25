/-!
# Lines of a text

A text is cut at its line feeds, and one carriage return at the end of a line belongs to the line
break, not to the line. A line may be indented by tabs; one tab is one level.
-/

namespace DataOutline.Text

/-- The characters of one line, without its line break. -/
abbrev Line := List Char

/-- A line without the carriage return that belongs to its line break. Only one is dropped. -/
def withoutReturn (line : Line) : Line :=
  if line.getLast? = some '\r' then line.dropLast else line

/-- The pieces of a text between line feeds, carriage returns kept. -/
def rawLines (text : List Char) : List Line := text.splitOn '\n'

/-- The lines of a text. The empty text has one line, which is empty. -/
def lines (text : List Char) : List Line := (rawLines text).map withoutReturn

def unlines (ls : List Line) : List Char := ['\n'].intercalate ls

/-- A line without its first tab, if it starts with one. -/
def unindent? : Line → Option Line
  | '\t' :: rest => some rest
  | _ => none

def byteSize (cs : List Char) : Nat := cs.foldr (fun c n => c.utf8Size + n) 0

theorem byteSize_append (cs ds : List Char) : byteSize (cs ++ ds) = byteSize cs + byteSize ds := by
  induction cs with
  | nil => exact (Nat.zero_add _).symm
  | cons c cs ih =>
    show c.utf8Size + byteSize (cs ++ ds) = c.utf8Size + byteSize cs + byteSize ds
    rw [ih, Nat.add_assoc]

end DataOutline.Text
