import DataOutline.Text.DisplayTable
import DataOutline.Text.Letter

/-!
# Characters on a terminal

How many columns a character takes, and whether a quoted text shows it as it is.
-/

namespace DataOutline.Text

/-- The number of columns that a character takes: none, one or two, and of the Khmer letters two for
the vowel qaa and three for the sign beyyal. -/
def columns (c : Char) : Nat :=
  let n := c.toNat
  if n < 0x7F then (if n < 0x20 then 0 else 1)
  else if n = 0x17A4 then 2
  else if n = 0x17D8 then 3
  else if withinBounds DisplayTable.narrow n then 0
  else if withinBounds DisplayTable.wide n then 2
  else 1

/-- Whether a quoted text shows a character as it is, and not by its code point. -/
def isShown (c : Char) : Bool :=
  let n := c.toNat
  if n < 0x7F then 0x20 ≤ n else !withinBounds DisplayTable.hidden n

end DataOutline.Text
