import DataOutline.Text.LetterTable

/-!
# Letters, digits and names

Below U+0080 the letters and digits are decided by comparison; above, by the tables of bounds. A
code point belongs to a property when an odd number of the property's bounds are at or below it.
-/

namespace DataOutline.Text

/-- Whether a code point lies in the set given by its bounds. -/
def withinBounds (bounds : Array Nat) (n : Nat) : Bool :=
  bounds.foldl (fun inside bound => if bound ≤ n then !inside else inside) false

/-- The letters `A` to `Z` and `a` to `z`. -/
def isAsciiLetter (c : Char) : Bool := c.isAlpha

def isDigit (c : Char) : Bool := c.isDigit

def digitValue (c : Char) : Nat := c.toNat - '0'.toNat

/-- The number that digits stand for, the first one the highest. -/
def digitsValue (cs : List Char) : Nat := cs.foldl (fun n c => 10 * n + digitValue c) 0

/-- The characters of the Unicode property `Alphabetic`. -/
def isAlphabetic (c : Char) : Bool :=
  if c.toNat < 0x80 then isAsciiLetter c else withinBounds LetterTable.alphabetic c.toNat

/-- The alphabetic characters and the numbers of every kind. -/
def isAlphanumeric (c : Char) : Bool :=
  if c.toNat < 0x80 then isAsciiLetter c || isDigit c
  else withinBounds LetterTable.alphabetic c.toNat || withinBounds LetterTable.numeric c.toNat

/-- The characters of bare keys and of the parts of a dotted path: ASCII letters and digits, the
underscore and the dollar sign. -/
def isWordChar (c : Char) : Bool := isAsciiLetter c || isDigit c || c == '_' || c == '$'

def isIdentifierStart (c : Char) : Bool := isAlphabetic c || c == '_' || c == '$'

def isIdentifierPart (c : Char) : Bool := isAlphanumeric c || c == '_' || c == '$'

end DataOutline.Text
