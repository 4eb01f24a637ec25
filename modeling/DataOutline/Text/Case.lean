import DataOutline.Text.CaseTable
import DataOutline.Text.Letter

/-!
# Upper and lower case

The full case mappings: one character may become several. The only mapping that looks at its
surroundings is that of the capital sigma, which ends a word in another form than it takes inside.
-/

namespace DataOutline.Text

/-- The code point that a table of ranges gives for a code point. -/
def CaseRange.apply (ranges : Array CaseRange) (n : Nat) : Option Nat :=
  (ranges.find? fun r => r.first ≤ n && n ≤ r.last && (n - r.first) % r.step == 0).map fun r =>
    ((n : Int) + r.shift).toNat

private def otherCase (ranges : Array CaseRange) (long : Array (Nat × List Nat)) (c : Char) :
    List Char :=
  match long.find? (·.1 == c.toNat) with
  | some (_, ns) => ns.map Char.ofNat
  | none =>
    match CaseRange.apply ranges c.toNat with
    | some n => [Char.ofNat n]
    | none => [c]

def upperOf (c : Char) : List Char := otherCase CaseTable.upper CaseTable.upperLong c

/-- The lower case of a character, wherever it stands. -/
def lowerOf (c : Char) : List Char := otherCase CaseTable.lower CaseTable.lowerLong c

def toUpper (cs : List Char) : List Char := cs.flatMap upperOf

/-- Whether the first character that is not ignorable for case is a cased one. -/
def casedNext (cs : List Char) : Bool :=
  match cs.dropWhile (fun c => withinBounds CaseTable.caseIgnorable c.toNat) with
  | [] => false
  | c :: _ => withinBounds CaseTable.cased c.toNat

/-- A text in lower case, given the characters before it, the nearest first. A capital sigma takes
its final form when it follows a cased character and none follows it. -/
def toLowerAfter (before : List Char) : List Char → List Char
  | [] => []
  | 'Σ' :: rest =>
    (if casedNext before && !casedNext rest then 'ς' else 'σ') :: toLowerAfter ('Σ' :: before) rest
  | c :: rest => lowerOf c ++ toLowerAfter (c :: before) rest

def toLower (cs : List Char) : List Char := toLowerAfter [] cs

end DataOutline.Text
