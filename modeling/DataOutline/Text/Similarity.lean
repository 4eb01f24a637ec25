/-!
# Similarity of words

The Jaro similarity of two words. It is the mean of three shares: of the characters of the first
word that the second one has at about the same position, of those of the second word that the first
one has, and of the shared characters that stand in the same order in both. It is kept as a
fraction, so that similarities are compared exactly.
-/

namespace DataOutline.Text

/-- The characters of a word from position `i` on that are shared with the word `other`, and the
positions in `other` that are taken. Each takes the first position that is free, holds the same
character and is at most `range` away. -/
def sharedWith (other : List Char) (range i : Nat) (taken : List Nat) :
    List Char → List Char × List Nat
  | [] => ([], taken)
  | c :: cs =>
    match other.zipIdx.find? fun (d, j) =>
        d == c && i ≤ j + range && j ≤ i + range && !taken.contains j with
    | some (_, j) =>
      let (shared, taken) := sharedWith other range (i + 1) (j :: taken) cs
      (c :: shared, taken)
    | none => sharedWith other range (i + 1) taken cs

/-- The similarity of two words, as a numerator and a denominator: zero if they share nothing, one
if they are the same. -/
def similarity (a b : List Char) : Nat × Nat :=
  let range := max a.length b.length / 2 - 1
  let (shared, taken) := sharedWith b range 0 [] a
  let inOrder := (b.zipIdx.filter fun (_, j) => taken.contains j).map Prod.fst
  let displaced := ((shared.zip inOrder).countP fun (c, d) => c != d) / 2
  let n := shared.length
  if a.isEmpty && b.isEmpty then (1, 1)
  else if n = 0 then (0, 1)
  else
    (n * n * (a.length + b.length) + (n - displaced) * a.length * b.length,
      3 * n * a.length * b.length)

def fractionLe (x y : Nat × Nat) : Bool := x.1 * y.2 ≤ y.1 * x.2

/-- The similarity that words must exceed to be taken for each other. -/
def likeness : Nat × Nat := (7, 10)

/-- The words that a word may be meant for, the most similar last, and of two that are equally
similar the later one. -/
def similarTo (word : String) (candidates : List String) : List String :=
  let rated := candidates.map fun candidate => (similarity word.toList candidate.toList, candidate)
  let alike := rated.filter fun (x, _) => !fractionLe x likeness
  (alike.mergeSort fun (x, _) (y, _) => fractionLe x y).map Prod.snd

end DataOutline.Text
