/-!
# Random draws

Randomness is an endless sequence of words, fixed before a run begins, and the number of words taken
from it so far. Everything that is drawn takes one word, so a run is a function of its sequence, and
what holds for all sequences holds whatever is drawn.
-/

namespace DataOutline

/-- A sequence of random words, and how many of them are used up. -/
structure Draws where
  word : Nat → UInt64
  taken : Nat := 0
  /-- Whether something was to be drawn from an empty range. There is no such draw, and no going on
  after it. -/
  spoiled : Bool := false

namespace Draws

def next (d : Draws) : UInt64 × Draws := (d.word d.taken, { d with taken := d.taken + 1 })

/-- A number from zero up to one, which is not reached. -/
def unit (d : Draws) : Float × Draws :=
  let (w, d) := d.next
  ((w >>> 11).toFloat / 9007199254740992.0, d)

/-- A natural number below a bound. Below zero there is none, and asking for one spoils the
draws. -/
def below (bound : Nat) (d : Draws) : Nat × Draws :=
  let (w, d) := d.next
  (w.toNat % bound, { d with spoiled := d.spoiled || bound == 0 })

def coin (d : Draws) : Bool × Draws :=
  let (n, d) := d.below 2
  (n = 1, d)

/-- Characters of an alphabet, each drawn on its own, in front of those that are there already. -/
def characters (alphabet : Array Char) : Nat → List Char → Draws → List Char × Draws
  | 0, drawn, d => (drawn, d)
  | n + 1, drawn, d =>
    let (i, d) := d.below alphabet.size
    characters alphabet n ((alphabet[i]?).getD '?' :: drawn) d

/-- A well-mixed sequence that a seed determines. -/
def ofSeed (seed : UInt64) : Draws where
  word n :=
    let z := seed + 0x9E3779B97F4A7C15 * (n + 1).toUInt64
    let z := (z ^^^ (z >>> 30)) * 0xBF58476D1CE4E5B9
    let z := (z ^^^ (z >>> 27)) * 0x94D049BB133111EB
    z ^^^ (z >>> 31)

end Draws

end DataOutline
