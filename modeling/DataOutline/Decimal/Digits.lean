import DataOutline.Decimal.Exact

/-!
# The fewest digits that read back

A decimal reads back to a number when it lies in the interval of the reals that round to it. The
digits of a number are those of the decimal with the fewest of them in that interval, and of several
such decimals the one nearest to the number.
-/

namespace DataOutline.Decimal

structure Scaled where
  digits : Nat
  exponent : Int
deriving DecidableEq, Repr

/-- Where a value goes that lies halfway between two decimals. -/
inductive Tie where
  | toEven
  | up
deriving DecidableEq, Repr

/-- The order of `a * 10 ^ i` and `n * 2 ^ j`. -/
def compareScaled (a : Nat) (i : Int) (n : Nat) (j : Int) : Ordering :=
  compare (a * Nat.pow 10 i.toNat * Nat.pow 2 (-j).toNat)
    (n * Nat.pow 2 j.toNat * Nat.pow 10 (-i).toNat)

/-- Whether a decimal rounds to the positive float `mantissa * 2 ^ exponent`. The interval goes
halfway to the neighbours on both sides, with its ends when the mantissa is even. The gap below the
least mantissa of an exponent is half as wide, except at the smallest exponent. -/
def readsBack (mantissa : Nat) (exponent : Int) (d : Scaled) : Bool :=
  let narrow := mantissa == Nat.pow 2 52 && exponent != -1074
  let low := if narrow then 4 * mantissa - 1 else 4 * mantissa - 2
  let high := 4 * mantissa + 2
  let closed := mantissa % 2 == 0
  let atLow := compareScaled d.digits d.exponent low (exponent - 2)
  let atHigh := compareScaled d.digits d.exponent high (exponent - 2)
  (atLow == .gt || (closed && atLow == .eq)) && (atHigh == .lt || (closed && atHigh == .eq))

/-- The number of decimal digits of a natural number; zero has one. -/
def digitCount (n : Nat) : Nat := (Nat.toDigits 10 n).length

/-- The least `k` for which `mantissa * 2 ^ exponent < 10 ^ k`. -/
def scale (mantissa : Nat) (exponent : Int) : Int :=
  let (num, den) := fraction mantissa exponent
  if den ≤ num then digitCount (num / den)
  else 1 - (digitCount ((den - 1) / num) : Int)

/-- The two neighbours of `mantissa * 2 ^ exponent` among the multiples of `10 ^ grid`, and the
order of the value and the middle between them. -/
def neighbours (mantissa : Nat) (exponent grid : Int) : Nat × Nat × Ordering :=
  let (num, den) := fraction mantissa exponent
  let num := num * Nat.pow 10 (-grid).toNat
  let den := den * Nat.pow 10 grid.toNat
  let below := num / den
  (below, below + 1, compare (2 * (num % den)) den)

/-- The decimal on one grid that reads back and is nearest to the value, if one does. -/
def onGrid (tie : Tie) (mantissa : Nat) (exponent grid : Int) : Option Scaled :=
  let (below, above, middle) := neighbours mantissa exponent grid
  let fits := fun n => n != 0 && readsBack mantissa exponent ⟨n, grid⟩
  match fits below, fits above with
  | true, true =>
    let upper := match middle, tie with
      | .lt, _ => false
      | .gt, _ => true
      | .eq, .up => true
      | .eq, .toEven => below % 2 == 1
    some ⟨if upper then above else below, grid⟩
  | true, false => some ⟨below, grid⟩
  | false, true => some ⟨above, grid⟩
  | false, false => none

/-- A decimal without the zeros at the end of its digits. At most `fuel` zeros are dropped. -/
def Scaled.strip : Nat → Scaled → Scaled
  | 0, d => d
  | fuel + 1, d =>
    if d.digits ≠ 0 ∧ d.digits % 10 = 0 then strip fuel ⟨d.digits / 10, d.exponent + 1⟩ else d

/-- The shortest decimal that reads back to the positive float `mantissa * 2 ^ exponent`. Seventeen
digits always suffice; the value itself, written out, stands behind them. -/
def shortest (tie : Tie) (mantissa : Nat) (exponent : Int) : Scaled :=
  let k := scale mantissa exponent
  let found := (List.range 17).findSome? fun (n : Nat) =>
    onGrid tie mantissa exponent (k - ((n : Int) + 1))
  match found with
  | some d => d.strip 20
  | none =>
    let (num, _) := fraction mantissa exponent
    ⟨num * Nat.pow 5 (-exponent).toNat, min exponent 0⟩

end DataOutline.Decimal
