/-!
# The exact value of a number

A number of the data model is a binary64 float. All decisions about its text, its integer part and
its remainders are taken on its exact value, a mantissa times a power of two, in the arithmetic of
natural numbers and integers; floats are only ever added, multiplied, divided and compared.
-/

namespace DataOutline.Decimal

/-- What a number stands for: nothing, an infinity, or `± mantissa * 2 ^ exponent`. The mantissa
of a finite number is in the form that the float stores, so zero has the mantissa `0`. -/
inductive Exact where
  | notANumber
  | infinite (negative : Bool)
  | finite (negative : Bool) (mantissa : Nat) (exponent : Int)
deriving DecidableEq, Repr

/-- A sign, read as "is negative". -/
def isNegative : Float.Model.UnpackedFloat.Sign → Bool
  | .positive => false
  | .negative => true

/-- The sign that is negative exactly when asked for. -/
def signOf (negative : Bool) : Float.Model.UnpackedFloat.Sign :=
  if negative then .negative else .positive

def Exact.ofFloat (x : Float) : Exact :=
  match x.toModel.unpack with
  | .notANumber => .notANumber
  | .infinity s => .infinite (isNegative s)
  | .zero s => .finite (isNegative s) 0 0
  | .finite s m e _ => .finite (isNegative s) m e

/-- The float nearest to an exact value, the even one of two. -/
def Exact.toFloat : Exact → Float
  | .notANumber => .ofModel (.pack .notANumber)
  | .infinite negative => .ofModel (.pack (.infinity (signOf negative)))
  | .finite negative mantissa exponent =>
    if mantissa = 0 then .ofModel (.pack (.zero (signOf negative)))
    else .ofModel (.pack (.round .binary64 (signOf negative) mantissa exponent))

def signed (negative : Bool) (n : Nat) : Int := if negative then -(n : Int) else n

/-- The numerator and the denominator of `mantissa * 2 ^ exponent`. -/
def fraction (mantissa : Nat) (exponent : Int) : Nat × Nat :=
  (mantissa * Nat.pow 2 exponent.toNat, Nat.pow 2 (-exponent).toNat)

theorem fraction_snd_pos (mantissa : Nat) (exponent : Int) : 0 < (fraction mantissa exponent).2 :=
  Nat.pow_pos (by decide)

/-- The integer that a number is, if it is one. Both zeros are the integer `0`. -/
def Exact.integer? : Exact → Option Int
  | .finite negative mantissa exponent =>
    let (num, den) := fraction mantissa exponent
    if num % den = 0 then some (signed negative (num / den)) else none
  | _ => none

/-- The integer part of a finite number: its fraction is cut off, toward zero. -/
def Exact.truncate? : Exact → Option Int
  | .finite negative mantissa exponent =>
    let (num, den) := fraction mantissa exponent
    some (signed negative (num / den))
  | _ => none

/-- The integer part of a number, moved into `low` to `high`; not-a-number becomes `0`. -/
def Exact.clamp (low high : Int) : Exact → Int
  | .notANumber => 0
  | .infinite negative => if negative then low else high
  | x@(.finite ..) => max low (min high (x.truncate?.getD 0))

/-- The remainder of a division that truncates toward zero: it has the sign of the dividend, and it
is exact. It is not a number if the dividend is infinite or one of the two is not a number; a
finite number leaves itself when divided by an infinity. Division by zero is not asked for. -/
def Exact.remainder : Exact → Exact → Exact
  | .finite negative m e, .finite _ n f =>
    let low := min e f
    .finite negative ((m * Nat.pow 2 (e - low).toNat) % (n * Nat.pow 2 (f - low).toNat)) low
  | x@(.finite ..), .infinite _ => x
  | _, _ => .notANumber

/-- The remainder of two floats, with the sign of the dividend. -/
def remainder (a b : Float) : Float := ((Exact.ofFloat a).remainder (Exact.ofFloat b)).toFloat

end DataOutline.Decimal
