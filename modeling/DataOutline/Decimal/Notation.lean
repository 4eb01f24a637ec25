import DataOutline.Decimal.Digits

/-!
# Numbers as text

How the digits of a number are set out: where positional notation ends, how an integral value
looks, how an exponent is written, and what stands for the values that have no digits. Each format
is one `Style`; the two of the library are `plain` and `json`.
-/

namespace DataOutline.Decimal

/-- The decisions of a number format. -/
structure Style where
  /-- Whether a value whose first digit counts `10 ^ e` is written without an exponent. -/
  positional : Int → Bool
  /-- Whether an integral value in positional notation ends in `.0`. -/
  pointZero : Bool
  /-- Which of two nearest decimals of the same length is taken. -/
  tie : Tie
  notANumber : String
  infinity : String
  negativeInfinity : String

/-- Numbers in messages and in texts: never an exponent, no point on integral values. -/
def plain : Style where
  positional _ := true
  pointZero := false
  tie := .up
  notANumber := "NaN"
  infinity := "inf"
  negativeInfinity := "-inf"

/-- Numbers in JSON that are not written as integers. JSON has no infinities. -/
def json : Style where
  positional e := decide (-5 ≤ e ∧ e < 16)
  pointZero := true
  tie := .toEven
  notANumber := "null"
  infinity := "null"
  negativeInfinity := "null"

/-- Digits with the point set, for the decimal `digits * 10 ^ exponent`. -/
def positionalText (pointZero : Bool) (d : Scaled) : List Char :=
  let digits := Nat.toDigits 10 d.digits
  if 0 ≤ d.exponent then
    digits ++ List.replicate d.exponent.toNat '0' ++ (if pointZero then ['.', '0'] else [])
  else
    let places := (-d.exponent).toNat
    let padded := List.replicate (places + 1 - digits.length) '0' ++ digits
    padded.take (padded.length - places) ++ '.' :: padded.drop (padded.length - places)

/-- One digit, the others behind a point, and the exponent with its sign. -/
def exponentText (d : Scaled) : List Char :=
  let digits := Nat.toDigits 10 d.digits
  let e := d.exponent + digits.length - 1
  let fractional := match digits.drop 1 with
    | [] => []
    | rest => '.' :: rest
  digits.take 1 ++ fractional ++ 'e' :: (if e < 0 then '-' else '+') :: Nat.toDigits 10 e.natAbs

/-- The text of a positive or zero value. -/
def Style.magnitude (style : Style) (mantissa : Nat) (exponent : Int) : List Char :=
  let d := if mantissa = 0 then ⟨0, 0⟩ else shortest style.tie mantissa exponent
  if style.positional (d.exponent + digitCount d.digits - 1) then positionalText style.pointZero d
  else exponentText d

/-- The text of a number. A zero keeps its sign. -/
def Style.text (style : Style) (x : Float) : String :=
  match Exact.ofFloat x with
  | .notANumber => style.notANumber
  | .infinite negative => if negative then style.negativeInfinity else style.infinity
  | .finite negative mantissa exponent =>
    String.ofList ((if negative then ['-'] else []) ++ style.magnitude mantissa exponent)

/-- The quotient of two natural numbers, rounded to the nearest integer, a half to the even one. -/
def roundDiv (num den : Nat) : Nat :=
  match compare (2 * (num % den)) den with
  | .lt => num / den
  | .gt => num / den + 1
  | .eq => num / den + num / den % 2

/-- The text of a number with a fixed number of places. The exact value is rounded, a half to the
even neighbour; the sign stays also when all digits become zero. -/
def fixedText (places : Nat) (x : Float) : String :=
  match Exact.ofFloat x with
  | .notANumber => plain.notANumber
  | .infinite negative => if negative then plain.negativeInfinity else plain.infinity
  | .finite negative mantissa exponent =>
    let (num, den) := fraction mantissa exponent
    let units := roundDiv (num * Nat.pow 10 places) den
    let digits := positionalText false ⟨units, -(places : Int)⟩
    String.ofList ((if negative then ['-'] else []) ++ digits)

end DataOutline.Decimal
