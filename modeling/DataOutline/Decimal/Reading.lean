import DataOutline.Decimal.Exact
import DataOutline.Text.Letter

/-!
# Numbers from text

Two readers: one for decimal numbers with an optional fraction and exponent, whose value is the
nearest float, and one for the indices of arrays, which are below `2 ^ 64`.
-/

namespace DataOutline.Decimal

open Text (isDigit digitsValue)

/-- The float nearest to `mantissa * 10 ^ exponent`. A number that has more than 400 places before
the point is infinite and one that has 400 zeros behind it is zero, so no power beyond that is
worked out: a mantissa is below `10 ^ (log2 mantissa + 1)`. -/
def ofDecimal (mantissa : Nat) (exponent : Int) : Float :=
  if mantissa = 0 then (Exact.finite false 0 0).toFloat
  else if 400 < exponent then (Exact.infinite false).toFloat
  else if exponent + mantissa.log2 < -400 then (Exact.finite false 0 0).toFloat
  else Float.ofScientific mantissa (exponent < 0) exponent.natAbs

/-- A sign at the start of a text, read as "is negative", and the rest. -/
def splitSign : List Char → Bool × List Char
  | '-' :: rest => (true, rest)
  | '+' :: rest => (false, rest)
  | cs => (false, cs)

/-- An exponent part such as `e-7` that takes up the whole text; no text is the exponent zero. -/
def exponent? : List Char → Option Int
  | [] => some 0
  | c :: rest =>
    if c = 'e' ∨ c = 'E' then
      let (negative, digits) := splitSign rest
      if !digits.isEmpty && digits.all isDigit then some (signed negative (digitsValue digits))
      else none
    else none

/-- A decimal number without a sign: digits with a point anywhere among them or beside them, and an
exponent. There is at least one digit before the exponent. -/
def unsigned? (cs : List Char) : Option Float :=
  let whole := cs.takeWhile isDigit
  let afterWhole := cs.dropWhile isDigit
  let (fractional, afterFraction) := match afterWhole with
    | '.' :: rest => (rest.takeWhile isDigit, rest.dropWhile isDigit)
    | rest => ([], rest)
  if whole.isEmpty && fractional.isEmpty then none
  else (exponent? afterFraction).map fun e =>
    ofDecimal (digitsValue (whole ++ fractional)) (e - fractional.length)

/-- A number with an optional sign. The words for infinity and not-a-number are read in either
case. -/
def number? (cs : List Char) : Option Float :=
  let (negative, rest) := splitSign cs
  let word := String.ofList (rest.map Char.toLower)
  let magnitude :=
    if word = "inf" ∨ word = "infinity" then some (Exact.infinite false).toFloat
    else if word = "nan" then some Exact.notANumber.toFloat
    else unsigned? rest
  magnitude.map fun x => if negative then -x else x

/-- Indices are below this bound. -/
def indexBound : Nat := 18446744073709551616

/-- An index written in digits. Leading zeros count for nothing. -/
def digitsIndex? (cs : List Char) : Option Nat :=
  if !cs.isEmpty && cs.all isDigit && digitsValue cs < indexBound then some (digitsValue cs)
  else none

/-- An index in digits that may have a plus sign in front. -/
def index? : List Char → Option Nat
  | '+' :: digits => digitsIndex? digits
  | digits => digitsIndex? digits

end DataOutline.Decimal
