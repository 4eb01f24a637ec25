import DataOutline.Calendar.Instant
import DataOutline.Decimal.Reading
import DataOutline.Toml.Fault
import DataOutline.Value.Basic

/-!
# Scalars of TOML

Truth values, numbers and times. Numbers may have single underscores between their digits, and
integers have sixty-four bits. A time is kept as a text: it is brought into one form, with a `T`
between date and time of day and without zeros at the end of a fraction. What begins like a number
is read as a time if it can be, or else as a float, or else as an integer.
-/

namespace DataOutline.Toml

open Text (isDigit digitsValue)

/-! ## Digits -/

def digitName : List String := ["digit"]

/-- The digits behind a digit, with single underscores before some of them, and the rest. -/
def moreDigits (isDigit : Char → Bool) : List Char → Except Stop (List Char × List Char)
  | '_' :: [] => stop [] none digitName
  | '_' :: d :: rest =>
    if isDigit d then do
      let (ds, rest) ← moreDigits isDigit rest
      return (d :: ds, rest)
    else stop (d :: rest) none digitName
  | d :: rest =>
    if isDigit d then do
      let (ds, rest) ← moreDigits isDigit rest
      return (d :: ds, rest)
    else .ok ([], d :: rest)
  | [] => .ok ([], [])

/-- Digits of which there is at least one, and the rest. -/
def someDigits (isDigit : Char → Bool) (expected : List String) :
    List Char → Except Stop (List Char × List Char)
  | d :: rest =>
    if isDigit d then do
      let (ds, rest) ← moreDigits isDigit rest
      return (d :: ds, rest)
    else stop (d :: rest) none expected
  | [] => stop [] none expected

/-! ## Numbers -/

/-- The sign and the digits of a decimal number before its point, and the rest. There is no digit
behind a zero in front. -/
def wholePart (cs : List Char) : Except Stop ((Bool × List Char) × List Char) :=
  let (negative, unsigned) := Decimal.splitSign cs
  inside .integer <|
    match unsigned with
    | '0' :: rest => .ok ((negative, ['0']), rest)
    | d :: rest =>
      if isDigit d then do
        let (ds, rest) ← moreDigits isDigit rest
        return ((negative, d :: ds), rest)
      else mismatch (d :: rest) none []
    | [] => mismatch [] none []

def exponentPart (cs : List Char) : Except Stop (Int × List Char) := do
  let (negative, unsigned) := Decimal.splitSign cs
  let (ds, rest) ← someDigits isDigit [] unsigned
  return (Decimal.signed negative (digitsValue ds), rest)

/-- An exponent if there is one, and the rest. -/
def exponent (cs : List Char) : Except Stop (Int × List Char) :=
  match cs with
  | c :: rest => if c = 'e' ∨ c = 'E' then exponentPart rest else .ok (0, cs)
  | [] => .ok (0, [])

/-- The words for infinity and not-a-number, and the rest. -/
def specialFloat (cs : List Char) : Except Stop (Float × List Char) :=
  let (negative, unsigned) := Decimal.splitSign cs
  let signed := fun (x : Float) => if negative then -x else x
  match unsigned with
  | 'i' :: 'n' :: 'f' :: rest => .ok (signed (Decimal.Exact.infinite false).toFloat, rest)
  | 'n' :: 'a' :: 'n' :: rest => .ok (signed Decimal.Exact.notANumber.toFloat, rest)
  | rest => mismatch rest none []

/-- A number with a fraction or an exponent, and the rest. It may not lie above all floats. -/
def fractional (cs : List Char) : Except Stop (Float × List Char) := do
  let ((negative, whole), rest) ← wholePart cs
  let (digits, places, rest) ← match rest with
    | '.' :: rest => do
      let (ds, rest) ← someDigits isDigit digitName rest
      pure (whole ++ ds, ds.length, rest)
    | c :: _ => if c = 'e' ∨ c = 'E' then pure (whole, 0, rest) else mismatch rest none []
    | [] => mismatch rest none []
  let (power, rest) ← exponent rest
  let x := Decimal.ofDecimal (digitsValue digits) (power - places)
  let x := if negative then -x else x
  if Decimal.Exact.ofFloat x = .infinite false then stop cs none [] else return (x, rest)

def float (cs : List Char) : Except Stop (Float × List Char) :=
  inside .float (orElse (fractional cs) fun _ => specialFloat cs)

/-- An integer that has sixty-four bits. -/
def bounded (cs : List Char) (i : Int) : Except Stop Int :=
  if i < -9223372036854775808 then refuse cs none .tooSmall
  else if 9223372036854775807 < i then refuse cs none .tooLarge
  else .ok i

/-- The value of a digit of some base. -/
def digitOf (c : Char) : Nat :=
  if isDigit c then c.toNat - 48 else c.toLower.toNat - 87

/-- The integer in a base of at most sixteen behind its two marks, and the rest. -/
def based (within : Construct) (base : Nat) (cs : List Char) : Except Stop (Int × List Char) := do
  let isDigitOfBase := fun (c : Char) =>
    (isDigit c || ('a' ≤ c.toLower && c.toLower ≤ 'f')) && digitOf c < base
  let (ds, rest) ← inside within (someDigits isDigitOfBase [] (cs.drop 2))
  return (← bounded cs (ds.foldl (fun n d => base * n + digitOf d) 0 : Nat), rest)

/-- An integer: a decimal one with an optional sign, or one of another base, and the rest. -/
def integer (cs : List Char) : Except Stop (Int × List Char) :=
  match cs with
  | '0' :: 'x' :: _ => based .hexadecimal 16 cs
  | '0' :: 'o' :: _ => based .octal 8 cs
  | '0' :: 'b' :: _ => based .binary 2 cs
  | _ => do
    let ((negative, ds), rest) ← wholePart cs
    return (← bounded cs (Decimal.signed negative (digitsValue ds)), rest)

/-! ## Times -/

/-- A number of exactly so many digits within bounds, and the rest. -/
def numberIn (count low high : Nat) (cs : List Char) : Except Stop (Nat × List Char) :=
  let ds := cs.take count
  let n := digitsValue ds
  if ds.length ≠ count || !ds.all isDigit then mismatch cs none []
  else if n < low ∨ high < n then
    .error { left := cs.length, cause := some .outOfRange, isFinal := false }
  else .ok (n, cs.drop count)

/-- What follows a character. -/
def after (expected : Char) : List Char → Except Stop (List Char)
  | c :: cs => if c = expected then .ok cs else mismatch (c :: cs) none []
  | [] => mismatch [] none []

def date (cs : List Char) : Except Stop (List Char × List Char) := do
  let (year, rest) ← numberIn 4 0 9999 cs
  let rest ← after '-' rest
  committed do
    let (month, rest) ← numberIn 2 1 12 rest
    let start ← after '-' rest
    let (day, rest) ← numberIn 2 1 31 start
    if !(Calendar.Date.mk year month day).isValid then refuse start none .outOfRange
    return (cs.take 10, rest)

/-- The text of a fraction of a second: at most nine digits, and none if they are all zero. -/
def fractionText (digits : List Char) : List Char :=
  match ((digits.take 9).reverse.dropWhile (· == '0')).reverse with
  | [] => []
  | kept => '.' :: kept

/-- The text of a time of day, and the rest. Behind the hour and a colon it cannot be anything
else. -/
def timeOfDay (cs : List Char) : Except Stop (List Char × List Char) := do
  let (_, rest) ← numberIn 2 0 23 cs
  let rest ← after ':' rest
  committed do
    let (_, rest) ← numberIn 2 0 59 rest
    let (_, rest) ← numberIn 2 0 60 (← after ':' rest)
    match rest with
    | '.' :: behind =>
      let digits := behind.takeWhile isDigit
      if digits.isEmpty then return (cs.take 8, rest)
      return (cs.take 8 ++ fractionText digits, behind.dropWhile isDigit)
    | rest => return (cs.take 8, rest)

def offset (cs : List Char) : Except Stop (List Char × List Char) :=
  match cs with
  | c :: rest =>
    if c = 'Z' ∨ c = 'z' then .ok (['Z'], rest)
    else if c = '+' ∨ c = '-' then
      committed <| inside .timeOffset do
        let (hour, behind) ← numberIn 2 0 23 rest
        let (minute, behind) ← numberIn 2 0 59 (← after ':' behind)
        return ((if hour = 0 ∧ minute = 0 then '+' else c) :: rest.take 5, behind)
    else .ok ([], cs)
  | [] => .ok ([], [])

/-- The text of a time of day with an offset or without, and the rest. -/
def clock (cs : List Char) : Except Stop (List Char × List Char) := do
  let (time, rest) ← timeOfDay cs
  let (zone, rest) ← offset rest
  return (time ++ zone, rest)

/-- The characters that stand between a date and a time of day. -/
def isTimeMark (c : Char) : Bool := c == 'T' || c == 't' || c == ' '

/-- The text of a date that may have a time of day behind it, and the rest. -/
def dateWithTime (cs : List Char) : Except Stop (List Char × List Char) := do
  let (day, rest) ← date cs
  match rest with
  | c :: behind =>
    if isTimeMark c then
      orElse (do
        let (time, behind) ← clock behind
        return (day ++ 'T' :: time, behind)) fun _ => return (day, rest)
    else return (day, rest)
  | [] => return (day, [])

/-- The text of a date, of a time of day, or of both, and the rest. Only with a date there is an
offset. -/
def moment (cs : List Char) : Except Stop (List Char × List Char) :=
  inside .dateTime (orElse (dateWithTime cs) fun _ => timeOfDay cs)

/-! ## Scalars -/

/-- What begins like a number: a time, a float or an integer, and the rest. -/
def numeral (cs : List Char) : Except Stop ((Kind × Value) × List Char) :=
  orElse (do
    let (text, rest) ← moment cs
    return ((.dateTime, .string (String.ofList text)), rest)) fun _ =>
  orElse (do
    let (x, rest) ← float cs
    return ((.float, .number x), rest)) fun _ => do
  let (i, rest) ← integer cs
  return ((.integer, .number (Float.ofInt i)), rest)

/-- The quotes that begin a string, as they are named in messages. -/
def quoteNames : List String := [inBackticks "\"", inBackticks "'"]

/-- How the digit is named that a number must begin with. -/
def leadingDigitName : List String := ["leading digit"]

/-- The scalar at the start of a text, and the rest. What begins like no value is taken for a string
without quotes, and a number without a digit in front for a number. -/
def readScalar (cs : List Char) : Except Stop ((Kind × Value) × List Char) :=
  match cs with
  | 't' :: 'r' :: 'u' :: 'e' :: rest => .ok ((.boolean, .boolean true), rest)
  | 'f' :: 'a' :: 'l' :: 's' :: 'e' :: rest => .ok ((.boolean, .boolean false), rest)
  | 'i' :: 'n' :: 'f' :: _ | 'n' :: 'a' :: 'n' :: _ => numeral cs
  | '_' :: _ => mismatch cs (some .integer) leadingDigitName
  | '.' :: _ => mismatch cs (some .float) leadingDigitName
  | 't' :: _ | 'f' :: _ => stop cs (some .string) quoteNames
  | c :: _ =>
    if isDigit c || c == '+' || c == '-' then numeral cs
    else mismatch cs (some .string) quoteNames
  | [] => mismatch [] none []

end DataOutline.Toml
