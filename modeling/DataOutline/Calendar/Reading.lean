import DataOutline.Calendar.Instant
import DataOutline.Text.Letter
import DataOutline.Text.Line

/-!
# Instants from text

A date of four, two and two digits, the letter `T` or a space, a time of day to the second, its
fraction or none, and the offset from the time of the zero meridian. Date and time of day are one
field of fixed width: a text without room for it is too short, whatever it holds. The second may be
the leap second `60`.
-/

namespace DataOutline.Calendar

open Text

/-- Why a text is not an instant. -/
inductive DateFault where
  | tooShort
  | invalid
  | outOfRange
  | trailing
deriving DecidableEq, Repr

def DateFault.message : DateFault → String
  | .tooShort => "premature end of input"
  | .invalid => "input contains invalid characters"
  | .outOfRange => "input is out of range"
  | .trailing => "trailing input"

/-- A number of exactly so many digits, and the rest. -/
def digits (count : Nat) (cs : List Char) : Except DateFault (Nat × List Char) :=
  if byteSize cs < count then .error .tooShort
  else if (cs.take count).all isDigit then .ok (digitsValue (cs.take count), cs.drop count)
  else .error .invalid

/-- What follows one of some characters. -/
def oneOf (allowed : List Char) : List Char → Except DateFault (List Char)
  | [] => .error .tooShort
  | c :: rest => if c ∈ allowed then .ok rest else .error .invalid

/-- The nanoseconds of a fraction of the second, and the rest. Digits behind the ninth are dropped,
and without a point there is no fraction. -/
def nanoseconds : List Char → Except DateFault (Nat × List Char)
  | '.' :: rest =>
    let shown := rest.takeWhile isDigit
    if rest.isEmpty then .error .tooShort
    else if shown.isEmpty then .error .invalid
    else
      let nine := shown.take 9
      .ok (digitsValue nine * Nat.pow 10 (9 - nine.length), rest.dropWhile isDigit)
  | cs => .ok (0, cs)

/-- The seconds of an offset from the zero meridian, and the rest. -/
def offset : List Char → Except DateFault (Int × List Char)
  | [] => .error .tooShort
  | c :: rest => do
    if c = 'Z' ∨ c = 'z' then return (0, rest)
    let negative ←
      if c = '+' then pure false
      else if c = '-' ∨ c = '−' then pure true
      else throw .invalid
    let (hours, rest) ← digits 2 rest
    let rest ← oneOf [':'] rest
    let (minutes, rest) ← digits 2 rest
    if 59 < minutes then throw .outOfRange
    let seconds : Int := (hours * 3600 + minutes * 60 : Nat)
    return (if negative then -seconds else seconds, rest)

/-- The number of bytes of a date and a time of day to the second. -/
def fixedWidth : Nat := 19

/-- The day at the start of a text, and the rest. -/
def dateField (cs : List Char) : Except DateFault (Date × List Char) := do
  let (year, cs) ← digits 4 cs
  let cs ← oneOf ['-'] cs
  let (month, cs) ← digits 2 cs
  let cs ← oneOf ['-'] cs
  let (day, cs) ← digits 2 cs
  let date : Date := ⟨year, month, day⟩
  if !date.isValid then throw .outOfRange
  return (date, cs)

/-- The time of day at the start of a text, in seconds and nanoseconds, and the rest. A leap second
is the second before it with a full second of nanoseconds more. -/
def timeField (cs : List Char) : Except DateFault (Nat × Nat × List Char) := do
  let (hour, cs) ← digits 2 cs
  let cs ← oneOf [':'] cs
  let (minute, cs) ← digits 2 cs
  let cs ← oneOf [':'] cs
  let (second, cs) ← digits 2 cs
  let (nano, cs) ← nanoseconds cs
  if 23 < hour ∨ 59 < minute ∨ 60 < second then throw .outOfRange
  let leap := if second = 60 then 1000000000 else 0
  return (hour * 3600 + minute * 60 + min second 59, nano + leap, cs)

/-- The instant that a text stands for. -/
def read (cs : List Char) : Except DateFault Instant := do
  if byteSize cs < fixedWidth then throw .tooShort
  let (date, cs) ← dateField cs
  let cs ← oneOf ['T', 't', ' '] cs
  let (second, nano, cs) ← timeField cs
  let (away, cs) ← offset cs
  if !cs.isEmpty then throw .trailing
  if daySeconds ≤ away.natAbs then throw .outOfRange
  return ⟨date.toDays * daySeconds + second - away, nano⟩

end DataOutline.Calendar
