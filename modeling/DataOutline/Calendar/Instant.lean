/-!
# Instants

A point in time as seconds from the beginning of 1970, and nanoseconds. A leap second is written as
the second before it with more than a full second of nanoseconds. Dates are those of the Gregorian
calendar, continued in both directions; a year of its own reckoning begins in March, so that the
leap day is its last.
-/

namespace DataOutline.Calendar

/-- A point in time. In a leap second, `nano` counts on from `10 ^ 9`. -/
structure Instant where
  second : Int
  nano : Nat
deriving DecidableEq, Repr

/-- A day of the calendar. -/
structure Date where
  year : Int
  month : Nat
  day : Nat
deriving DecidableEq, Repr

def isLeapYear (year : Int) : Bool := year % 4 == 0 && (year % 100 != 0 || year % 400 == 0)

def daysInMonth (year : Int) (month : Nat) : Nat :=
  if month = 2 then (if isLeapYear year then 29 else 28)
  else if month = 4 ∨ month = 6 ∨ month = 9 ∨ month = 11 then 30
  else 31

def Date.isValid (d : Date) : Bool :=
  1 ≤ d.month && d.month ≤ 12 && 1 ≤ d.day && d.day ≤ daysInMonth d.year d.month

def Date.toDays (d : Date) : Int :=
  let year := if d.month ≤ 2 then d.year - 1 else d.year
  let era := year / 400
  let yearOfEra := year - era * 400
  let dayOfYear := (153 * (((d.month + 9) % 12 : Nat) : Int) + 2) / 5 + d.day - 1
  let dayOfEra := yearOfEra * 365 + yearOfEra / 4 - yearOfEra / 100 + dayOfYear
  era * 146097 + dayOfEra - 719468

def Date.ofDays (days : Int) : Date :=
  let days := days + 719468
  let era := days / 146097
  let dayOfEra := days - era * 146097
  let yearOfEra := (dayOfEra - dayOfEra / 1460 + dayOfEra / 36524 - dayOfEra / 146096) / 365
  let dayOfYear := dayOfEra - (365 * yearOfEra + yearOfEra / 4 - yearOfEra / 100)
  let index := (5 * dayOfYear + 2) / 153
  let month := ((index + 2) % 12 + 1).toNat
  let year := yearOfEra + era * 400 + (if month ≤ 2 then 1 else 0)
  ⟨year, month, (dayOfYear - (153 * index + 2) / 5 + 1).toNat⟩

def daySeconds : Int := 86400

def yearRange : Int × Int := (-262143, 262142)

def Instant.inRange (t : Instant) : Bool :=
  let year := (Date.ofDays (t.second / daySeconds)).year
  yearRange.1 ≤ year && year ≤ yearRange.2

/-- An instant some milliseconds later, or earlier if the number is negative. A leap second is left
when the time moves on past its end, or back by a second or more. -/
def Instant.addMillis (t : Instant) (millis : Int) : Instant :=
  let seconds := millis.tdiv 1000
  let nanos := millis.tmod 1000 * 1000000
  let leap := (1000000000 : Int)
  let nano := (t.nano : Int)
  if leap ≤ nano ∧ ¬ (0 < seconds ∨ (0 < nanos ∧ 2 * leap - nanos ≤ nano)) ∧ ¬ seconds < 0 then
    ⟨t.second, (nano + nanos).toNat⟩
  else
    let (second, nano) :=
      if nano < leap then (t.second, nano)
      else if seconds < 0 then (t.second + 1, nano - leap)
      else (t.second, nano - leap)
    let total := nano + nanos
    ⟨second + seconds + total / leap, (total % leap).toNat⟩

/-- The digits of a number, with zeros in front up to a width. -/
def padded (width n : Nat) : List Char :=
  let digits := Nat.toDigits 10 n
  List.replicate (width - digits.length) '0' ++ digits

/-- The digits of a year: four of them, or a sign and at least four. -/
def yearText (year : Int) : List Char :=
  if 0 ≤ year ∧ year ≤ 9999 then padded 4 year.toNat
  else (if year < 0 then '-' else '+') :: padded 4 year.natAbs

/-- The text of an instant: date and time of the zero meridian, with milliseconds. -/
def Instant.text (t : Instant) : String :=
  let date := Date.ofDays (t.second / daySeconds)
  let time := (t.second % daySeconds).toNat
  let leap := t.nano / 1000000000
  let millis := t.nano % 1000000000 / 1000000
  String.ofList <|
    yearText date.year ++ '-' :: padded 2 date.month ++ '-' :: padded 2 date.day ++
      'T' :: padded 2 (time / 3600) ++ ':' :: padded 2 (time / 60 % 60) ++
      ':' :: padded 2 (time % 60 + leap) ++ '.' :: padded 3 millis ++ ['Z']

end DataOutline.Calendar
