import DataOutline.Calendar.Reading
import DataOutline.Decimal.Notation
import DataOutline.Expression.Evaluation
import DataOutline.Generator.Draws

/-!
# Generators of random data

The functions that a context offers beside its own names: strings over an alphabet, addresses,
numbers, truth values, times and choices. A missing argument and null are the same, and stand for a
default.
-/

namespace DataOutline

/-- The functions that make random data. -/
inductive Generator where
  | text | hex | code | email | url | number | integer | boolean | date | choice
deriving DecidableEq, Repr

namespace Generator

/-- The generators, in the order of their numbers. -/
def all : List Generator :=
  [.text, .hex, .code, .email, .url, .number, .integer, .boolean, .date, .choice]

/-- The name that a generator is bound to. -/
def name : Generator → String
  | .text => "randomStr"
  | .hex => "randomHex"
  | .code => "randomCode"
  | .email => "randomEmail"
  | .url => "randomUrl"
  | .number => "random"
  | .integer => "randomInt"
  | .boolean => "randomBool"
  | .date => "randomDate"
  | .choice => "randomOf"

def ofName? (name : String) : Option Generator := all.find? fun g => g.name == name

/-- The context of all generators, and of `empty`, the object without entries. -/
def context : Context :=
  ⟨(all.zipIdx.map fun (g, i) => (g.name, Value.function ⟨g.name, i⟩)) ++
    [("empty", .object [])]⟩

/-- The letters, digits and signs of base 64. -/
def base64 : Array Char :=
  "ABCDEFGHIJKLMNOPQRSTUVWXYZabcdefghijklmnopqrstuvwxyz0123456789+/".toList.toArray

def hexDigits : Array Char := "0123456789abcdef".toList.toArray

def decimalDigits : Array Char := "0123456789".toList.toArray

def defaultLength : Nat := 8

def maximalLength : Nat := 1048576

/-- The milliseconds of a day, the span of times that none is given for. -/
def defaultInterval : Float := 86400000.0

/-! ## Arguments -/

/-- A number among the arguments; null is none. -/
def numberArgument (arguments : List Value) (i : Nat) : Except RunError (Option Float) :=
  match arguments[i]? with
  | none | some .null => .ok none
  | some (.number x) => .ok (some x)
  | some v => .error (.typeMismatch "number" v.typeName)

/-- A string among the arguments; null is none. -/
def stringArgument (arguments : List Value) (i : Nat) : Except RunError (Option String) :=
  match arguments[i]? with
  | none | some .null => .ok none
  | some (.string s) => .ok (some s)
  | some v => .error (.typeMismatch "string" v.typeName)

/-- The length that the first argument asks for: its integer part if it is at least one. -/
def lengthArgument (arguments : List Value) : Except RunError Nat := do
  match ← numberArgument arguments 0 with
  | none => return defaultLength
  | some x =>
    if Float.ofNat maximalLength < x then
      throw (.custom ("length " ++ Decimal.plain.text x ++ " exceeds the maximum of " ++
        toString maximalLength))
    if 1.0 ≤ x then return ((Decimal.Exact.ofFloat x).clamp 0 maximalLength).toNat
    return defaultLength

/-- The string that an argument gives, or a default if it gives none or an empty one. -/
def nonemptyArgument (arguments : List Value) (i : Nat) (default : String) :
    Except RunError String := do
  match ← stringArgument arguments i with
  | some s => return if s = "" then default else s
  | none => return default

/-- The bounds that the arguments give: none, the upper one, or both. -/
def bounds (arguments : List Value) (defaultUpper : Float) : Except RunError (Float × Float) := do
  let first ← numberArgument arguments 0
  let second ← numberArgument arguments 1
  return match first, second with
    | none, none => (0.0, defaultUpper)
    | some upper, none => (0.0, upper)
    | lower, some upper => (lower.getD 0.0, upper)

/-- The interval and the base that the arguments of a time give. A string in front is the base. -/
def dateArguments (arguments : List Value) : Except RunError (Option Float × Option String) :=
  match arguments with
  | .string base :: _ => .ok (none, some base)
  | _ => do
    let interval ← numberArgument arguments 0
    let base ← stringArgument arguments 1
    return (interval, base)

/-! ## Calls -/

/-- What generators work with: random draws, and the present time. -/
structure Supply where
  draws : Draws
  now : Calendar.Instant

/-- A computation of a generator. -/
abbrev Draw := ExceptT RunError (StateM Supply)

def draw {α : Type} (f : Draws → α × Draws) : Draw α :=
  modifyGet fun s =>
    let (a, d) := f s.draws
    (a, { s with draws := d })

/-- A string of so many characters of an alphabet. -/
def drawText (length : Nat) (alphabet : Array Char) : Draw String := do
  let cs ← draw (Draws.characters alphabet length [])
  return String.ofList cs

/-- A number from one bound up to another, which is not reached; bounds in the wrong order are
allowed. -/
def drawBetween (low high : Float) : Draw Float := do
  let x ← draw Draws.unit
  return low + x * (high - low)

/-- The instant of a base text, or the present one. -/
def baseInstant (now : Calendar.Instant) : Option String → Except RunError Calendar.Instant
  | none => .ok now
  | some written =>
    (Calendar.read written.toList).mapError fun fault =>
      .custom ("randomDate: invalid date '" ++ written ++ "': " ++ fault.message)

/-- The instant some milliseconds before another. -/
def instantBefore (base : Calendar.Instant) (interval : Float) (millis : Int) :
    Except RunError Calendar.Instant :=
  let t := base.addMillis (-millis)
  if t.inRange then .ok t
  else .error (.custom ("randomDate: interval " ++ Decimal.plain.text interval ++
    " is out of range"))

/-- A time before a base, at most an interval earlier. -/
def drawDate (arguments : List Value) : Draw Value := do
  let (interval, base) ← Expression.settled (dateArguments arguments)
  let base ← Expression.settled (baseInstant (← get).now base)
  let interval := (interval.filter (· != 0.0)).getD defaultInterval
  let x ← drawBetween 0.0 interval
  let millis := (Decimal.Exact.ofFloat x).clamp (-9223372036854775808) 9223372036854775807
  let t ← Expression.settled (instantBefore base interval millis)
  return .string t.text

def call (arguments : List Value) : Generator → Draw Value
  | .text => do
    let length ← Expression.settled (lengthArgument arguments)
    let alphabet ← Expression.settled (nonemptyArgument arguments 1 "")
    return .string (← drawText length (if alphabet = "" then base64 else alphabet.toList.toArray))
  | .hex => do
    let length ← Expression.settled (lengthArgument arguments)
    return .string (← drawText length hexDigits)
  | .code => do
    let length ← Expression.settled (lengthArgument arguments)
    return .string (← drawText length decimalDigits)
  | .email => do
    let domain ← Expression.settled (nonemptyArgument arguments 0 "example.com")
    return .string ("test-" ++ (← drawText 24 hexDigits) ++ "@" ++ domain)
  | .url => do
    let base ← Expression.settled (nonemptyArgument arguments 0 "http://example.com")
    return .string (base ++ "/" ++ (← drawText 24 hexDigits))
  | .number => do
    let (low, high) ← Expression.settled (bounds arguments 1.0)
    return .number (← drawBetween low high)
  | .integer => do
    let (low, high) ← Expression.settled (bounds arguments 100.0)
    return .number (← drawBetween low high).floor
  | .boolean => do return .boolean (← draw Draws.coin)
  | .date => drawDate arguments
  | .choice =>
    if arguments.isEmpty then return .null
    else do
      let i ← draw (Draws.below arguments.length)
      return (arguments[i]?).getD .null

/-- The host whose functions are the generators. -/
def host : Host (StateM Supply) where
  call f arguments :=
    match ofName? f.name with
    | some g => g.call arguments
    | none => throw (.notCallable f.name)

end Generator

end DataOutline
