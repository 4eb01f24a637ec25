import DataOutline.Decimal.Reading
import DataOutline.Json.Basic
import DataOutline.Text.Line

/-!
# JSON from text

A text is read as one datum with nothing but blanks around it. A fault is reported at the place that
reading has come to: behind the byte that is at fault, in bytes from the start of its line.
Data may be nested up to a limit, and the levels that are left are what the recursion is on.
-/

namespace DataOutline.Json

open Text (isDigit byteSize)

/-- Why a text is not a JSON datum. -/
inductive Fault where
  | endInList | endInObject | endInString | endInValue
  | expectedColon | expectedListComma | expectedObjectComma | expectedWord | expectedValue
  | invalidEscape | invalidNumber | numberOutOfRange | controlCharacter | keyNotString
  | loneSurrogate | trailingComma | trailingCharacters | brokenSurrogatePair | tooDeep
deriving DecidableEq, Repr

def Fault.message : Fault → String
  | .endInList => "EOF while parsing a list"
  | .endInObject => "EOF while parsing an object"
  | .endInString => "EOF while parsing a string"
  | .endInValue => "EOF while parsing a value"
  | .expectedColon => "expected \x60:\x60"
  | .expectedListComma => "expected \x60,\x60 or \x60]\x60"
  | .expectedObjectComma => "expected \x60,\x60 or \x60\x7d\x60"
  | .expectedWord => "expected ident"
  | .expectedValue => "expected value"
  | .invalidEscape => "invalid escape"
  | .invalidNumber => "invalid number"
  | .numberOutOfRange => "number out of range"
  | .controlCharacter => "control character (\\u0000-\\u001F) found while parsing a string"
  | .keyNotString => "key must be a string"
  | .loneSurrogate => "lone leading surrogate in hex escape"
  | .trailingComma => "trailing comma"
  | .trailingCharacters => "trailing characters"
  | .brokenSurrogatePair => "unexpected end of hex escape"
  | .tooDeep => "recursion limit exceeded"

/-- A fault, and the number of bytes of the text behind it. -/
structure Stop where
  fault : Fault
  left : Nat

/-- A fault before the rest of a text. -/
def stop {α : Type} (fault : Fault) (rest : List Char) : Except Stop α :=
  .error ⟨fault, byteSize rest⟩

/-- A fault that the first byte of the rest of a text is part of. -/
def stopAfter {α : Type} (fault : Fault) (rest : List Char) : Except Stop α :=
  .error ⟨fault, byteSize rest - 1⟩

/-- A text without the blanks of JSON at its start. -/
def skipBlanks (cs : List Char) : List Char :=
  cs.dropWhile fun c => c == ' ' || c == '\n' || c == '\t' || c == '\r'

/-- What follows the letters of a word. -/
def word : List Char → List Char → Except Stop (List Char)
  | [], cs => .ok cs
  | _ :: _, [] => stop .endInValue []
  | e :: es, c :: cs => if e = c then word es cs else stopAfter .expectedWord (c :: cs)

/-! ## Strings -/

def hexValue? (c : Char) : Option Nat :=
  if isDigit c then some (c.toNat - 48)
  else if 'a' ≤ c ∧ c ≤ 'f' then some (c.toNat - 87)
  else if 'A' ≤ c ∧ c ≤ 'F' then some (c.toNat - 55)
  else none

/-- The value of four hexadecimal digits, and the rest. -/
def hexCode (cs : List Char) : Except Stop (Nat × List Char) :=
  if byteSize (cs.take 4) < 4 then stop .endInString []
  else
    match (cs.take 4).mapM hexValue? with
    | some ds => .ok (ds.foldl (fun n d => 16 * n + d) 0, cs.drop 4)
    | none => .error ⟨.invalidEscape, byteSize cs - 4⟩

/-- What follows a character that has to come next in a pair of escapes. -/
def pairChar (expected : Char) : List Char → Except Stop (List Char)
  | [] => stop .endInString []
  | c :: cs => if c = expected then .ok cs else stopAfter .brokenSurrogatePair (c :: cs)

/-- The character of an escape by code, or by two codes if the first is half of one, and the
rest. -/
def codeEscape (cs : List Char) : Except Stop (Char × List Char) := do
  let (high, cs) ← hexCode cs
  if 0xDC00 ≤ high ∧ high ≤ 0xDFFF then stop .loneSurrogate cs
  if high < 0xD800 ∨ 0xDBFF < high then return (Char.ofNat high, cs)
  let cs ← pairChar '\\' cs
  let cs ← pairChar 'u' cs
  let (low, cs) ← hexCode cs
  if low < 0xDC00 ∨ 0xDFFF < low then stop .loneSurrogate cs
  return (Char.ofNat ((high - 0xD800) * 0x400 + (low - 0xDC00) + 0x10000), cs)

/-- The character of an escape behind its backslash, and the rest. -/
def escape : List Char → Except Stop (Char × List Char)
  | [] => stop .endInString []
  | '"' :: cs => .ok ('"', cs)
  | '\\' :: cs => .ok ('\\', cs)
  | '/' :: cs => .ok ('/', cs)
  | 'b' :: cs => .ok ('\x08', cs)
  | 'f' :: cs => .ok ('\x0c', cs)
  | 'n' :: cs => .ok ('\n', cs)
  | 'r' :: cs => .ok ('\r', cs)
  | 't' :: cs => .ok ('\t', cs)
  | 'u' :: cs => codeEscape cs
  | c :: cs => stopAfter .invalidEscape (c :: cs)

/-- The characters of a string up to its closing quote, and the rest. -/
def stringBody : Nat → List Char → Except Stop (List Char × List Char)
  | 0, _ | _, [] => stop .endInString []
  | fuel + 1, c :: cs =>
    if c = '"' then .ok ([], cs)
    else if c = '\\' then do
      let (e, cs) ← escape cs
      let (body, cs) ← stringBody fuel cs
      return (e :: body, cs)
    else if c.toNat < 0x20 then stop .controlCharacter cs
    else do
      let (body, cs) ← stringBody fuel cs
      return (c :: body, cs)

/-- The string whose opening quote is read. -/
def stringText (fuel : Nat) (cs : List Char) : Except Stop (String × List Char) := do
  let (body, cs) ← stringBody fuel cs
  return (String.ofList body, cs)

/-! ## Numbers -/

/-- The greatest exponent that is looked at. -/
def maximalExponent : Nat := 2147483647

/-- The value of the digits of an exponent. Digits that take it over the greatest one end the number
at once, if that makes it too large. -/
def exponentDigits (overflows : Bool) (n : Nat) : List Char → Except Stop (Nat × List Char)
  | [] => .ok (n, [])
  | c :: cs =>
    if isDigit c then
      let n := 10 * n + Text.digitValue c
      if maximalExponent < n ∧ overflows then stop .numberOutOfRange cs
      else exponentDigits overflows (min n (maximalExponent + 1)) cs
    else .ok (n, c :: cs)

/-- The exponent behind its letter, and the rest. -/
def exponentPart (zero : Bool) (cs : List Char) : Except Stop (Int × List Char) :=
  let (negative, cs) := Decimal.splitSign cs
  match cs with
  | [] => stop .endInValue []
  | c :: rest =>
    if isDigit c then do
      let (n, rest) ← exponentDigits (!zero && !negative) 0 (c :: rest)
      return (Decimal.signed negative n, rest)
    else stopAfter .invalidNumber (c :: rest)

/-- The fraction behind its point: its digits, and the rest. -/
def fractionPart (cs : List Char) : Except Stop (List Char × List Char) :=
  let digits := cs.takeWhile isDigit
  if !digits.isEmpty then .ok (digits, cs.dropWhile isDigit)
  else if cs.isEmpty then stop .endInValue []
  else stopAfter .invalidNumber cs

/-- The digits that are kept behind those of a number, and how many are left over: a number is below
`2 ^ 64`, and what would take it further ends it. -/
def keepDigits (n : Nat) : List Char → Nat × Nat
  | [] => (n, 0)
  | c :: cs =>
    let m := 10 * n + Text.digitValue c
    if m < Decimal.indexBound then keepDigits m cs else (n, cs.length + 1)

/-- The float for `n * 10 ^ power`, unless it is too large. The number is rounded to a float before
it is scaled by the power, and the quotient of a small one is taken in two steps, so that a number
of more than fifteen digits may come out as a neighbour of the nearest float. -/
def scaled? (n : Nat) (power : Int) : Option Float :=
  let x := Decimal.ofDecimal n 0
  if n = 0 then some x
  else if 308 < power then none
  else if 0 ≤ power then some (x * Decimal.ofDecimal 1 power) |>.filter Float.isFinite
  else if -308 ≤ power then some (x / Decimal.ofDecimal 1 (-power))
  else if -616 ≤ power then
    some (x / Decimal.ofDecimal 1 308 / Decimal.ofDecimal 1 (-power - 308))
  else some (Decimal.ofDecimal 0 0)

/-- A number that is given by the digits it keeps and a power of ten, before the rest of a text. -/
def floatValue (negative : Bool) (n : Nat) (power : Int) (rest : List Char) :
    Except Stop (Json × List Char) :=
  match scaled? n power with
  | some x => .ok (.number (if negative then -x else x), rest)
  | none => stop .numberOutOfRange rest

/-- What follows the digits of a number before its point. -/
def numberTail (negative : Bool) (whole : List Char) :
    List Char → Except Stop (Json × List Char)
  | '.' :: rest => do
    let (n, extra) := keepDigits 0 whole
    let (fractional, rest) ← fractionPart rest
    let (n, beyond) := keepDigits n fractional
    let (power, rest) ← match rest with
      | c :: cs => if c = 'e' ∨ c = 'E' then exponentPart (n = 0) cs else pure (0, c :: cs)
      | [] => pure (0, [])
    floatValue negative n (power + extra + beyond - fractional.length) rest
  | c :: rest =>
    let (n, extra) := keepDigits 0 whole
    if c = 'e' ∨ c = 'E' then do
      let (power, rest) ← exponentPart (n = 0) rest
      floatValue negative n (power + extra) rest
    else integral negative n extra (c :: rest)
  | [] =>
    let (n, extra) := keepDigits 0 whole
    integral negative n extra []
where
  /-- A number without a point and without an exponent. Minus zero is no integer. -/
  integral (negative : Bool) (n extra : Nat) (rest : List Char) : Except Stop (Json × List Char) :=
    if (negative && n = 0) || 0 < extra then floatValue negative n extra rest
    else .ok (.integer (Decimal.signed negative n), rest)

/-- A number behind its sign. -/
def signedNumber (negative : Bool) : List Char → Except Stop (Json × List Char)
  | [] => stop .endInValue []
  | c :: cs =>
    if c = '0' then
      if cs.head?.any isDigit then stopAfter .invalidNumber cs
      else numberTail negative [c] cs
    else if isDigit c then
      numberTail negative (c :: cs.takeWhile isDigit) (cs.dropWhile isDigit)
    else stopAfter .invalidNumber (c :: cs)

/-! ## Data -/

/-- How deep arrays and objects may be nested in each other, plus one. -/
def levelLimit : Nat := 128

/-- A reader of the datum at the start of a text. -/
abbrev Reader := List Char → Except Stop (Json × List Char)

/-- Items with commas between them up to a bracket, each behind blanks. -/
def items (sub : Reader) : Nat → Bool → List Char → Except Stop (List Json × List Char)
  | 0, _, cs => stop .endInList cs
  | fuel + 1, first, cs =>
    match skipBlanks cs with
    | [] => stop .endInList []
    | ']' :: rest => .ok ([], rest)
    | c :: rest => do
      let start ←
        if first then pure (c :: rest)
        else if c = ',' then
          match skipBlanks rest with
          | [] => stop .endInValue []
          | ']' :: rest => stopAfter .trailingComma (']' :: rest)
          | rest => pure rest
        else stopAfter .expectedListComma (c :: rest)
      let (j, rest) ← sub start
      let (js, rest) ← items sub fuel false rest
      return (j :: js, rest)

def colon (cs : List Char) : Except Stop (List Char) :=
  match skipBlanks cs with
  | [] => stop .endInObject []
  | ':' :: rest => .ok rest
  | rest => stopAfter .expectedColon rest

/-- Entries with commas between them up to a brace, each behind blanks. As an entry takes some
characters, the fuel that is left bounds those of its key too. -/
def entries (sub : Reader) :
    Nat → Bool → List Char → Except Stop (List (String × Json) × List Char)
  | 0, _, cs => stop .endInObject cs
  | fuel + 1, first, cs =>
    match skipBlanks cs with
    | [] => stop .endInObject []
    | '\x7d' :: rest => .ok ([], rest)
    | c :: rest => do
      let start ←
        if first then pure (c :: rest)
        else if c = ',' then
          match skipBlanks rest with
          | [] => stop .endInValue []
          | '\x7d' :: rest => stopAfter .trailingComma ('\x7d' :: rest)
          | rest => pure rest
        else stopAfter .expectedObjectComma (c :: rest)
      let rest ← match start with
        | '"' :: rest => pure rest
        | rest => stopAfter .keyNotString rest
      let (k, rest) ← stringText (fuel + 1) rest
      let (j, rest) ← sub (← colon rest)
      let (es, rest) ← entries sub fuel false rest
      return ((k, j) :: es, rest)

/-- The datum at the start of a text, when so many levels are left. The fuel bounds the characters
of a string and the items of an array or object. -/
def datum (fuel : Nat) : Nat → Reader
  | 0, cs => stop .tooDeep cs
  | levels + 1, cs =>
    match skipBlanks cs with
    | [] => stop .endInValue []
    | 'n' :: rest => do return (.null, ← word ['u', 'l', 'l'] rest)
    | 't' :: rest => do return (.bool true, ← word ['r', 'u', 'e'] rest)
    | 'f' :: rest => do return (.bool false, ← word ['a', 'l', 's', 'e'] rest)
    | '-' :: rest => signedNumber true rest
    | '"' :: rest => do
      let (s, rest) ← stringText fuel rest
      return (.string s, rest)
    | '[' :: rest =>
      if levels = 0 then stopAfter .tooDeep ('[' :: rest)
      else do
        let (js, rest) ← items (datum fuel levels) fuel true rest
        return (.array js, rest)
    | '\x7b' :: rest =>
      if levels = 0 then stopAfter .tooDeep ('\x7b' :: rest)
      else do
        let (es, rest) ← entries (datum fuel levels) fuel true rest
        return (.object es, rest)
    | c :: rest =>
      if isDigit c then signedNumber false (c :: rest) else stopAfter .expectedValue (c :: rest)

/-! ## Whole texts -/

/-- A fault and its place: the line, counted from one, and the number of bytes before it there. -/
structure ReadError where
  fault : Fault
  line : Nat
  column : Nat
deriving DecidableEq, Repr

def ReadError.message (e : ReadError) : String :=
  e.fault.message ++ " at line " ++ toString e.line ++ " column " ++ toString e.column

/-- The line and the column so many bytes into a text, from a line and a column on. -/
def place (line column : Nat) : Nat → List Char → Nat × Nat
  | 0, _ | _, [] => (line, column)
  | bytes, c :: cs =>
    if bytes < c.utf8Size then (line, column + bytes)
    else if c = '\n' then place (line + 1) 0 (bytes - c.utf8Size) cs
    else place line (column + c.utf8Size) (bytes - c.utf8Size) cs

/-- The datum that a text is. -/
def read (text : List Char) : Except ReadError Json :=
  let result : Except Stop Json := do
    let (j, rest) ← datum (text.length + 1) levelLimit text
    match skipBlanks rest with
    | [] => return j
    | rest => stopAfter .trailingCharacters rest
  result.mapError fun s =>
    let (line, column) := place 1 0 (byteSize text - s.left) text
    ⟨s.fault, line, column⟩

end DataOutline.Json
