import DataOutline.Text.Line

/-!
# Faults of a TOML text

Reading stops at the first fault, which is told with its place: the line is drawn, with a mark under
the character. A fault may name what was being read, what should have come next, and why what came
is refused.
-/

namespace DataOutline.Toml

open Text (byteSize rawLines)

/-- What can be at fault. -/
inductive Construct where
  | key | tableHeader | array | inlineTable
  | basicString | multilineBasicString | literalString | multilineLiteralString
  | escapeSequence | shortCode | longCode
  /-- What is expected where no value begins. -/
  | string
  | integer | hexadecimal | octal | binary | float | dateTime | timeOffset
deriving DecidableEq, Repr

def Construct.name : Construct → String
  | .key => "key"
  | .tableHeader => "table header"
  | .array => "array"
  | .inlineTable => "inline table"
  | .basicString => "basic string"
  | .multilineBasicString => "multiline basic string"
  | .literalString => "literal string"
  | .multilineLiteralString => "multiline literal string"
  | .escapeSequence => "escape sequence"
  | .shortCode => "unicode 4-digit hex code"
  | .longCode => "unicode 8-digit hex code"
  | .string => "string"
  | .integer => "integer"
  | .hexadecimal => "hexadecimal integer"
  | .octal => "octal integer"
  | .binary => "binary integer"
  | .float => "floating-point number"
  | .dateTime => "date-time"
  | .timeOffset => "time offset"

inductive Kind where
  | string | integer | float | boolean | dateTime | array | inlineTable
deriving DecidableEq, Repr

def Kind.name : Kind → String
  | .string => "string"
  | .integer => "integer"
  | .float => "float"
  | .boolean => "boolean"
  | .dateTime => "datetime"
  | .array => "array"
  | .inlineTable => "inline table"

/-- Why something well-formed is refused. -/
inductive Cause where
  /-- A key is given twice in a table, which is named by its path if it has a header. -/
  | duplicateKey (key : String) (table : Option (List String))
  /-- A path leads into a value that is no table. -/
  | notTable (path : List String) (kind : Kind)
  | outOfRange
  | tooLarge
  | tooSmall
  | tooDeep
deriving DecidableEq, Repr

def inBackticks (text : String) : String := "\x60" ++ text ++ "\x60"

def Cause.message : Cause → String
  | .duplicateKey key none => "duplicate key " ++ inBackticks key
  | .duplicateKey key (some []) => "duplicate key " ++ inBackticks key ++ " in document root"
  | .duplicateKey key (some path) =>
    "duplicate key " ++ inBackticks key ++ " in table " ++ inBackticks (".".intercalate path)
  | .notTable path kind =>
    "dotted key " ++ inBackticks (".".intercalate path) ++
      " attempted to extend non-table type (" ++ kind.name ++ ")"
  | .outOfRange => "value is out of range"
  | .tooLarge => "number too large to fit in target type"
  | .tooSmall => "number too small to fit in target type"
  | .tooDeep => "recursion limit exceeded"

/-- Why and where reading stops. -/
structure Stop where
  /-- The number of characters behind the place. -/
  left : Nat
  /-- What was being read. -/
  within : Option Construct := none
  /-- What should have come next. -/
  expected : List String := []
  cause : Option Cause := none
  /-- Whether the text cannot be read in another way. -/
  isFinal : Bool := true
deriving DecidableEq, Repr

variable {α : Type}

/-- Stop before the rest of a text. -/
def stop (rest : List Char) (within : Option Construct) (expected : List String) :
    Except Stop α :=
  .error { left := rest.length, within, expected }

/-- Stop before the rest of a text for a cause. -/
def refuse (rest : List Char) (within : Option Construct) (cause : Cause) : Except Stop α :=
  .error { left := rest.length, within, cause := some cause }

/-- Stop before the rest of a text, which may be read in another way. -/
def mismatch (rest : List Char) (within : Option Construct) (expected : List String) :
    Except Stop α :=
  .error { left := rest.length, within, expected, isFinal := false }

/-- Read as a part of a construct: a fault that names none lies in this one. -/
def inside (c : Construct) (x : Except Stop α) : Except Stop α :=
  x.mapError fun s => { s with within := s.within.or (some c) }

/-- Read in the only way that is possible here. -/
def committed (x : Except Stop α) : Except Stop α :=
  x.mapError fun s => { s with isFinal := true }

/-- Read in one way, or else in another. -/
def orElse (x : Except Stop α) (y : Unit → Except Stop α) : Except Stop α :=
  match x with
  | .ok a => .ok a
  | .error s => if s.isFinal then .error s else y ()

/-- What is said about a fault, line by line. -/
def Stop.message (s : Stop) : String :=
  let construct := s.within.toList.map fun c => "invalid " ++ c.name
  let expected := if s.expected.isEmpty then [] else ["expected " ++ ", ".intercalate s.expected]
  "\n".intercalate (construct ++ expected ++ s.cause.toList.map Cause.message)

/-- The line of a place, and the column in it, both counted from zero. The place at the end of a
text is the one behind its last character. Before a character of several bytes the column is in
bytes. -/
def place (before : List Char) : List Char → Nat × Nat
  | c :: _ =>
    let line := (before.reverse.takeWhile (· ≠ '\n')).reverse
    (before.count '\n', if 1 < c.utf8Size then byteSize line else line.length)
  | [] =>
    let before := before.dropLast
    (before.count '\n', (before.reverse.takeWhile (· ≠ '\n')).length + 1)

structure ReadError where
  stop : Stop
  text : List Char

/-- The report of a fault, with its line drawn. -/
def ReadError.message (e : ReadError) : String :=
  let index := e.text.length - e.stop.left
  let behind := e.text.drop index
  let (line, column) := place (e.text.take index) behind
  let content := ((rawLines e.text)[line]?).getD []
  let width := min ((behind.head?.map Char.utf8Size).getD 0) (byteSize content - column)
  let number := toString (line + 1)
  let margin := "".pushn ' ' (number.length + 1) ++ "|"
  "TOML parse error at line " ++ number ++ ", column " ++ toString (column + 1) ++ "\n" ++
    margin ++ "\n" ++ number ++ " | " ++ String.ofList content ++ "\n" ++
    margin ++ "".pushn ' ' (column + 1) ++ "".pushn '^' (max 1 width) ++ "\n" ++
    e.stop.message ++ "\n"

end DataOutline.Toml
