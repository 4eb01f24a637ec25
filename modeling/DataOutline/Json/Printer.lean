import DataOutline.Decimal.Notation
import DataOutline.Json.Basic

/-!
# JSON as text

Two layouts of a datum: the compact one without any blank, and the indented one with an item or an
entry on each line. Strings are quoted with the short escapes where JSON has them, and with a code
for the other control characters; nothing else is escaped.
-/

namespace DataOutline.Json

/-- The lower-case hexadecimal digits of a number, at least two of them. -/
def hexPair (n : Nat) : List Char :=
  let digits := Nat.toDigits 16 n
  List.replicate (2 - digits.length) '0' ++ digits

/-- A character as it stands between quotes. -/
def escapeChar (c : Char) : List Char :=
  match c with
  | '"' => ['\\', '"']
  | '\\' => ['\\', '\\']
  | '\x08' => ['\\', 'b']
  | '\x0c' => ['\\', 'f']
  | '\n' => ['\\', 'n']
  | '\r' => ['\\', 'r']
  | '\t' => ['\\', 't']
  | c => if c.toNat < 0x20 then '\\' :: 'u' :: '0' :: '0' :: hexPair c.toNat else [c]

def quote (s : String) : List Char := '"' :: (s.toList.flatMap escapeChar ++ ['"'])

/-- The text of a datum that has no parts. -/
def scalarText : Json → List Char
  | .null => ['n', 'u', 'l', 'l']
  | .bool true => ['t', 'r', 'u', 'e']
  | .bool false => ['f', 'a', 'l', 's', 'e']
  | .integer i => (toString i).toList
  | .number x => (Decimal.json.text x).toList
  | .string s => quote s
  | .array _ => ['[', ']']
  | .object _ => ['{', '}']

mutual

/-- The compact text. -/
def text : Json → List Char
  | .array items => '[' :: ([','].intercalate (texts items) ++ [']'])
  | .object entries => '{' :: ([','].intercalate (entryTexts entries) ++ ['}'])
  | j => scalarText j

def texts : List Json → List (List Char)
  | [] => []
  | j :: js => text j :: texts js

/-- Each entry as its quoted name, a colon and the compact text of its value. -/
def entryTexts : List (String × Json) → List (List Char)
  | [] => []
  | (k, j) :: es => (quote k ++ ':' :: text j) :: entryTexts es

end

/-- The parts of an array or object between its brackets, each on a line of its own at the given
depth. Without parts the brackets stand together. -/
def indentParts (opening closing : Char) (depth : Nat) (parts : List (List Char)) : List Char :=
  if parts.isEmpty then [opening, closing]
  else
    let margin := fun d => '\n' :: List.replicate (2 * d) ' '
    opening :: ([','].intercalate (parts.map (margin (depth + 1) ++ ·)) ++
      margin depth ++ [closing])

mutual

/-- The indented text of a datum that stands at the given depth. -/
def pretty (depth : Nat) : Json → List Char
  | .array items => indentParts '[' ']' depth (prettyAll (depth + 1) items)
  | .object entries => indentParts '{' '}' depth (prettyEntries (depth + 1) entries)
  | j => scalarText j

def prettyAll (depth : Nat) : List Json → List (List Char)
  | [] => []
  | j :: js => pretty depth j :: prettyAll depth js

/-- Each entry as its quoted name, a colon, a space and the indented text of its value. -/
def prettyEntries (depth : Nat) : List (String × Json) → List (List Char)
  | [] => []
  | (k, j) :: es => (quote k ++ ':' :: ' ' :: pretty depth j) :: prettyEntries depth es

end

end DataOutline.Json
