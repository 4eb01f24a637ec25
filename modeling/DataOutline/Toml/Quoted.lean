import DataOutline.Json.Reader
import DataOutline.Toml.Fault

/-!
# Strings of TOML

Four kinds of strings: between double quotes with escapes, between single quotes without, and both
of them over several lines between three quotes. A string over several lines drops a line break
right behind its opening quotes, writes every line break as a line feed, and may end in one or two
quotes of its own.
-/

namespace DataOutline.Toml

/-- The characters that may stand in a line: all but the control characters other than the tab. -/
def isPlain (c : Char) : Bool := c == '\t' || (0x20 ≤ c.toNat && c.toNat ≠ 0x7F)

/-- The blanks within a line. -/
def isSpace (c : Char) : Bool := c == ' ' || c == '\t'

def skipSpaces (cs : List Char) : List Char := cs.dropWhile isSpace

/-- What follows a line break. -/
def newline? : List Char → Option (List Char)
  | '\n' :: cs => some cs
  | '\r' :: '\n' :: cs => some cs
  | _ => none

/-! ## Escapes -/

/-- The character whose code is so many hexadecimal digits, and the rest. -/
def codeEscape (within : Construct) (count : Nat) (cs : List Char) :
    Except Stop (Char × List Char) :=
  match (cs.take count).mapM Json.hexValue? with
  | none => stop cs within []
  | some ds =>
    let n := ds.foldl (fun n d => 16 * n + d) 0
    if ds.length ≠ count then stop cs within []
    else if n.isValidChar then .ok (Char.ofNat n, cs.drop count)
    else refuse cs within .outOfRange

/-- The letters of escapes, as they are named in messages. -/
def escapeLetters : List String := ["b", "f", "n", "r", "t", "u", "U", "\\", "\""]

/-- The character of an escape behind its backslash, and the rest. -/
def escape : List Char → Except Stop (Char × List Char)
  | 'b' :: cs => .ok ('\x08', cs)
  | 't' :: cs => .ok ('\t', cs)
  | 'n' :: cs => .ok ('\n', cs)
  | 'f' :: cs => .ok ('\x0c', cs)
  | 'r' :: cs => .ok ('\r', cs)
  | '"' :: cs => .ok ('"', cs)
  | '\\' :: cs => .ok ('\\', cs)
  | 'u' :: cs => codeEscape .shortCode 4 cs
  | 'U' :: cs => codeEscape .longCode 8 cs
  | cs => stop cs.tail (some .escapeSequence) (escapeLetters.map inBackticks)

/-- Whether a backslash escapes characters between these quotes. -/
def hasEscapes (quote : Char) : Bool := quote == '"'

/-! ## Strings of one line -/

/-- The string of one line between these quotes. -/
def lineString (quote : Char) : Construct :=
  if hasEscapes quote then .basicString else .literalString

/-- The characters of a string of one line up to its closing quote, and the rest. -/
def lineBody (quote : Char) : Nat → List Char → Except Stop (List Char × List Char)
  | 0, cs => stop cs (lineString quote) []
  | fuel + 1, cs =>
    match cs with
    | [] => stop [] (lineString quote) []
    | c :: rest =>
      if c = quote then .ok ([], rest)
      else if c = '\\' && hasEscapes quote && !rest.isEmpty then do
        let (e, rest) ← escape rest
        let (body, rest) ← lineBody quote fuel rest
        return (e :: body, rest)
      else if isPlain c && !(c = '\\' && hasEscapes quote) then do
        let (body, rest) ← lineBody quote fuel rest
        return (c :: body, rest)
      else stop (c :: rest) (lineString quote) []

/-- The string of one line whose opening quote is the first character of a text, and the rest. -/
def readLine (quote : Char) (cs : List Char) : Except Stop (List Char × List Char) :=
  lineBody quote (cs.length + 1) cs.tail

/-! ## Strings over several lines -/

/-- The string over several lines between these quotes. -/
def linesString (quote : Char) : Construct :=
  if hasEscapes quote then .multilineBasicString else .multilineLiteralString

/-- What follows a backslash at the end of a line, where the next line that is not blank goes on. -/
def joinedLine? (cs : List Char) : Option (List Char) :=
  (newline? (skipSpaces cs)).map (·.dropWhile fun c => isSpace c || c == '\n' || c == '\r')

/-- Whether a string over several lines can go on with a text that does not begin with a quote. -/
def goesOn (quote : Char) : List Char → Bool
  | [] => false
  | c :: cs =>
    if c = '\\' && hasEscapes quote then !cs.isEmpty
    else isPlain c || (newline? (c :: cs)).isSome

/-- The characters of a string over several lines up to its closing quotes, and the rest. -/
def linesBody (quote : Char) : Nat → List Char → Except Stop (List Char × List Char)
  | 0, cs => stop cs (linesString quote) []
  | fuel + 1, cs =>
    let quotes := cs.takeWhile (· == quote)
    let rest := cs.dropWhile (· == quote)
    if 3 ≤ quotes.length then
      let own := min (quotes.length - 3) 2
      .ok (List.replicate own quote, cs.drop (own + 3))
    else if !goesOn quote rest then stop cs (linesString quote) []
    else
      match rest with
      | [] => stop cs (linesString quote) []
      | c :: more => do
        let (content, more) ←
          if c = '\\' && hasEscapes quote then
            match joinedLine? more with
            | some more => pure ([], more)
            | none => do
              let (e, more) ← escape more
              pure ([e], more)
          else
            match newline? rest with
            | some more => pure (['\n'], more)
            | none => pure ([c], more)
        let (body, more) ← linesBody quote fuel more
        return (quotes ++ content ++ body, more)

/-- The string of either form whose opening quote is the first character of a text, and the
rest. -/
def readQuoted (quote : Char) (cs : List Char) : Except Stop (List Char × List Char) :=
  if [quote, quote, quote].isPrefixOf cs then
    let rest := cs.drop 3
    let rest := (newline? rest).getD rest
    linesBody quote (rest.length + 1) rest
  else readLine quote cs

end DataOutline.Toml
