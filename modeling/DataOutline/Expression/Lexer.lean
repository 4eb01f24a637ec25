import DataOutline.Decimal.Reading
import DataOutline.Expression.Token

/-!
# Words of an expression text

The text is cut from left to right into the longest tokens, with spaces, tabs and line breaks
between them. A point belongs to a number only when a digit follows it, and an exponent only when it
has digits.
-/

namespace DataOutline.Expression

open Text

/-- The operators and brackets, those with more characters first. -/
def symbols : List (List Char × Token) :=
  [(['=', '=', '='], .strictEqual), (['!', '=', '='], .strictUnequal),
   (['=', '='], .equal), (['!', '='], .unequal), (['>', '='], .greaterEqual),
   (['<', '='], .lessEqual), (['&', '&'], .both), (['|', '|'], .either),
   (['+'], .plus), (['-'], .minus), (['*'], .star), (['/'], .slash), (['%'], .percent),
   (['>'], .greater), (['<'], .less), (['!'], .bang), (['?'], .question), ([':'], .colon),
   ([','], .comma), (['.'], .dot), (['('], .openParen), ([')'], .closeParen),
   (['['], .openBracket), ([']'], .closeBracket), (['\x7b'], .openBrace), (['\x7d'], .closeBrace)]

/-- The operator or bracket at the start of a text, and the rest. -/
def symbol? (cs : List Char) : Option (Token × List Char) :=
  symbols.findSome? fun (chars, token) => (chars.isPrefixOf? cs).map fun rest => (token, rest)

/-- The characters that may stand between tokens. -/
def isSeparator (c : Char) : Bool := c == ' ' || c == '\t' || c == '\n' || c == '\r'

/-- What a character means behind a backslash. -/
def unescape : Char → Char
  | 'n' => '\n'
  | 't' => '\t'
  | 'r' => '\r'
  | '0' => '\x00'
  | c => c

/-- The characters of a string up to its closing quote, and what follows the quote. -/
def stringBody (quote : Char) : List Char → Option (List Char × List Char)
  | [] => none
  | c :: rest =>
    if c = quote then some ([], rest)
    else if c = '\\' then
      match rest with
      | [] => none
      | e :: rest => (stringBody quote rest).map fun (body, rest) => (unescape e :: body, rest)
    else (stringBody quote rest).map fun (body, rest) => (c :: body, rest)

/-- The fraction at the start of a text, its point included, and the rest. -/
def fractionPart : List Char → List Char × List Char
  | '.' :: d :: rest =>
    if isDigit d then ('.' :: d :: rest.takeWhile isDigit, rest.dropWhile isDigit)
    else ([], '.' :: d :: rest)
  | cs => ([], cs)

/-- The exponent at the start of a text, its letter and sign included, and the rest. -/
def exponentPart : List Char → List Char × List Char
  | c :: cs =>
    if c = 'e' ∨ c = 'E' then
      let (sign, digits) := match cs with
        | '+' :: rest => (['+'], rest)
        | '-' :: rest => (['-'], rest)
        | rest => ([], rest)
      if (digits.takeWhile isDigit).isEmpty then ([], c :: cs)
      else (c :: (sign ++ digits.takeWhile isDigit), digits.dropWhile isDigit)
    else ([], c :: cs)
  | [] => ([], [])

/-- The characters of the number at the start of a text, and the rest. -/
def numberPart (cs : List Char) : List Char × List Char :=
  let (fractional, rest) := fractionPart (cs.dropWhile isDigit)
  let (power, rest) := exponentPart rest
  (cs.takeWhile isDigit ++ fractional ++ power, rest)

def wordToken (word : List Char) : Token :=
  let name := String.ofList word
  if name = "true" then .trueWord
  else if name = "false" then .falseWord
  else if name = "null" ∨ name = "undefined" then .nullWord
  else .identifier name

/-- The token that begins with the first character of a text, and what follows it. -/
def firstToken (c : Char) (cs : List Char) : Except SyntaxFault (Token × List Char) :=
  if c = '"' ∨ c = '\'' then
    match stringBody c cs with
    | some (body, rest) => .ok (.string (String.ofList body), rest)
    | none => .error .unterminatedString
  else if isDigit c then
    let (text, rest) := numberPart (c :: cs)
    match Decimal.unsigned? text with
    | some x => .ok (.number x, rest)
    | none => .error (.malformedNumber (String.ofList text))
  else if isIdentifierStart c then
    .ok (wordToken (c :: cs.takeWhile isIdentifierPart), cs.dropWhile isIdentifierPart)
  else
    match symbol? (c :: cs) with
    | some (token, rest) => .ok (token, rest)
    | none => .error (.strayCharacter c)

/-- The tokens of a text, at most `fuel` characters and tokens of it. -/
def tokensFrom : Nat → List Char → Except SyntaxFault (List Token)
  | 0, _ => .ok []
  | _, [] => .ok []
  | fuel + 1, c :: cs =>
    if isSeparator c then tokensFrom fuel cs
    else do
      let (token, rest) ← firstToken c cs
      let tokens ← tokensFrom fuel rest
      return token :: tokens

def tokenize (cs : List Char) : Except SyntaxFault (List Token) := tokensFrom cs.length cs

end DataOutline.Expression
