import DataOutline.Expression.Basic
import DataOutline.Expression.Lexer
import DataOutline.Value.Display
import DataOutline.Value.Error

/-!
# Expressions from tokens

Operators bind by their powers: an operand is read, and then as many operators as bind at least as
strongly as asked for, each with a right operand that binds more strongly than itself. Only the
conditional, which may have another conditional behind its colon, groups to the right.

Every part of an expression that is an expression itself is read one level deeper, and the number of
levels is limited. The levels are what the recursion is on: each function below takes the reader of
the next level as an argument, and its own loop runs along the tokens.
-/

namespace DataOutline.Expression

/-- A reader of expressions whose operators bind at least as strongly as a power. It gives the
expression at the start of a list of tokens, and the tokens that follow. -/
abbrev Reader := Nat → List Token → Except RunError (Expression × List Token)

/-- How deep expressions may be nested in each other. -/
def levelLimit : Nat := 256

def conditionalPower : Nat := 2

/-- The power that an operand of a sign is read with. -/
def operandPower : Nat := 16

/-- The operator of a token, with its power. -/
def infix? : Token → Option (BinaryOperator × Nat)
  | .either => some (.or, 4)
  | .both => some (.and, 6)
  | .equal => some (.equal, 8)
  | .unequal => some (.unequal, 8)
  | .strictEqual => some (.strictEqual, 8)
  | .strictUnequal => some (.strictUnequal, 8)
  | .greater => some (.greater, 10)
  | .less => some (.less, 10)
  | .greaterEqual => some (.greaterEqual, 10)
  | .lessEqual => some (.lessEqual, 10)
  | .plus => some (.add, 12)
  | .minus => some (.subtract, 12)
  | .star => some (.multiply, 14)
  | .slash => some (.divide, 14)
  | .percent => some (.modulo, 14)
  | _ => none

/-- What follows a token that has to come next. -/
def require (expected : Token) : List Token → Except RunError (List Token)
  | [] => .error (.malformed (.required expected none))
  | token :: rest =>
    if token = expected then .ok rest
    else .error (.malformed (.required expected (some token)))

/-- Expressions with commas between them up to a closing token; one comma may stand before it. -/
def readItems (sub : Reader) (closing : Token) :
    Nat → List Token → Except RunError (List Expression × List Token)
  | 0, _ => .error (.malformed .unexpectedEnd)
  | fuel + 1, tokens =>
    if tokens.head? = some closing then .ok ([], tokens.tail)
    else do
      let (item, rest) ← sub 0 tokens
      match rest with
      | .comma :: rest =>
        let (items, rest) ← readItems sub closing fuel rest
        return (item :: items, rest)
      | rest => return ([item], ← require closing rest)

/-- The name of an entry, if a token can be one. A number is named by its text. -/
def entryName? : Token → Option String
  | .identifier name => some name
  | .string s => some s
  | .number x => some (Value.numberText x)
  | _ => none

/-- The value of an entry: what follows a colon, or else the variable of the entry's name. -/
def readEntryValue (sub : Reader) (name : String) :
    List Token → Except RunError (Expression × List Token)
  | .colon :: rest => sub 0 rest
  | rest => .ok (.identifier name, rest)

/-- Entries with commas between them up to a closing brace; one comma may stand before it. -/
def readEntries (sub : Reader) :
    Nat → List Token → Except RunError (List (String × Expression) × List Token)
  | 0, _ => .error (.malformed .unexpectedEnd)
  | _, .closeBrace :: rest => .ok ([], rest)
  | fuel + 1, tokens =>
    match tokens.head?.bind entryName? with
    | none => .error (.malformed .entryName)
    | some name => do
      let (value, rest) ← readEntryValue sub name tokens.tail
      match rest with
      | .comma :: rest =>
        let (entries, rest) ← readEntries sub fuel rest
        return ((name, value) :: entries, rest)
      | rest => return ([(name, value)], ← require .closeBrace rest)

/-- The property that a token names behind a point. Keywords are names there. -/
def propertyName? : Token → Option String
  | .identifier name => some name
  | .trueWord => some "true"
  | .falseWord => some "false"
  | .nullWord => some "null"
  | _ => none

/-- Member accesses, indices and calls behind an operand, from left to right. -/
def readSuffixes (sub : Reader) :
    Nat → Expression → List Token → Except RunError (Expression × List Token)
  | fuel + 1, target, .dot :: rest =>
    match rest.head?.bind propertyName? with
    | some name => readSuffixes sub fuel (.member target name) rest.tail
    | none => .error (.malformed .propertyName)
  | fuel + 1, target, .openBracket :: rest => do
    let (place, rest) ← sub 0 rest
    let rest ← require .closeBracket rest
    readSuffixes sub fuel (.index target place) rest
  | fuel + 1, target, .openParen :: rest => do
    let (arguments, rest) ← readItems sub .closeParen (rest.length + 1) rest
    readSuffixes sub fuel (.call target arguments) rest
  | _, target, rest => .ok (target, rest)

/-- A literal, a variable, or an expression in brackets, given its first token. -/
def readPrimary (sub : Reader) : Token → List Token → Except RunError (Expression × List Token)
  | .number x, rest => .ok (.number x, rest)
  | .string s, rest => .ok (.string s, rest)
  | .trueWord, rest => .ok (.boolean true, rest)
  | .falseWord, rest => .ok (.boolean false, rest)
  | .nullWord, rest => .ok (.null, rest)
  | .identifier name, rest => .ok (.identifier name, rest)
  | .openParen, rest => do
    let (inner, rest) ← sub 0 rest
    return (inner, ← require .closeParen rest)
  | .openBracket, rest => do
    let (items, rest) ← readItems sub .closeBracket (rest.length + 1) rest
    return (.array items, rest)
  | .openBrace, rest => do
    let (entries, rest) ← readEntries sub (rest.length + 1) rest
    return (.object entries, rest)
  | token, _ => .error (.malformed (.unexpected token))

/-- An operand: signs, each in front of an operand of its own, or a primary with its suffixes. -/
def readOperand (sub : Reader) : List Token → Except RunError (Expression × List Token)
  | [] => .error (.malformed .unexpectedEnd)
  | .bang :: rest => do
    let (operand, rest) ← sub operandPower rest
    return (.unary .not operand, rest)
  | .minus :: rest => do
    let (operand, rest) ← sub operandPower rest
    return (.unary .negate operand, rest)
  | .plus :: rest => sub operandPower rest
  | token :: rest => do
    let (primary, rest) ← readPrimary sub token rest
    readSuffixes sub rest.length primary rest

/-- The operators behind a left operand that bind at least as strongly as a power, each with its
right operand. -/
def readOperators (sub : Reader) (power : Nat) :
    Nat → Expression → List Token → Except RunError (Expression × List Token)
  | fuel + 1, left, .question :: rest =>
    if conditionalPower < power then .ok (left, .question :: rest)
    else do
      let (whenTrue, rest) ← sub 0 rest
      let rest ← require .colon rest
      let (whenFalse, rest) ← sub conditionalPower rest
      readOperators sub power fuel (.conditional left whenTrue whenFalse) rest
  | fuel + 1, left, token :: rest =>
    match infix? token with
    | none => .ok (left, token :: rest)
    | some (operator, own) =>
      if own < power then .ok (left, token :: rest)
      else do
        let (right, rest) ← sub (own + 1) rest
        readOperators sub power fuel (.binary operator left right) rest
  | _, left, rest => .ok (left, rest)

/-- The expression at the start of a list of tokens, when so many levels are left. -/
def readExpression : Nat → Reader
  | 0, _, _ => .error .tooDeep
  | levels + 1, power, tokens => do
    let (left, rest) ← readOperand (readExpression levels) tokens
    readOperators (readExpression levels) power rest.length left rest

/-- The expression that a list of tokens is. -/
def ofTokens (tokens : List Token) : Except RunError Expression := do
  let (e, rest) ← readExpression levelLimit 0 tokens
  match rest with
  | [] => return e
  | token :: _ => throw (.malformed (.unexpected token))

def parse (code : String) : Except RunError Expression := do
  let tokens ← (tokenize code.toList).mapError RunError.malformed
  ofTokens tokens

end DataOutline.Expression
