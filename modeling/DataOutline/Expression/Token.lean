import DataOutline.Decimal.Notation

/-!
# Tokens of the expression language

The words that an expression is made of, and the ways in which the text of an expression can fail
to be one.
-/

namespace DataOutline.Expression

/-- A word of the expression language. -/
inductive Token where
  | number (x : Float)
  | string (s : String)
  | identifier (name : String)
  | trueWord | falseWord | nullWord
  | plus | minus | star | slash | percent
  | equal | strictEqual | unequal | strictUnequal
  | greater | less | greaterEqual | lessEqual
  | both | either | bang
  | question | colon | comma | dot
  | openParen | closeParen | openBracket | closeBracket | openBrace | closeBrace
deriving DecidableEq

/-- The name of a token in messages. -/
def Token.name : Token → String
  | .number x => "number " ++ Decimal.plain.text x
  | .string _ => "string"
  | .identifier name => "identifier '" ++ name ++ "'"
  | .trueWord => "True"
  | .falseWord => "False"
  | .nullWord => "Null"
  | .plus => "Plus"
  | .minus => "Minus"
  | .star => "Star"
  | .slash => "Slash"
  | .percent => "Percent"
  | .equal => "EqEq"
  | .strictEqual => "EqEqEq"
  | .unequal => "BangEq"
  | .strictUnequal => "BangEqEq"
  | .greater => "Gt"
  | .less => "Lt"
  | .greaterEqual => "GtEq"
  | .lessEqual => "LtEq"
  | .both => "AmpAmp"
  | .either => "PipePipe"
  | .bang => "Bang"
  | .question => "Question"
  | .colon => "Colon"
  | .comma => "Comma"
  | .dot => "Dot"
  | .openParen => "LParen"
  | .closeParen => "RParen"
  | .openBracket => "LBracket"
  | .closeBracket => "RBracket"
  | .openBrace => "LBrace"
  | .closeBrace => "RBrace"

/-- Why a text is not an expression. -/
inductive SyntaxFault where
  | unterminatedString
  | strayCharacter (c : Char)
  | malformedNumber (text : String)
  | unexpectedEnd
  | unexpected (found : Token)
  /-- One token was required, and another one or the end was found. -/
  | required (expected : Token) (found : Option Token)
  | propertyName
  | entryName
deriving DecidableEq

def SyntaxFault.message : SyntaxFault → String
  | .unterminatedString => "unterminated string literal"
  | .strayCharacter c => "unexpected character '" ++ c.toString ++ "'"
  | .malformedNumber text => "invalid number '" ++ text ++ "'"
  | .unexpectedEnd => "unexpected end of expression"
  | .unexpected found => "unexpected " ++ found.name
  | .required expected (some found) => "expected " ++ expected.name ++ ", found " ++ found.name
  | .required expected none => "expected " ++ expected.name ++ ", found end of expression"
  | .propertyName => "expected a property name after '.'"
  | .entryName => "expected a property name in object literal"

end DataOutline.Expression
