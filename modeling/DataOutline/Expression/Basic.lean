/-!
# Expressions

The syntax trees of the expression language. Parentheses and the plus sign in front of an operand
leave no trace in them.
-/

namespace DataOutline

namespace Expression

inductive UnaryOperator where
  | negate
  | not
deriving DecidableEq, Repr

inductive BinaryOperator where
  | add | subtract | multiply | divide | modulo
  | equal | unequal | strictEqual | strictUnequal
  | greater | less | greaterEqual | lessEqual
  | and | or
deriving DecidableEq, Repr

end Expression

open Expression (UnaryOperator BinaryOperator)

inductive Expression where
  | null
  | boolean (b : Bool)
  | number (x : Float)
  | string (s : String)
  | identifier (name : String)
  | array (items : List Expression)
  | object (entries : List (String × Expression))
  /-- `target.property` -/
  | member (target : Expression) (property : String)
  /-- `target[index]` -/
  | index (target index : Expression)
  | call (callee : Expression) (arguments : List Expression)
  | unary (operator : UnaryOperator) (operand : Expression)
  | binary (operator : BinaryOperator) (left right : Expression)
  | conditional (condition whenTrue whenFalse : Expression)
deriving Inhabited

end DataOutline
