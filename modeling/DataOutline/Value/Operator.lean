import DataOutline.Decimal.Reading
import DataOutline.Expression.Basic
import DataOutline.Text.Blank
import DataOutline.Value.Display
import DataOutline.Value.Error

/-!
# Operators on values

Arithmetic is on numbers only, except that a sum with a string is the two texts in a row. Order is
that of numbers, or of strings by code points. There are two equalities: the strict one is equality
of values, and the loose one compares values of different types by the numbers that they read as.
-/

namespace DataOutline.Value

open Expression (UnaryOperator BinaryOperator)

/-- The float that a number is. Other values are a type mismatch. -/
def asNumber : Value → Except RunError Float
  | .number x => .ok x
  | v => .error (.typeMismatch "number" v.typeName)

/-- The number that a value reads as, if it reads as one. A blank string reads as zero. -/
def looseNumber? : Value → Option Float
  | .number x => some x
  | .boolean b => some (if b then 1.0 else 0.0)
  | .string s =>
    let word := Text.trim s.toList
    if word.isEmpty then some 0.0 else Decimal.number? word
  | _ => none

/-- Loose equality: that of values for two of the same type, otherwise that of the numbers that both
read as. -/
def looseEq (a b : Value) : Bool :=
  if a.typeName = b.typeName then a == b
  else
    match a.looseNumber?, b.looseNumber? with
    | some x, some y => x == y
    | _, _ => false

/-- The sum of two numbers, or the texts of two values of which one is a string. -/
def sum : Value → Value → Except RunError Value
  | .number x, .number y => .ok (.number (x + y))
  | .string s, b => .ok (.string (s ++ b.text))
  | a, .string t => .ok (.string (a.text ++ t))
  | a, b => .error (.typeMismatch "numbers or a string" (a.typeName ++ " + " ++ b.typeName))

/-- An operation on two numbers. The left one is looked at first. -/
def arithmetic (f : Float → Float → Float) (a b : Value) : Except RunError Value := do
  let x ← a.asNumber
  let y ← b.asNumber
  return .number (f x y)

/-- An operation that has no result when its right operand is zero. -/
def division (f : Float → Float → Float) (a b : Value) : Except RunError Value := do
  let x ← a.asNumber
  let y ← b.asNumber
  if y == 0.0 then throw .divisionByZero
  return .number (f x y)

/-- A comparison: of two strings by code points, or else of two numbers. -/
def comparison (strings : String → String → Bool) (numbers : Float → Float → Bool) :
    Value → Value → Except RunError Value
  | .string s, .string t => .ok (.boolean (strings s t))
  | a, b => do
    let x ← a.asNumber
    let y ← b.asNumber
    return .boolean (numbers x y)

/-- The result of an operator on two values. The two logical operators have chosen their right
operand when it is evaluated. -/
def binary : BinaryOperator → Value → Value → Except RunError Value
  | .add, a, b => sum a b
  | .subtract, a, b => arithmetic (· - ·) a b
  | .multiply, a, b => arithmetic (· * ·) a b
  | .divide, a, b => division (· / ·) a b
  | .modulo, a, b => division Decimal.remainder a b
  | .equal, a, b => .ok (.boolean (looseEq a b))
  | .unequal, a, b => .ok (.boolean (!looseEq a b))
  | .strictEqual, a, b => .ok (.boolean (a == b))
  | .strictUnequal, a, b => .ok (.boolean (!(a == b)))
  | .greater, a, b => comparison (fun s t => t < s) (fun x y => y < x) a b
  | .less, a, b => comparison (fun s t => s < t) (fun x y => x < y) a b
  | .greaterEqual, a, b => comparison (fun s t => !(s < t)) (fun x y => y ≤ x) a b
  | .lessEqual, a, b => comparison (fun s t => !(t < s)) (fun x y => x ≤ y) a b
  | .and, _, b | .or, _, b => .ok b

def unary : UnaryOperator → Value → Except RunError Value
  | .negate, v => do return .number (-(← v.asNumber))
  | .not, v => .ok (.boolean (!v.isTruthy))

end DataOutline.Value
