import DataOutline.Decimal.Exact
import DataOutline.Entries

/-!
# Values

What a value block yields and what a context binds: nothing, a boolean, a number, a string, an
array, an object, or a function that the host provides. An array says whether the order of its items
matters. The entries of an object have an order of their own, in which equality has no interest.
-/

namespace DataOutline

/-- A function that the host provides. It is known by its identity; its name is for messages. -/
structure HostFunction where
  name : String
  id : Nat
deriving DecidableEq, Repr

inductive Value where
  | null
  | boolean (b : Bool)
  | number (x : Float)
  | string (s : String)
  | array (items : List Value) (unordered : Bool)
  | object (entries : List (String × Value))
  | function (f : HostFunction)
deriving Inhabited

namespace Value

/-- The name of a value's type, as messages give it. -/
def typeName : Value → String
  | .null => "null"
  | .boolean _ => "boolean"
  | .number _ => "number"
  | .string _ => "string"
  | .array .. => "array"
  | .object _ => "object"
  | .function _ => "function"

def isTruthy : Value → Bool
  | .null => false
  | .boolean b => b
  | .number x => x != 0.0 && !x.isNaN
  | .string s => s ≠ ""
  | .array .. | .object _ | .function _ => true

/-- Arrays and objects, the values that parts can be removed from and added to. -/
def isStructured : Value → Bool
  | .array .. | .object _ => true
  | _ => false

/-- The integer that a number is, if it is one below `10 ^ 15`. Such numbers are written as
integers. -/
def wholeNumber? (x : Float) : Option Int :=
  (Decimal.Exact.ofFloat x).integer?.filter fun i => i.natAbs < 1000000000000000

mutual

/-- Equality of values: numbers as floats, so not-a-number is not equal to itself; arrays item by
item and by whether they are ordered; functions by identity; objects by their entries, in whatever
order these stand. -/
def beq : Value → Value → Bool
  | .null, .null => true
  | .boolean a, .boolean b => a == b
  | .number x, .number y => x == y
  | .string s, .string t => s == t
  | .array xs u, .array ys v => u == v && beqItems xs ys
  | .object es, .object fs => es.length == fs.length && beqEntries es fs
  | .function f, .function g => f.id == g.id
  | _, _ => false

def beqItems : List Value → List Value → Bool
  | [], [] => true
  | x :: xs, y :: ys => beq x y && beqItems xs ys
  | _, _ => false

/-- Whether each of some entries has an equal one among others. -/
def beqEntries : List (String × Value) → Entries Value → Bool
  | [], _ => true
  | (k, x) :: es, fs =>
    (match fs.get? k with
      | some y => beq x y
      | none => false) && beqEntries es fs

end

instance : BEq Value := ⟨beq⟩

end Value

end DataOutline
