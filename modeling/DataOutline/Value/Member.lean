import DataOutline.Decimal.Reading
import DataOutline.Text.Blank
import DataOutline.Text.Case
import DataOutline.Value.Operator

/-!
# Properties and methods of values

Positions in strings and arrays count characters and items from zero. A property that is not there
is null; a method that is not there is an error. A slice takes its bounds from the end when they are
negative, and moves them into the sequence.
-/

namespace DataOutline.Value

/-- The value of a property. Only null has none at all. -/
def property (name : String) : Value → Except RunError Value
  | .object entries => .ok ((Entries.get? name entries).getD .null)
  | .array items _ =>
    if name = "length" then .ok (.number (Float.ofNat items.length))
    else .ok (((Decimal.index? name.toList).bind (items[·]?)).getD .null)
  | .string s =>
    if name = "length" then .ok (.number (Float.ofNat s.toList.length))
    else
      match (Decimal.index? name.toList).bind (s.toList[·]?) with
      | some c => .ok (.string c.toString)
      | none => .ok .null
  | .null => .error (.invalidProperty name "null")
  | _ => .ok .null

/-- A bound of a slice of a sequence, in the sequence. Without a value it is the default. -/
def sliceBound (length default : Nat) : Option Value → Except RunError Nat
  | none => .ok default
  | some v => do
    let x ← v.asNumber
    let n := (Decimal.Exact.ofFloat x).clamp (-(length : Int)) length
    return (if n < 0 then (length : Int) + n else n).toNat

/-- Where a slice starts and stops. One whose bounds are the wrong way round stops at its start. -/
def sliceRange (length : Nat) (arguments : List Value) : Except RunError (Nat × Nat) := do
  let start ← sliceBound length 0 arguments[0]?
  let stop ← sliceBound length length arguments[1]?
  return (start, max stop start)

/-- Whether a text occurs in another one. -/
def occursIn (needle : List Char) : List Char → Bool
  | [] => needle.isEmpty
  | c :: cs => needle.isPrefixOf (c :: cs) || occursIn needle cs

/-- The number of places that an argument asks for: none without one, and at most a hundred. -/
def places : Option Value → Except RunError Nat
  | none => .ok 0
  | some v => do
    let x ← v.asNumber
    return ((Decimal.Exact.ofFloat x).clamp 0 100).toNat

def numberMethod (x : Float) (name : String) (arguments : List Value) : Except RunError Value :=
  match name with
  | "toFixed" => do return .string (Decimal.fixedText (← places arguments[0]?) x)
  | "toString" => .ok (.string (numberText x))
  | _ => .error (.unknownMethod name "number")

def stringMethod (s : String) (name : String) (arguments : List Value) : Except RunError Value :=
  match name with
  | "toUpperCase" => .ok (.string (String.ofList (Text.toUpper s.toList)))
  | "toLowerCase" => .ok (.string (String.ofList (Text.toLower s.toList)))
  | "trim" => .ok (.string (String.ofList (Text.trim s.toList)))
  | "toString" => .ok (.string s)
  | "includes" =>
    .ok (.boolean (occursIn ((arguments[0]?.map text).getD "").toList s.toList))
  | "slice" => do
    let (start, stop) ← sliceRange s.toList.length arguments
    return .string (String.ofList (s.toList.extract start stop))
  | "concat" => .ok (.string (arguments.foldl (fun out v => out ++ v.text) s))
  | _ => .error (.unknownMethod name "string")

/-- The items that a value adds to an array: those of an array, or the value itself. -/
def spread : Value → List Value
  | .array items _ => items
  | v => [v]

def arrayMethod (items : List Value) (unordered : Bool) (name : String) (arguments : List Value) :
    Except RunError Value :=
  match name with
  | "join" =>
    let separator := match arguments[0]? with
      | none | some .null => ","
      | some v => v.text
    .ok (.string (separator.intercalate (itemTexts items)))
  | "includes" => .ok (.boolean (items.any (· == arguments[0]?.getD .null)))
  | "slice" => do
    let (start, stop) ← sliceRange items.length arguments
    return .array (items.extract start stop) unordered
  | "concat" => .ok (.array (items ++ arguments.flatMap spread) unordered)
  | "toString" => .ok (.string (text (.array items unordered)))
  | _ => .error (.unknownMethod name "array")

/-- The methods of values that are not objects. The methods of an object are its own functions. -/
def method (target : Value) (name : String) (arguments : List Value) : Except RunError Value :=
  match target with
  | .null => .error (.invalidProperty name "null")
  | .number x => numberMethod x name arguments
  | .string s => stringMethod s name arguments
  | .array items unordered => arrayMethod items unordered name arguments
  | v => if name = "toString" then .ok (.string v.text) else .error (.unknownMethod name v.typeName)

end DataOutline.Value
