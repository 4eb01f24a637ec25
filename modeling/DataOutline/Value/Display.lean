import DataOutline.Decimal.Notation
import DataOutline.Json.Basic
import DataOutline.Value.Basic

/-!
# Values as text and as JSON

The text of a value is what it contributes to a string: an array gives its items with commas, and
null gives nothing among them. As JSON a number that is no real number becomes null, and a function
its text; and every JSON datum is a value in turn.
-/

namespace DataOutline.Value

def numberText (x : Float) : String :=
  match wholeNumber? x with
  | some i => toString i
  | none =>
    match Decimal.Exact.ofFloat x with
    | .infinite negative => if negative then "-Infinity" else "Infinity"
    | _ => Decimal.plain.text x

def functionText (f : HostFunction) : String := "[Function " ++ f.name ++ "]"

mutual

def text : Value → String
  | .null => "null"
  | .boolean b => if b then "true" else "false"
  | .number x => numberText x
  | .string s => s
  | .array items _ => ",".intercalate (itemTexts items)
  | .object _ => "[object Object]"
  | .function f => functionText f

/-- The texts of items. A null item has the empty text. -/
def itemTexts : List Value → List String
  | [] => []
  | .null :: xs => "" :: itemTexts xs
  | x :: xs => text x :: itemTexts xs

end

mutual

/-- A value as JSON, entries in their order. -/
def toJson : Value → Json
  | .null => .null
  | .boolean b => .bool b
  | .number x =>
    match wholeNumber? x with
    | some i => .integer i
    | none => if x.isFinite then .number x else .null
  | .string s => .string s
  | .array items _ => .array (toJsonItems items)
  | .object entries => .object (toJsonEntries entries)
  | .function f => .string (functionText f)

def toJsonItems : List Value → List Json
  | [] => []
  | x :: xs => toJson x :: toJsonItems xs

def toJsonEntries : List (String × Value) → List (String × Json)
  | [] => []
  | (k, x) :: es => (k, toJson x) :: toJsonEntries es

end

mutual

/-- The value of a JSON datum. Arrays are ordered, and integers become the nearest floats. -/
def ofJson : Json → Value
  | .null => .null
  | .bool b => .boolean b
  | .integer i => .number (Float.ofInt i)
  | .number x => .number x
  | .string s => .string s
  | .array items => .array (ofJsonItems items) false
  | .object entries => .object (Entries.ofList (ofJsonEntries entries))

def ofJsonItems : List Json → List Value
  | [] => []
  | j :: js => ofJson j :: ofJsonItems js

def ofJsonEntries : List (String × Json) → List (String × Value)
  | [] => []
  | (k, j) :: es => (k, ofJson j) :: ofJsonEntries es

end

/-! ### Parts, one by one -/

theorem toJsonItems_eq_map (vs : List Value) : toJsonItems vs = vs.map toJson := by
  induction vs with
  | nil => rfl
  | cons v vs ih => rw [toJsonItems, List.map_cons, ih]

theorem toJsonEntries_eq_map (es : List (String × Value)) :
    toJsonEntries es = es.map fun e => (e.1, e.2.toJson) := by
  induction es with
  | nil => rfl
  | cons e es ih => rw [toJsonEntries, List.map_cons, ih]

theorem ofJsonItems_eq_map (js : List Json) : ofJsonItems js = js.map ofJson := by
  induction js with
  | nil => rfl
  | cons j js ih => rw [ofJsonItems, List.map_cons, ih]

theorem ofJsonEntries_eq_map (es : List (String × Json)) :
    ofJsonEntries es = es.map fun e => (e.1, ofJson e.2) := by
  induction es with
  | nil => rfl
  | cons e es ih => rw [ofJsonEntries, List.map_cons, ih]

end DataOutline.Value
