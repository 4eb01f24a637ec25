import DataOutline.Decimal.Reading
import DataOutline.Value.Context
import DataOutline.Value.Error

/-!
# Dotted paths

A path such as `items.0.name` leads from a value to its parts. A part of a path that consists of
digits is the index of an array item, unless it is too large for one; every other part is a key.
-/

namespace DataOutline

/-- The parts of a text between dots. -/
def dotted (text : String) : List String := (text.toList.splitOn '.').map String.ofList

namespace Mixin

/-- One step of a path. -/
inductive Segment where
  | index (i : Nat)
  | key (k : String)
deriving DecidableEq, Repr

/-- The step that a part of a dotted text stands for. -/
def Segment.ofText (part : String) : Segment :=
  match Decimal.digitsIndex? part.toList with
  | some i => .index i
  | none => .key part

def Segment.text : Segment → String
  | .index i => toString i
  | .key k => k

/-- The steps from a value to its parts. -/
abbrev Path := List Segment

/-- The path that a dotted text stands for. It has at least one step. -/
def Path.ofText (text : String) : Path := (dotted text).map Segment.ofText

def Path.text (path : Path) : String := ".".intercalate (path.map Segment.text)

/-- The value of a part of an array or object; an index may have a plus sign in front. -/
def child? (part : String) : Value → Option Value
  | .object entries => Entries.get? part entries
  | .array items _ => (Decimal.index? part.toList).bind (items[·]?)
  | _ => none

/-- Walk from a value through named parts. `base` is the whole text, for the message. -/
def descend (base : String) : Value → List String → Except RunError Value
  | value, [] => .ok value
  | value, part :: parts =>
    match child? part value with
    | some next => descend base next parts
    | none => .error (.mixin (.unresolvedBase base part))

/-- The value of a dotted text in a context: its first part is a bound name, the others lead into
objects and arrays. -/
def resolveBase (context : Context) (base : String) : Except RunError Value :=
  match dotted base with
  | [] => .error (.undefinedVariable "")
  | first :: parts =>
    match context.get? first with
    | some value => descend base value parts
    | none => .error (.undefinedVariable first)

end Mixin

end DataOutline
