import DataOutline.Entries

/-!
# JSON data

JSON as data, apart from its text. Integers are kept apart from other numbers, since they are
written without a point. The entries of an object stand in the order in which they are written;
`sortKeys` brings the objects of a datum into the order of their keys, at every depth.
-/

namespace DataOutline

inductive Json where
  | null
  | bool (b : Bool)
  | integer (i : Int)
  | number (x : Float)
  | string (s : String)
  | array (items : List Json)
  | object (entries : List (String × Json))
deriving Inhabited

/-- Write an entry among entries sorted by name, replacing the one of the same name. -/
def Entries.insertSorted {α : Type} (key : String) (value : α) : Entries α → Entries α
  | [] => [(key, value)]
  | (k, v) :: rest =>
    if key < k then (key, value) :: (k, v) :: rest
    else if k = key then (k, value) :: rest
    else (k, v) :: insertSorted key value rest

/-- Entries sorted by name, a later value of a name winning over an earlier one. -/
def Entries.sorted {α : Type} (es : List (String × α)) : Entries α :=
  es.foldl (fun m (k, v) => m.insertSorted k v) []

namespace Json

mutual

/-- The same datum with the entries of every object sorted by name. -/
def sortKeys : Json → Json
  | .array items => .array (sortKeysAll items)
  | .object entries => .object (Entries.sorted (sortKeysEntries entries))
  | j => j

def sortKeysAll : List Json → List Json
  | [] => []
  | j :: js => sortKeys j :: sortKeysAll js

def sortKeysEntries : List (String × Json) → List (String × Json)
  | [] => []
  | (k, j) :: es => (k, sortKeys j) :: sortKeysEntries es

end

theorem sortKeysAll_eq_map (js : List Json) : sortKeysAll js = js.map sortKeys := by
  induction js with
  | nil => rfl
  | cons j js ih => rw [sortKeysAll, List.map_cons, ih]

theorem sortKeysEntries_eq_map (es : List (String × Json)) :
    sortKeysEntries es = es.map fun e => (e.1, e.2.sortKeys) := by
  induction es with
  | nil => rfl
  | cons e es ih => rw [sortKeysEntries, List.map_cons, ih]

end Json

end DataOutline
