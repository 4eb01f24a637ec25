import DataOutline.Json.Basic
import DataOutline.Toml.Fault
import DataOutline.Value.Basic

/-!
# Tables of TOML

A TOML text builds one table from statements: headers open tables and items of lists of tables, and
assignments give values to keys of the table that is open. A dotted path leads through tables, which
are made where they are missing, and through a list of tables to its last one. Nothing is given
twice: each table remembers how it came to be, and that decides who may still write to it.
-/

namespace DataOutline.Toml

/-- How a table came to be. -/
inductive Origin where
  /-- By a header of its own. -/
  | header
  /-- On the way of a header to a table below it. -/
  | passage
  /-- On the way of a dotted key to its last part. -/
  | dotted
deriving DecidableEq, Repr

/-- What a key of a table stands for. A value is complete, also when it is a table. -/
inductive Item where
  | value (kind : Kind) (v : Value)
  | table (origin : Origin) (entries : List (String × Item))
  | tables (items : List (List (String × Item)))
deriving Inhabited

/-- A table that is being built. -/
abbrev Table := Entries Item

/-- Where a path leads from: from a table with a header, or from a table within braces. -/
inductive Scope where
  | header (path : List String)
  | braces
deriving DecidableEq, Repr

/-- The table of a scope, as messages name it. -/
def Scope.table? : Scope → Option (List String)
  | .header path => some path
  | .braces => none

namespace Table

/-- Why a path cannot lead into a value: it is no table, or it is one within the braces of another
one. -/
def blocked (scope : Scope) (walked : List String) (key : String) (kind : Kind) : Cause :=
  if scope = .braces ∧ kind = .inlineTable then .duplicateKey key none
  else .notTable (walked ++ [key]) kind

/-- Change the table at the end of a path, given how it came to be. A dotted key may not lead into a
table that has a header. -/
def atPath (dotted : Bool) (scope : Scope) (change : Origin → Table → Except Cause Table)
    (walked : List String) (origin : Origin) : List String → Table → Except Cause Table
  | [], t => change origin t
  | key :: path, t =>
    match t.get? key with
    | none => do
      let made : Origin := if dotted then .dotted else .passage
      let below ← atPath dotted scope change (walked ++ [key]) made path []
      return t.insert key (.table made below)
    | some (.value kind _) => .error (blocked scope walked key kind)
    | some (.table made entries) => do
      if dotted && made = .header then throw (.duplicateKey key none)
      let below ← atPath dotted scope change (walked ++ [key]) made path entries
      return t.insert key (.table made below)
    | some (.tables items) => do
      let last := items.getLast?.getD []
      let last ← atPath dotted scope change (walked ++ [key]) .header path last
      return t.insert key (.tables (items.dropLast ++ [last]))

/-- Give a dotted key a value. All tables on its way are made by dotted keys. -/
def assign (scope : Scope) (path : List String) (kind : Kind) (v : Value) (t : Table) :
    Except Cause Table :=
  let key := path.getLast?.getD ""
  atPath true scope (fun origin t =>
    if path.length ≠ 1 ∧ origin ≠ .dotted then .error (.duplicateKey key none)
    else if t.contains key then .error (.duplicateKey key scope.table?)
    else .ok (t.insert key (.value kind v))) [] .header path.dropLast t

/-- Change what the last part of the path of a header stands for. It is taken already if there is no
change. -/
def atHeader (change : Option Item → Option Item) (path : List String) (t : Table) :
    Except Cause Table :=
  let key := path.getLast?.getD ""
  atPath false (.header []) (fun _ t =>
    match change (t.get? key) with
    | some item => .ok (t.insert key item)
    | none => .error (.duplicateKey key (some path.dropLast))) [] .header path.dropLast t

/-- Open the table of a header. One that was made on the way to another table can still be
opened. -/
def openTable (path : List String) (t : Table) : Except Cause Table :=
  atHeader (fun
    | none => some (.table .header [])
    | some (.table .passage entries) => some (.table .header entries)
    | some _ => none) path t

/-- Open a new item of a list of tables. -/
def openItem (path : List String) (t : Table) : Except Cause Table :=
  atHeader (fun
    | none => some (.tables [[]])
    | some (.tables items) => some (.tables (items ++ [[]]))
    | some _ => none) path t

/-- Give a dotted key a value in the table that is open, given the path of its header. -/
def assignUnder (header path : List String) (kind : Kind) (v : Value) (t : Table) :
    Except Cause Table :=
  atPath false (.header []) (fun _ t => t.assign (.header header) path kind v) [] .header header t

end Table

/-! ## Tables as values

The keys of a table come out sorted, at every depth.
-/

mutual

def Item.toValue : Item → Value
  | .value _ v => v
  | .table _ entries => .object (Entries.sorted (Item.entryValues entries))
  | .tables items => .array (Item.tableValues items) false

def Item.entryValues : List (String × Item) → List (String × Value)
  | [] => []
  | (k, i) :: es => (k, i.toValue) :: Item.entryValues es

def Item.tableValues : List (List (String × Item)) → List Value
  | [] => []
  | t :: ts => .object (Entries.sorted (Item.entryValues t)) :: Item.tableValues ts

end

/-- The values of a table, sorted by key. -/
def Table.values (t : Table) : Entries Value := Entries.sorted (Item.entryValues t)

end DataOutline.Toml
