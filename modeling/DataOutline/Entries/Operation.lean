import DataOutline.Entries

/-!
# Operations on entries

Entries are kept in a plain list, and all that is done to them goes through a name: the first entry
of this name is looked for, and its value is read, written or taken out at its place. What is done
to entries one after another is a list of operations, each with an answer.
-/

namespace DataOutline.Entries

variable {α : Type}

/-- The place of a name. -/
def position? (key : String) (es : Entries α) : Option Nat := es.findIdx? fun e => e.1 = key

/-- Write a value to the place of a name, if the name is present. -/
def assign? (key : String) (value : α) (es : Entries α) : Option (Entries α) :=
  (es.position? key).map fun i => es.set i (key, value)

/-- Take a name out: the value that it had, and what is left. -/
def remove? (key : String) (es : Entries α) : Option (α × Entries α) := do
  let i ← es.position? key
  let (_, value) ← es[i]?
  return (value, es.eraseIdx i)

/-- An operation, through a name. To assign is to write through a reference to the value, which
there is only if the name is present. -/
inductive Operation (α : Type) where
  | insert (key : String) (value : α)
  | remove (key : String)
  | assign (key : String) (value : α)
  | get (key : String)
  | has (key : String)

/-- What an operation answers: nothing, what the value of the name is or was, or whether the name is
present. -/
inductive Answer (α : Type) where
  | done
  | found (value : Option α)
  | present (b : Bool)

/-- The answer of an operation, and the entries afterwards. -/
def perform (es : Entries α) : Operation α → Answer α × Entries α
  | .insert k v => (.done, es.insert k v)
  | .remove k =>
    match es.remove? k with
    | some (v, rest) => (.found (some v), rest)
    | none => (.found none, es)
  | .assign k v =>
    match es.assign? k v with
    | some es' => (.present true, es')
    | none => (.present false, es)
  | .get k => (.found (es.get? k), es)
  | .has k => (.present (es.contains k), es)

def after (es : Entries α) (ops : List (Operation α)) : Entries α :=
  ops.foldl (fun es op => (es.perform op).2) es

end DataOutline.Entries
