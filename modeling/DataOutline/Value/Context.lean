import DataOutline.Value.Basic

/-!
# Contexts

The names that expressions and mixin bases can refer to. Later bindings of a name win over earlier
ones, and laying one context over another keeps the names of both.
-/

namespace DataOutline

/-- Named values that a run can see. -/
structure Context where
  bindings : Entries Value := []

namespace Context

def empty : Context := {}

def get? (c : Context) (name : String) : Option Value := c.bindings.get? name

def contains (c : Context) (name : String) : Bool := c.bindings.contains name

def insert (c : Context) (name : String) (value : Value) : Context :=
  ⟨c.bindings.insert name value⟩

/-- Lay `upper` over `c`: where both bind a name, `upper` wins. -/
def extend (c upper : Context) : Context :=
  ⟨upper.bindings.foldl (fun m (name, value) => m.insert name value) c.bindings⟩

def size (c : Context) : Nat := c.bindings.length

/-- The names, in no order that matters. -/
def names (c : Context) : List String := c.bindings.keys

/-- The context that binds the names of a list, later bindings winning. -/
def ofList (es : List (String × Value)) : Context := ⟨Entries.ofList es⟩

end Context

end DataOutline
