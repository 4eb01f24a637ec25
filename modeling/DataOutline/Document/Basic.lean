/-!
# Documents

A document is a tree of sections. Each section has a header and, in the order of the source, blocks
of text, fenced code and values, and the sections below it. A value is itself a tree: of arrays,
objects, mixins and expressions, and of units that can be run. `U` is the type of these units; a
document that comes from a source text has none.
-/

namespace DataOutline

/-- Where something stands in a source: its first line, counted from one, and how many lines it
takes. -/
structure Span where
  line : Nat
  size : Nat
deriving DecidableEq, Repr

/-- Lines of a source: where they stand, and the text that is kept of them. -/
structure Block where
  span : Span
  content : String
deriving DecidableEq, Repr

structure Header where
  /-- What follows the number signs, without blanks around it. -/
  name : String
  /-- The number of number signs. -/
  level : Nat
  line : Nat
  /-- The whole line. -/
  content : String
deriving DecidableEq, Repr

/-- A value, or a part of one. -/
inductive ValueTree (U : Type) where
  | array (block : Block) (unordered : Bool) (elements : List (ValueTree U))
  | object (block : Block) (entries : List (String × ValueTree U))
  /-- A base, dotted paths to remove from it, and values to add at dotted paths. -/
  | mixin (block : Block) (base : String) (removals : List String)
      (additions : List (String × ValueTree U))
  | expression (block : Block) (code : String)
  | compiled (block : Block) (unit : U)

/-- A child of a section. -/
inductive Node (U : Type) where
  | subsection (header : Header) (children : List (Node U))
  | text (block : Block)
  /-- Fenced code. The block counts the fences, and its content does not hold them. -/
  | code (language : String) (block : Block)
  | value (tree : ValueTree U)

/-- A section: the root of a document or a part of one. -/
structure Section (U : Type) where
  header : Header
  children : List (Node U)

variable {U : Type}

def ValueTree.block : ValueTree U → Block
  | .array block .. | .object block _ | .mixin block .. | .expression block _
  | .compiled block _ => block

/-- The same value over other lines. -/
def ValueTree.withBlock (block : Block) : ValueTree U → ValueTree U
  | .array _ unordered elements => .array block unordered elements
  | .object _ entries => .object block entries
  | .mixin _ base removals additions => .mixin block base removals additions
  | .expression _ code => .expression block code
  | .compiled _ unit => .compiled block unit

def ValueTree.kindName : ValueTree U → String
  | .array .. => "array"
  | .object .. => "object"
  | .mixin .. => "mixin"
  | .expression .. => "expression"
  | .compiled .. => "compiled"

/-- The unit of a value that is one. -/
def ValueTree.unit? : ValueTree U → Option U
  | .compiled _ unit => some unit
  | _ => none

def Node.line : Node U → Nat
  | .subsection header _ => header.line
  | .text block => block.span.line
  | .code _ block => block.span.line
  | .value tree => tree.block.span.line

mutual

/-- The value blocks of a child, in the order of the source. -/
def Node.values : Node U → List (ValueTree U)
  | .subsection _ children => Node.valuesAll children
  | .value tree => [tree]
  | .text _ | .code .. => []

def Node.valuesAll : List (Node U) → List (ValueTree U)
  | [] => []
  | n :: ns => n.values ++ Node.valuesAll ns

end

mutual

/-- The first section of a name in a child, the child itself before those below it. -/
def Node.findSection (name : String) : Node U → Option (Section U)
  | .subsection header children =>
    if header.name = name then some ⟨header, children⟩ else Node.findSectionIn name children
  | .text _ | .code .. | .value _ => none

def Node.findSectionIn (name : String) : List (Node U) → Option (Section U)
  | [] => none
  | n :: ns => (n.findSection name).or (Node.findSectionIn name ns)

end

namespace Section

/-- The value blocks of a section and of those below it, in the order of the source. -/
def values (s : Section U) : List (ValueTree U) := Node.valuesAll s.children

/-- The headers of the sections right below a section. -/
def subsections (s : Section U) : List Header :=
  s.children.filterMap fun
    | .subsection header _ => some header
    | _ => none

/-- The first section of a name, this one or one below it, outer ones before inner ones. -/
def find? (name : String) (s : Section U) : Option (Section U) :=
  if s.header.name = name then some s else Node.findSectionIn name s.children

end Section

end DataOutline
