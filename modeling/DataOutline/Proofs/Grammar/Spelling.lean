import DataOutline.Grammar.Value
import DataOutline.Proofs.Document.Span

/-!
# Spelling a value

How a value is written down as lines. A part stands behind what introduces it, be it a marker, a
name or the header of a mixin: its first line may go on the same line and the others below it, or
all of them go below, and lines below are indented by one tab more. A name can always be written in
quotes, and without them if the grammar reads it as a key. Nothing else is left to choose, and every
value that lines can express has a spelling.
-/

namespace DataOutline

open Text Grammar

/-! ## Places -/

/-- A line one level further in. -/
def indent (line : Line) : Line := '\t' :: line

/-- Lines behind what introduces them: the first of them on the same line, behind a gap, and the
others below, or all of them below. -/
inductive Places (lead gap : Line) : List Line → List Line → Prop
  | inline (l : Line) (ls : List Line) :
      Places lead gap (l :: ls) ((lead ++ (gap ++ l)) :: ls.map indent)
  | below (ls : List Line) : Places lead gap ls (lead :: ls.map indent)

/-! ## Names -/

/-- A character of a name in quotes. -/
def escapeName : Char → Line
  | '"' => ['\\', '"']
  | '\\' => ['\\', '\\']
  | '\n' => ['\\', 'n']
  | '\r' => ['\\', 'r']
  | '\t' => ['\\', 't']
  | c => [c]

def quoteName (name : List Char) : Line := '"' :: (name.flatMap escapeName ++ ['"'])

/-- The spellings of a name: in quotes, or as it is if it is a key of the form, with a question mark
behind it or without one. -/
inductive SpellsName (form : KeyForm) : List Char → Line → Prop
  | quoted (name : List Char) : SpellsName form name (quoteName name)
  | bare {name : List Char} (admits : form.admits name = true) : SpellsName form name name
  | optional {name : List Char} (admits : form.admits name = true) :
      SpellsName form (name ++ ['?']) (name ++ ['?'])

/-! ## Headers of mixins -/

def clauseWord : Clause → Line
  | .adding => ['w', 'i', 't', 'h']
  | .removing => ['w', 'i', 't', 'h', 'o', 'u', 't']

/-- Paths with commas between them. -/
def pathList (paths : List String) : Line := [',', ' '].intercalate (paths.map String.toList)

def addingHeader (base : String) : Line := base.toList ++ (' ' :: clauseWord .adding)

def removingHeader (base : String) (removals : List String) : Line :=
  base.toList ++ (' ' :: (clauseWord .removing ++ (' ' :: pathList removals)))

def combinedHeader (base : String) (removals : List String) : Line :=
  removingHeader base removals ++ (';' :: ' ' :: clauseWord .adding)

/-! ## Values -/

variable {U : Type}

def markerOf (unordered : Bool) : Line := [if unordered then '@' else '*', '\t']

mutual

/-- The spellings of a value. -/
inductive Spells : ValueTree U → List Line → Prop
  | expression (block : Block) (code : String) : Spells (.expression block code) [code.toList]
  | array (block : Block) {unordered : Bool} {elements : List (ValueTree U)} {ls : List Line}
      (each : SpellsElements unordered elements ls) : Spells (.array block unordered elements) ls
  | object (block : Block) {es : List (String × ValueTree U)} {ls : List Line}
      (each : SpellsEntries .word es ls) : Spells (.object block es) ls
  | adding (block : Block) {base : String} {es : List (String × ValueTree U)}
      {inner ls : List Line} (each : SpellsEntries .path es inner)
      (placed : Places (addingHeader base) [' '] inner ls) : Spells (.mixin block base [] es) ls
  | removing (block : Block) (base : String) {removals : List String} (removes : removals ≠ []) :
      Spells (.mixin block base removals []) [removingHeader base removals]
  | combined (block : Block) {base : String} {removals : List String}
      {es : List (String × ValueTree U)} {inner ls : List Line} (removes : removals ≠ [])
      (adds : es ≠ []) (each : SpellsEntries .path es inner)
      (placed : Places (combinedHeader base removals) [' '] inner ls) :
      Spells (.mixin block base removals es) ls

inductive SpellsElements : Bool → List (ValueTree U) → List Line → Prop
  | nil (unordered : Bool) : SpellsElements unordered [] []
  | cons {unordered : Bool} {t : ValueTree U} {ts : List (ValueTree U)}
      {inner here below : List Line} (value : Spells t inner)
      (placed : Places (markerOf unordered) [] inner here)
      (more : SpellsElements unordered ts below) :
      SpellsElements unordered (t :: ts) (here ++ below)

inductive SpellsEntries : KeyForm → List (String × ValueTree U) → List Line → Prop
  | nil (form : KeyForm) : SpellsEntries form [] []
  | cons {form : KeyForm} {name : String} {t : ValueTree U} {es : List (String × ValueTree U)}
      {text : Line} {inner here below : List Line} (named : SpellsName form name.toList text)
      (value : Spells t inner) (placed : Places (text ++ [':']) [' '] inner here)
      (more : SpellsEntries form es below) : SpellsEntries form ((name, t) :: es) (here ++ below)

end

/-! ## What can be expressed -/

/-- The code of an expression: one line without blanks around it that begins neither a comment nor
an array, an object or a mixin. -/
structure IsCode (code : Line) : Prop where
  nonempty : code ≠ []
  oneLine : '\n' ∉ code
  first : ∀ c ∈ code.head?, isBlank c = false
  last : ∀ c ∈ code.getLast?, isBlank c = false
  noComment : ¬['/', '/'] <+: code
  noMarker : marker? code = none
  noKey : key? .word code = none
  noMixin : mixin? code = none

/-- The base of a mixin: a path that does not begin with a digit. -/
structure IsBase (base : Line) : Prop where
  path : isPath base = true
  first : ∀ c ∈ base.head?, isDigit c = false

/-- Values that lines can express: arrays and objects that are not empty, whatever the names,
mixins that change their base, and expressions. -/
inductive Expressible : ValueTree U → Prop
  | array (block : Block) (unordered : Bool) {elements : List (ValueTree U)}
      (nonempty : elements ≠ [])
      (each : ∀ t ∈ elements, Expressible t) : Expressible (.array block unordered elements)
  | object (block : Block) {es : List (String × ValueTree U)} (nonempty : es ≠ [])
      (each : ∀ e ∈ es, Expressible e.2) : Expressible (.object block es)
  | mixin (block : Block) {base : String} {removals : List String}
      {es : List (String × ValueTree U)} (isBase : IsBase base.toList)
      (paths : ∀ path ∈ removals, isPath path.toList = true) (distinct : removals.Nodup)
      (changes : removals ≠ [] ∨ es ≠ []) (each : ∀ e ∈ es, Expressible e.2) :
      Expressible (.mixin block base removals es)
  | expression (block : Block) {code : String} (isCode : IsCode code.toList) :
      Expressible (.expression block code)

theorem exists_spellsElements {unordered : Bool} {ts : List (ValueTree U)}
    (h : ∀ t ∈ ts, ∃ ls, Spells t ls) : ∃ ls, SpellsElements unordered ts ls := by
  induction ts with
  | nil => exact ⟨[], .nil unordered⟩
  | cons t ts ih =>
    obtain ⟨⟨inner, hinner⟩, hts⟩ := List.forall_mem_cons.mp h
    obtain ⟨below, hbelow⟩ := ih hts
    exact ⟨_, .cons hinner (.below inner) hbelow⟩

theorem exists_spellsEntries {form : KeyForm} {es : List (String × ValueTree U)}
    (h : ∀ e ∈ es, ∃ ls, Spells e.2 ls) : ∃ ls, SpellsEntries form es ls := by
  induction es with
  | nil => exact ⟨[], .nil form⟩
  | cons e es ih =>
    obtain ⟨⟨inner, hinner⟩, hes⟩ := List.forall_mem_cons.mp h
    obtain ⟨below, hbelow⟩ := ih hes
    exact ⟨_, .cons (.quoted _) hinner (.below inner) hbelow⟩

theorem Expressible.exists_spells {t : ValueTree U} (h : Expressible t) : ∃ ls, Spells t ls := by
  induction t using ValueTree.induction with
  | array block unordered elements ih =>
    cases h with
    | array _ _ nonempty each =>
      obtain ⟨ls, hls⟩ := exists_spellsElements fun t ht ↦ ih t ht (each t ht)
      exact ⟨ls, .array block hls⟩
  | object block es ih =>
    cases h with
    | object _ nonempty each =>
      obtain ⟨ls, hls⟩ := exists_spellsEntries fun e he ↦ ih e he (each e he)
      exact ⟨ls, .object block hls⟩
  | mixin block base removals es ih =>
    cases h with
    | mixin _ isBase paths distinct changes each =>
      obtain ⟨ls, hls⟩ := exists_spellsEntries fun e he ↦ ih e he (each e he)
      rcases eq_or_ne removals [] with rfl | hremovals
      · exact ⟨_, .adding block hls (.below ls)⟩
      · rcases eq_or_ne es [] with rfl | hes
        · exact ⟨_, .removing block base hremovals⟩
        · exact ⟨_, .combined block hremovals hes hls (.below ls)⟩
  | expression block code => exact ⟨_, .expression block code⟩
  | compiled block unit => exact nomatch h

end DataOutline
