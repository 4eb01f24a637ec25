import DataOutline.Proofs.Document.Compiling
import DataOutline.Proofs.Document.Pointing

/-!
# The sections of a document by name

The first section of a name is the first one in preorder, and its values stand together among those
of the document. None of this depends on what the values are, so compiling all of them changes
neither which section it is nor where its values are.
-/

namespace DataOutline

variable {U V : Type}

/-! ## The first section of a name -/

namespace Node

mutual

theorem findSection_eq (name : String) : ∀ n : Node U,
    n.findSection name = n.sections.find? fun s ↦ s.header.name = name
  | .subsection header children => by
    rw [findSection, sections, List.find?_cons, findSectionIn_eq name children]
    by_cases h : header.name = name <;> simp [h]
  | .text _ | .code _ _ | .value _ => rfl

theorem findSectionIn_eq (name : String) : ∀ ns : List (Node U),
    findSectionIn name ns = (sectionsAll ns).find? fun s ↦ s.header.name = name
  | [] => rfl
  | n :: ns => by
    rw [findSectionIn, sectionsAll, List.find?_append, findSection_eq name n,
      findSectionIn_eq name ns]

end

/-! ## Changed values -/

variable (f : ValueTree U → ValueTree V)

mutual

theorem sections_mapValues : ∀ n : Node U,
    (n.mapValues f).sections = n.sections.map (Section.mapValues f)
  | .subsection header children => by
    rw [mapValues, sections, sections, List.map_cons, sectionsAll_mapValuesAll children,
      mapValuesAll_eq_map]
    rfl
  | .text _ | .code _ _ | .value _ => rfl

theorem sectionsAll_mapValuesAll : ∀ ns : List (Node U),
    sectionsAll (mapValuesAll f ns) = (sectionsAll ns).map (Section.mapValues f)
  | [] => rfl
  | n :: ns => by
    rw [mapValuesAll, sectionsAll, sectionsAll, List.map_append, sections_mapValues n,
      sectionsAll_mapValuesAll ns]

end

mutual

theorem values_mapValues : ∀ n : Node U, (n.mapValues f).values = n.values.map f
  | .subsection _ children => valuesAll_mapValuesAll children
  | .text _ | .code _ _ | .value _ => rfl

theorem valuesAll_mapValuesAll : ∀ ns : List (Node U),
    valuesAll (mapValuesAll f ns) = (valuesAll ns).map f
  | [] => rfl
  | n :: ns => by
    rw [mapValuesAll, valuesAll, valuesAll, List.map_append, values_mapValues n,
      valuesAll_mapValuesAll ns]

end

end Node

namespace Section

theorem find?_eq (name : String) (s : Section U) :
    s.find? name = s.sections.find? fun s ↦ s.header.name = name := by
  rw [find?, sections, List.find?_cons, Node.findSectionIn_eq]
  by_cases h : s.header.name = name <;> simp [h]

theorem values_infix {s doc : Section U} (h : s ∈ doc.sections) : s.values <:+: doc.values := by
  have hentries : s.entries <:+: doc.entries := entries_infix h
  rw [values_eq, values_eq]
  exact hentries.filterMap _

variable (f : ValueTree U → ValueTree V) (s : Section U)

theorem sections_mapValues : (s.mapValues f).sections = s.sections.map (mapValues f) := by
  rw [sections, sections, mapValues, ← Node.mapValuesAll_eq_map, Node.sectionsAll_mapValuesAll,
    Node.mapValuesAll_eq_map]
  rfl

theorem values_mapValues : (s.mapValues f).values = s.values.map f := by
  rw [values, mapValues, ← Node.mapValuesAll_eq_map, Node.valuesAll_mapValuesAll]
  rfl

/-- The first section of a name is found in the same place, whatever becomes of the values. -/
theorem find?_mapValues (name : String) :
    (s.mapValues f).find? name = (s.find? name).map (mapValues f) := by
  rw [find?_eq, find?_eq, sections_mapValues, List.find?_map]
  rfl

end Section

/-! ## Compiling all values -/

/-- A value as the unit of its program, if it has one. -/
def ValueTree.unitOf (unit : Program → U) (t : ValueTree U) : ValueTree U :=
  match Program.compile t with
  | .ok p => .compiled t.block (unit p)
  | .error _ => t

namespace Node

variable (unit : Program → U)

mutual

/-- Where every value has a program, all become units, and all are counted. -/
theorem compile_eq_mapValues (count : Nat) : ∀ n : Node U,
    (∀ t ∈ n.values, ∃ p, Program.compile t = .ok p) →
      n.compile unit count =
        (n.mapValues (ValueTree.unitOf unit), .ok (count + n.values.length))
  | .subsection header children, h => by
    rw [compile, compileAll_eq_mapValues count children h, mapValues, values]
  | .value t, h => by
    obtain ⟨p, hp⟩ := h t List.mem_cons_self
    have hown : t.unit? = none := by
      cases t with
      | compiled => exact nomatch hp
      | _ => rfl
    rw [compile_value unit count hown, mapValues, ValueTree.unitOf, hp]
    rfl
  | .text _, _ => by rw [compile, mapValues] <;> first | rfl | nofun
  | .code _ _, _ => by rw [compile, mapValues] <;> first | rfl | nofun

theorem compileAll_eq_mapValues (count : Nat) : ∀ ns : List (Node U),
    (∀ t ∈ valuesAll ns, ∃ p, Program.compile t = .ok p) →
      compileAll unit count ns =
        (mapValuesAll (ValueTree.unitOf unit) ns, .ok (count + (valuesAll ns).length))
  | [], _ => rfl
  | n :: ns, h => by
    obtain ⟨hn, hns⟩ := List.forall_mem_append.mp h
    rw [compileAll, compile_eq_mapValues count n hn]
    simp only [compileAll_eq_mapValues (count + n.values.length) ns hns]
    rw [mapValuesAll, valuesAll, List.length_append, Nat.add_assoc]

end

end Node

namespace Section

theorem exists_program_of_parse {source : String} {doc : Section U}
    (h : Document.parse source = .ok doc) : ∀ t ∈ doc.values, ∃ p, Program.compile t = .ok p := by
  intro t ht
  obtain ⟨-, p, hp, -⟩ := Document.failsOnly_inside h ht
  exact ⟨p, hp⟩

/-- **Compiling a document that was read** turns all its values into the units of their programs. -/
theorem compile_of_parse {source : String} {doc : Section U} (unit : Program → U)
    (h : Document.parse source = .ok doc) :
    doc.compile unit = (doc.mapValues (ValueTree.unitOf unit), .ok doc.values.length) := by
  rw [compile, Node.compileAll_eq_mapValues unit 0 doc.children (exists_program_of_parse h),
    Node.mapValuesAll_eq_map, Nat.zero_add]
  rfl

end Section

end DataOutline
