import DataOutline.Proofs.Document.Outline
import DataOutline.Proofs.Program.Compilation

/-!
# Compiling a document

The value blocks of a document are compiled in their order. Compiling comes to an end at the first
block that is no unit itself but holds one: the blocks before it are compiled, it and those behind
it are as they were, and the first unit in it is what is reported. If there is no such block, all
blocks are compiled, and those that were none before are counted.

All the while nothing but the kinds of value blocks changes. What is kept is the shell of the
document: the document with each value block as a unit of which nothing is known. Printing looks at
no more than the shell.
-/

namespace DataOutline

variable {U : Type}

/-! ## Value blocks in a row -/

namespace ValueTree

/-- A value that is no unit itself but has one among its parts. -/
def HoldsUnit (t : ValueTree U) : Prop := t.unit? = none ∧ ∃ part ∈ t.parts, part.unit?.isSome

theorem holdsUnit_iff {t : ValueTree U} :
    t.HoldsUnit ↔ t.unit? = none ∧ ∃ part, t.firstUnit? = some part := by
  rw [HoldsUnit, ← Option.isSome_iff_exists, firstUnit?, List.find?_isSome]

/-- What a value block is turned into: a unit is kept, and any other value becomes the unit of its
program, over the same block. -/
inductive CompilesTo (unit : Program → U) : ValueTree U → ValueTree U → Prop
  | kept (block : Block) (u : U) : CompilesTo unit (.compiled block u) (.compiled block u)
  | made {t : ValueTree U} {p : Program} (own : t.unit? = none)
      (program : Program.compile t = .ok p) : CompilesTo unit t (.compiled t.block (unit p))

/-- How value blocks come out of compiling when `n` blocks were compiled in front of them. -/
inductive CompileInTurn (unit : Program → U) (n : Nat) :
    List (ValueTree U) → List (ValueTree U) → Progress → Prop
  /-- None holds a unit: all are compiled, and those that were not are counted. -/
  | done {ts ts' : List (ValueTree U)} (plain : ∀ t ∈ ts, ¬t.HoldsUnit)
      (compiled : List.Forall₂ (CompilesTo unit) ts ts') :
      CompileInTurn unit n ts ts' (.ok (n + ts.countP (·.unit?.isNone)))
  /-- The first that holds a unit: those before it are compiled, and its first unit is reported. -/
  | stopped {before before' : List (ValueTree U)} {t part : ValueTree U}
      (after : List (ValueTree U)) (plain : ∀ t ∈ before, ¬t.HoldsUnit)
      (compiled : List.Forall₂ (CompilesTo unit) before before') (holds : t.HoldsUnit)
      (first : t.firstUnit? = some part) :
      CompileInTurn unit n (before ++ t :: after) (before' ++ t :: after)
        (.error ⟨part.block.span.line⟩)

namespace CompileInTurn

variable {unit : Program → U} {n k : Nat} {ts ts' us us' : List (ValueTree U)}
  {progress : Progress}

theorem nil (unit : Program → U) (n : Nat) : CompileInTurn unit n [] [] (.ok n) :=
  .done (fun _ h ↦ absurd h List.not_mem_nil) .nil

theorem append (h : CompileInTurn unit n ts ts' (.ok k))
    (more : CompileInTurn unit k us us' progress) :
    CompileInTurn unit n (ts ++ us) (ts' ++ us') progress := by
  cases h with
  | done plain compiled =>
    cases more with
    | done plain' compiled' =>
      rw [Nat.add_assoc, ← List.countP_append]
      exact .done (List.forall_mem_append.mpr ⟨plain, plain'⟩)
        (List.rel_append compiled compiled')
    | stopped after plain' compiled' holds first =>
      rw [← List.append_assoc, ← List.append_assoc]
      exact .stopped after (List.forall_mem_append.mpr ⟨plain, plain'⟩)
        (List.rel_append compiled compiled') holds first

theorem append_stopped {e : CompileError} (h : CompileInTurn unit n ts ts' (.error e))
    (us : List (ValueTree U)) : CompileInTurn unit n (ts ++ us) (ts' ++ us) (.error e) := by
  cases h with
  | stopped after plain compiled holds first =>
    rw [List.append_assoc, List.append_assoc]
    exact .stopped (after ++ us) plain compiled holds first

theorem error_iff (h : CompileInTurn unit n ts ts' progress) :
    (∃ e, progress = .error e) ↔ ∃ t ∈ ts, t.HoldsUnit := by
  cases h with
  | done plain compiled =>
    exact iff_of_false (fun ⟨_, h⟩ ↦ nomatch h) fun ⟨t, ht, holds⟩ ↦ plain t ht holds
  | stopped after plain compiled holds first =>
    exact iff_of_true ⟨_, rfl⟩ ⟨_, List.mem_append_right _ List.mem_cons_self, holds⟩

theorem isSome_of_done (h : CompileInTurn unit n ts ts' (.ok k)) :
    ∀ t ∈ ts', t.unit?.isSome := by
  cases h with
  | done plain compiled =>
    intro t ht
    obtain ⟨t', -, hcompiles⟩ := exists_of_forall₂ compiled.flip ht
    cases hcompiles <;> rfl

end CompileInTurn

end ValueTree

/-! ## Children and sections -/

namespace Node

theorem compile_value (unit : Program → U) (count : Nat) {t : ValueTree U} (own : t.unit? = none) :
    (Node.value t).compile unit count =
      match Program.compile t with
      | .ok p => (.value (.compiled t.block (unit p)), .ok (count + 1))
      | .error e => (.value t, .error e) := by
  cases t with
  | compiled block u => exact nomatch own
  | array | object | mixin | expression => rfl

open ValueTree (CompileInTurn) in
theorem compileInTurn_value (unit : Program → U) (count : Nat) (t : ValueTree U) :
    CompileInTurn unit count [t] ((Node.value t).compile unit count).1.values
      ((Node.value t).compile unit count).2 := by
  cases hown : t.unit? with
  | some u =>
    obtain ⟨block, rfl⟩ := ValueTree.unit?_eq_some_iff.mp hown
    rw [compile]
    refine .done (List.forall_mem_singleton.mpr fun h ↦ ?_) (.cons (.kept block u) .nil)
    exact nomatch h.1
  | none =>
    have hsettles := Program.compile_settles t
    rw [compile_value unit count hown]
    cases hfirst : t.firstUnit? with
    | some part =>
      rw [hfirst] at hsettles
      rw [hsettles]
      exact .stopped [] (fun _ h ↦ absurd h List.not_mem_nil) .nil
        (ValueTree.holdsUnit_iff.mpr ⟨hown, part, hfirst⟩) hfirst
    | none =>
      rw [hfirst] at hsettles
      obtain ⟨p, hp⟩ := hsettles
      rw [hp]
      have hcount : [t].countP (·.unit?.isNone) = 1 := by
        rw [List.countP_singleton, hown]
        rfl
      rw [← hcount]
      refine .done (List.forall_mem_singleton.mpr fun h ↦ ?_) (.cons (.made hown hp) .nil)
      obtain ⟨-, part, hpart⟩ := ValueTree.holdsUnit_iff.mp h
      exact nomatch hfirst.symm.trans hpart

mutual

theorem compileInTurn (unit : Program → U) (count : Nat) : ∀ n : Node U,
    ValueTree.CompileInTurn unit count n.values (n.compile unit count).1.values
      (n.compile unit count).2
  | .subsection header children => by
    rw [compile]
    exact compileInTurnAll unit count children
  | .value t => compileInTurn_value unit count t
  | .text block => by
    rw [compile]
    · exact .nil unit count
    all_goals nofun
  | .code language block => by
    rw [compile]
    · exact .nil unit count
    all_goals nofun

theorem compileInTurnAll (unit : Program → U) (count : Nat) : ∀ ns : List (Node U),
    ValueTree.CompileInTurn unit count (valuesAll ns) (valuesAll (compileAll unit count ns).1)
      (compileAll unit count ns).2
  | [] => .nil unit count
  | n :: ns => by
    have hfirst := compileInTurn unit count n
    rw [compileAll]
    split
    · next n' count' heq =>
      rw [heq] at hfirst
      exact hfirst.append (compileInTurnAll unit count' ns)
    · next n' e heq =>
      rw [heq] at hfirst
      exact hfirst.append_stopped (valuesAll ns)

end

/-! ### What stays -/

/-- A unit of which nothing is known in place of a value. -/
def shellOf (t : ValueTree U) : ValueTree Unit := .compiled t.block ()

theorem mapValues_compile_value (unit : Program → U) (count : Nat) (t : ValueTree U) :
    ((Node.value t).compile unit count).1.mapValues shellOf = (Node.value t).mapValues shellOf := by
  cases hown : t.unit? with
  | some u =>
    obtain ⟨block, rfl⟩ := ValueTree.unit?_eq_some_iff.mp hown
    rw [compile]
  | none =>
    rw [compile_value unit count hown]
    split <;> rfl

mutual

theorem mapValues_compile (unit : Program → U) (count : Nat) :
    ∀ n : Node U, (n.compile unit count).1.mapValues shellOf = n.mapValues shellOf
  | .subsection header children => by
    rw [compile, mapValues]
    exact congrArg (Node.subsection header) (mapValuesAll_compileAll unit count children)
  | .value t => mapValues_compile_value unit count t
  | .text block => by
    rw [compile]
    all_goals nofun
  | .code language block => by
    rw [compile]
    all_goals nofun

theorem mapValuesAll_compileAll (unit : Program → U) (count : Nat) : ∀ ns : List (Node U),
    mapValuesAll shellOf (compileAll unit count ns).1 = mapValuesAll shellOf ns
  | [] => rfl
  | n :: ns => by
    have hfirst := mapValues_compile unit count n
    rw [compileAll, mapValuesAll, ← hfirst]
    split
    · next n' count' heq =>
      rw [heq, ← mapValuesAll_compileAll unit count' ns]
      rfl
    · next n' e heq =>
      rw [heq]
      rfl

end

/-! ### Compiling again -/

mutual

theorem compile_eq_self (unit : Program → U) (count : Nat) :
    ∀ n : Node U, (∀ t ∈ n.values, t.unit?.isSome) → n.compile unit count = (n, .ok count)
  | .subsection header children, h => by
    rw [compile, compileAll_eq_self unit count children h]
  | .value t, h => by
    obtain ⟨u, hu⟩ := Option.isSome_iff_exists.mp (h t List.mem_cons_self)
    obtain ⟨block, rfl⟩ := ValueTree.unit?_eq_some_iff.mp hu
    rw [compile]
  | .text block, _ => by
    rw [compile]
    all_goals nofun
  | .code language block, _ => by
    rw [compile]
    all_goals nofun

theorem compileAll_eq_self (unit : Program → U) (count : Nat) :
    ∀ ns : List (Node U), (∀ t ∈ valuesAll ns, t.unit?.isSome) →
      compileAll unit count ns = (ns, .ok count)
  | [], _ => rfl
  | n :: ns, h => by
    obtain ⟨hn, hns⟩ := List.forall_mem_append.mp h
    rw [compileAll, compile_eq_self unit count n hn]
    simp only [compileAll_eq_self unit count ns hns]

end

end Node

namespace Section

/-- A section with each value block as a unit of which nothing is known. -/
def shell (s : Section U) : Section Unit := s.mapValues Node.shellOf

/-- Printing looks at no more than the shell. -/
theorem print_shell (s : Section U) : s.shell.print = s.print :=
  print_mapValues (f := Node.shellOf) (fun _ ↦ rfl) s

/-- No value of a document that was read is a unit or holds one. -/
theorem not_holdsUnit_of_parse {source : String} {doc : Section U}
    (h : Document.parse source = .ok doc) : ∀ t ∈ doc.values, ¬t.HoldsUnit := by
  intro t ht
  obtain ⟨items, tiles, reads⟩ := Document.exists_tiles_of_parse h
  obtain ⟨n, block, hblock, hread⟩ := (tiles.mem_values_iff reads).mp ht
  have hparts := (Document.readValue_inside n hblock.nonempty).2 t hread
  rintro ⟨-, part, hpart, hunit⟩
  rw [(hparts part hpart).1] at hunit
  exact nomatch hunit

/-- **Compiling a document changes the kinds of its value blocks, up to the first that holds a
unit.** An error is the answer exactly if there is such a block. Whatever the answer is, the shell
of the document stays and so does its text. When all blocks are compiled there is nothing left to
do, and this is how it comes out for every document that was read. -/
theorem compile_changes_kinds (unit : Program → U) (s : Section U) :
    ValueTree.CompileInTurn unit 0 s.values (s.compile unit).1.values (s.compile unit).2 ∧
      ((∃ e, (s.compile unit).2 = .error e) ↔ ∃ t ∈ s.values, t.HoldsUnit) ∧
      (s.compile unit).1.shell = s.shell ∧ (s.compile unit).1.print = s.print ∧
      (∀ n, (s.compile unit).2 = .ok n → ∀ again : Program → U,
        (s.compile unit).1.compile again = ((s.compile unit).1, .ok 0)) ∧
      ∀ source, Document.parse source = .ok s → ∃ n, (s.compile unit).2 = .ok n := by
  have hturn : ValueTree.CompileInTurn unit 0 s.values (s.compile unit).1.values
      (s.compile unit).2 := Node.compileInTurnAll unit 0 s.children
  have hshell : (s.compile unit).1.shell = s.shell := by
    rw [shell, shell, mapValues, mapValues, ← Node.mapValuesAll_eq_map, ← Node.mapValuesAll_eq_map]
    exact congrArg (Section.mk s.header) (Node.mapValuesAll_compileAll unit 0 s.children)
  refine ⟨hturn, hturn.error_iff, hshell, ?_, fun n hn again ↦ ?_, fun source hsource ↦ ?_⟩
  · rw [← print_shell, hshell, print_shell]
  · rw [hn] at hturn
    rw [compile, Node.compileAll_eq_self again 0 _ hturn.isSome_of_done]
  · cases hprogress : (s.compile unit).2 with
    | ok n => exact ⟨n, rfl⟩
    | error e =>
      obtain ⟨t, ht, holds⟩ := hturn.error_iff.mp ⟨e, hprogress⟩
      exact absurd holds (not_holdsUnit_of_parse hsource t ht)

/-- A value that is not compiled, a unit, a value that holds one two levels down, and another
value. -/
def halfway : Section Unit :=
  ⟨⟨"a", 1, 1, "# a"⟩,
    [.value (.expression ⟨⟨2, 1⟩, "\t1"⟩ "1"),
      .subsection ⟨"b", 2, 3, "## b"⟩
        [.value (.compiled ⟨⟨4, 1⟩, "\t2"⟩ ()), .text ⟨⟨5, 1⟩, "text"⟩,
          .value (.array ⟨⟨6, 2⟩, "\t*\t*\t3\n\t*\t4"⟩ false
            [.array ⟨⟨6, 1⟩, "*\t3"⟩ false [.compiled ⟨⟨6, 1⟩, "3"⟩ ()],
              .compiled ⟨⟨7, 1⟩, "4"⟩ ()]),
          .value (.expression ⟨⟨9, 1⟩, "\t5"⟩ "5")]]⟩

theorem compile_changes_kinds_halfway :
    (halfway.compile fun _ ↦ ()).2 = .error ⟨6⟩ ∧
      (halfway.compile fun _ ↦ ()).1.values.map (·.kindName)
        = ["compiled", "compiled", "array", "expression"] ∧
      (∃ t ∈ halfway.values, t.HoldsUnit) ∧
      (halfway.compile fun _ ↦ ()).1.print = halfway.print := by
  obtain ⟨-, herror, -, hprint, -⟩ := compile_changes_kinds (fun _ ↦ ()) halfway
  exact ⟨rfl, rfl, herror.mp ⟨⟨6⟩, rfl⟩, hprint⟩

end Section

end DataOutline
