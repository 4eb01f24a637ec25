import DataOutline.Program.Basic
import DataOutline.Proofs.Document.Parts
import DataOutline.Proofs.Result

/-!
# Compiling values

Compiling goes over a value and keeps its shape: the children of a value are compiled one by one,
up to the first that holds a compiled unit, and a value without such units compiles.
-/

namespace DataOutline

variable {U : Type}

/-! ## Compiled units in values -/

namespace ValueTree

/-- The first compiled unit among a value and its parts. -/
def firstUnit? (t : ValueTree U) : Option (ValueTree U) := t.parts.find? (·.unit?.isSome)

theorem unit?_eq_some_iff {t : ValueTree U} {u : U} :
    t.unit? = some u ↔ ∃ block, t = .compiled block u := by
  cases t <;> simp [unit?]

theorem firstUnit?_of_unit {t : ValueTree U} (own : t.unit?.isSome) : t.firstUnit? = some t := by
  rw [firstUnit?, parts_eq, List.find?_cons, own]

theorem firstUnit?_of_children {t : ValueTree U} (own : t.unit? = none) :
    t.firstUnit? = t.children.findSome? firstUnit? := by
  have hself : t.unit?.isSome = false := by rw [own]; rfl
  rw [firstUnit?, parts_eq, List.find?_cons, hself, List.find?_flatMap]
  rfl

theorem firstUnit?_eq_none_iff {t : ValueTree U} :
    t.firstUnit? = none ↔ ∀ part ∈ t.parts, part.unit? = none := by
  rw [firstUnit?, List.find?_eq_none]
  simp

end ValueTree

namespace Program

open Mixin (Path)

/-! ## Programs of values -/

theorem compileAll_eq_mapM (ts : List (ValueTree U)) : compileAll ts = ts.mapM compile := by
  induction ts with
  | nil => rfl
  | cons t ts ih => rw [compileAll, List.mapM_cons, ih]

theorem compileEntries_eq (es : List (String × ValueTree U)) :
    compileEntries es = (es.map Prod.fst).zip <$> (es.map Prod.snd).mapM compile := by
  induction es with
  | nil => rfl
  | cons e es ih =>
    rw [compileEntries, List.map_cons, List.map_cons, List.mapM_cons, map_bind, ih]
    refine bind_congr fun p ↦ ?_
    cases (es.map Prod.snd).mapM compile <;> rfl

theorem compileAdditions_eq (es : List (String × ValueTree U)) :
    compileAdditions es
      = (es.map fun e ↦ Path.ofText e.1).zip <$> (es.map Prod.snd).mapM compile := by
  induction es with
  | nil => rfl
  | cons e es ih =>
    rw [compileAdditions, List.map_cons, List.map_cons, List.mapM_cons, map_bind, ih]
    refine bind_congr fun p ↦ ?_
    cases (es.map Prod.snd).mapM compile <;> rfl

/-- The program of a value: what is kept of the value, and the programs of its children. -/
inductive CompilesAs : ValueTree U → Program → Prop
  | array {block : Block} {unordered : Bool} {elements : List (ValueTree U)} {ps : List Program}
      (parts : List.Forall₂ (fun t p ↦ compile t = .ok p) elements ps) :
      CompilesAs (.array block unordered elements) (.array unordered ps)
  | object {block : Block} {entries : List (String × ValueTree U)} {ps : List Program}
      (parts : List.Forall₂ (fun t p ↦ compile t = .ok p) (entries.map Prod.snd) ps) :
      CompilesAs (.object block entries) (.object ((entries.map Prod.fst).zip ps))
  | mixin {block : Block} {base : String} {removals : List String}
      {additions : List (String × ValueTree U)} {ps : List Program}
      (parts : List.Forall₂ (fun t p ↦ compile t = .ok p) (additions.map Prod.snd) ps) :
      CompilesAs (.mixin block base removals additions)
        (.mixin block.span base (removals.map Path.ofText)
          ((additions.map fun e ↦ Path.ofText e.1).zip ps))
  | expression (block : Block) (code : String) :
      CompilesAs (.expression block code) (.expression block.span code)

theorem compilesAs_of_compile {t : ValueTree U} {p : Program} (h : compile t = .ok p) :
    CompilesAs t p := by
  cases t with
  | array block unordered elements =>
    rw [compile, compileAll_eq_mapM] at h
    obtain ⟨ps, hps, rfl⟩ := map_eq_ok_iff.mp h
    exact .array (mapM_eq_ok_iff.mp hps)
  | object block entries =>
    rw [compile, compileEntries_eq] at h
    obtain ⟨_, hes, rfl⟩ := map_eq_ok_iff.mp h
    obtain ⟨ps, hps, rfl⟩ := map_eq_ok_iff.mp hes
    exact .object (mapM_eq_ok_iff.mp hps)
  | mixin block base removals additions =>
    rw [compile, compileAdditions_eq] at h
    obtain ⟨_, hes, rfl⟩ := map_eq_ok_iff.mp h
    obtain ⟨ps, hps, rfl⟩ := map_eq_ok_iff.mp hes
    exact .mixin (mapM_eq_ok_iff.mp hps)
  | expression block code =>
    cases h
    exact .expression block code
  | compiled block unit => exact nomatch h

theorem mem_of_mem_map_snd_zip {α β : Type} {names : List α} {parts : List β} {part : β}
    (h : part ∈ (names.zip parts).map Prod.snd) : part ∈ parts := by
  obtain ⟨e, he, rfl⟩ := List.mem_map.mp h
  exact (List.of_mem_zip he).2

/-- Unless a value is a unit itself, its children are compiled and put together. -/
theorem exists_compile_eq_map {t : ValueTree U} (own : t.unit? = none) :
    ∃ f : List Program → Program, compile t = f <$> t.children.mapM compile := by
  cases t with
  | array block unordered elements =>
    rw [compile, compileAll_eq_mapM]
    exact ⟨_, rfl⟩
  | object block entries =>
    rw [compile, compileEntries_eq, Functor.map_map]
    exact ⟨_, rfl⟩
  | mixin block base removals additions =>
    rw [compile, compileAdditions_eq, Functor.map_map]
    exact ⟨_, rfl⟩
  | expression block code => exact ⟨fun _ ↦ .expression block.span code, rfl⟩
  | compiled block u => exact nomatch own

/-- What becomes of a value whose first compiled unit is known: it does not compile, and the line
of the unit is reported. Without a unit it compiles. -/
theorem compile_settles (t : ValueTree U) :
    match t.firstUnit? with
    | some unit => compile t = .error ⟨unit.block.span.line⟩
    | none => ∃ p, compile t = .ok p := by
  induction t using ValueTree.childInduction with
  | step t ih =>
    cases hown : t.unit? with
    | some u =>
      obtain ⟨block, u, rfl⟩ := ValueTree.unit?_eq_some_iff.mp hown
      rw [ValueTree.firstUnit?_of_unit rfl, compile]
      rfl
    | none =>
      obtain ⟨f, hf⟩ := exists_compile_eq_map hown
      rw [ValueTree.firstUnit?_of_children hown, hf]
      split
      · next unit hunit =>
        obtain ⟨before, child, after, hsplit, hchild, hbefore⟩ :=
          List.findSome?_eq_some_iff.mp hunit
        rw [map_eq_error_iff, mapM_eq_error_iff]
        refine ⟨before, child, after, hsplit, fun other hother ↦ ?_, ?_⟩
        · have := ih other (by rw [hsplit]; simp [hother])
          rwa [hbefore other hother] at this
        · have := ih child (by rw [hsplit]; simp)
          rwa [hchild] at this
      · next hnone =>
        rw [List.findSome?_eq_none_iff] at hnone
        cases hparts : t.children.mapM compile with
        | ok ps => exact ⟨f ps, rfl⟩
        | error e =>
          obtain ⟨before, child, after, hsplit, -, hchild⟩ := mapM_eq_error_iff.mp hparts
          have hmem : child ∈ t.children := by rw [hsplit]; simp
          have := ih child hmem
          rw [hnone child hmem] at this
          obtain ⟨p, hp⟩ := this
          exact nomatch hchild.symm.trans hp

/-- **A value without units that are compiled already compiles.** -/
theorem exists_compile {t : ValueTree U} (plain : ∀ part ∈ t.parts, part.unit? = none) :
    ∃ p, compile t = .ok p := by
  have hsettles := compile_settles t
  rwa [ValueTree.firstUnit?_eq_none_iff.mpr plain] at hsettles

end Program

end DataOutline
