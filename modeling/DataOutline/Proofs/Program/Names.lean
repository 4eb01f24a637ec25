import DataOutline.Expression.Evaluation
import DataOutline.Proofs.Entries
import DataOutline.Proofs.Program.Compilation
import DataOutline.Proofs.Program.Execution

/-!
# The names that a value uses

Evaluating an expression looks up its variables in the context, and a mixin looks up the name that
its base begins with; nothing else of a run looks at the context. So two contexts that agree on
these names are the same to a value, whatever else they bind and whatever host functions do: the two
runs are equal as computations, with their effects, their values and their failures.
-/

namespace DataOutline

open Mixin (Path)

/-- Names that are bound to the same value in two contexts, or in neither. -/
def Context.AgreeOn (names : List String) (c c' : Context) : Prop :=
  ∀ name ∈ names, c.get? name = c'.get? name

namespace Context.AgreeOn

variable {names names' : List String} {c c' : Context}

theorem mono (h : AgreeOn names c c') (hsub : names' ⊆ names) : AgreeOn names' c c' :=
  fun name hname ↦ h name (hsub hname)

theorem left (h : AgreeOn (names ++ names') c c') : AgreeOn names c c' :=
  h.mono (List.subset_append_left _ _)

theorem right (h : AgreeOn (names ++ names') c c') : AgreeOn names' c c' :=
  h.mono (List.subset_append_right _ _)

end Context.AgreeOn

/-! ## Layers of contexts -/

namespace Context

/-- What is laid over a context changes nothing about the names that it does not bind. -/
theorem agreeOn_extend {names : List String} {upper : Context}
    (unrelated : ∀ name ∈ names, name ∉ upper.names) (c : Context) :
    AgreeOn names (c.extend upper) c :=
  fun name hname ↦ Entries.get?_foldl_insert_of_notMem (unrelated name hname) c.bindings

/-- Nor does what is laid under it, if it binds no name twice. -/
theorem extend_agreeOn {names : List String} {lower : Context}
    (unrelated : ∀ name ∈ names, name ∉ lower.names) {c : Context} (nodup : c.names.Nodup) :
    AgreeOn names (lower.extend c) c := by
  intro name hname
  have habsent : Entries.get? name lower.bindings = none := by
    rw [← Option.not_isSome_iff_eq_none, ← Entries.mem_keys_iff]
    exact unrelated name hname
  rw [Context.get?, Context.get?, extend]
  dsimp only
  by_cases hbound : name ∈ Entries.keys c.bindings
  · obtain ⟨before, value, after, hsplit, hafter⟩ := Entries.exists_last hbound
    have hcollects := (Entries.collects_ofList c.bindings).get?_last _ _ _ _ hsplit hafter
    rw [Entries.ofList_eq_self nodup] at hcollects
    rw [hcollects, hsplit, List.foldl_append, List.foldl_cons,
      Entries.get?_foldl_insert_of_notMem hafter, Entries.get?_insert_self]
  · rw [Entries.get?_foldl_insert_of_notMem hbound, habsent]
    rw [Entries.mem_keys_iff, Option.not_isSome_iff_eq_none] at hbound
    exact hbound.symm

end Context

/-! ## Expressions -/

namespace Expression

mutual

def names : Expression → List String
  | .null | .boolean _ | .number _ | .string _ => []
  | .identifier name => [name]
  | .array items => namesAll items
  | .object entries => namesEntries entries
  | .member target _ => names target
  | .index target place => names target ++ names place
  | .call callee arguments => names callee ++ namesAll arguments
  | .unary _ operand => names operand
  | .binary _ left right => names left ++ names right
  | .conditional condition whenTrue whenFalse =>
    names condition ++ (names whenTrue ++ names whenFalse)

def namesAll : List Expression → List String
  | [] => []
  | e :: es => names e ++ namesAll es

def namesEntries : List (String × Expression) → List String
  | [] => []
  | (_, e) :: es => names e ++ namesEntries es

end

section Evaluating

variable {m : Type → Type} [Monad m] {host : Host m} {c c' : Context}

mutual

/-- **Evaluation looks up the variables of an expression and no other name.** -/
theorem evaluate_congr : ∀ (e : Expression) (level : Nat), c.AgreeOn e.names c' →
    evaluate host c level e = evaluate host c' level e
  | .null, _, _ | .boolean _, _, _ | .number _, _, _ | .string _, _, _ => by
    unfold evaluate
    rfl
  | .identifier name, level, h => by
    have hname : c.get? name = c'.get? name := h name List.mem_cons_self
    unfold evaluate
    simp only [hname]
  | .array items, level, h => by
    unfold evaluate
    simp only [evaluateAll_congr items (level + 1) h]
  | .object entries, level, h => by
    unfold evaluate
    simp only [evaluateEntries_congr entries (level + 1) h]
  | .member target property, level, h => by
    unfold evaluate
    simp only [evaluate_congr target (level + 1) h]
  | .index target place, level, h => by
    unfold evaluate
    simp only [evaluate_congr target (level + 1) h.left, evaluate_congr place (level + 1) h.right]
  | .call callee arguments, level, h => by
    unfold evaluate
    simp only [evaluateAll_congr arguments (level + 1) h.right]
    -- The target of a method is evaluated in place of the callee, and has the same variables.
    cases callee with
    | member target property => simp only [evaluate_congr target (level + 1) h.left]
    | _ => simp only [evaluate_congr _ (level + 1) h.left]
  | .unary operator operand, level, h => by
    unfold evaluate
    simp only [evaluate_congr operand (level + 1) h]
  | .binary operator left right, level, h => by
    unfold evaluate
    simp only [evaluate_congr left (level + 1) h.left, evaluate_congr right (level + 1) h.right]
  | .conditional condition whenTrue whenFalse, level, h => by
    unfold evaluate
    simp only [evaluate_congr condition (level + 1) h.left,
      evaluate_congr whenTrue (level + 1) h.right.left,
      evaluate_congr whenFalse (level + 1) h.right.right]

theorem evaluateAll_congr : ∀ (es : List Expression) (level : Nat), c.AgreeOn (namesAll es) c' →
    evaluateAll host c level es = evaluateAll host c' level es
  | [], _, _ => by
    unfold evaluateAll
    rfl
  | e :: es, level, h => by
    unfold evaluateAll
    simp only [evaluate_congr e level h.left, evaluateAll_congr es level h.right]

theorem evaluateEntries_congr : ∀ (es : List (String × Expression)) (level : Nat),
    c.AgreeOn (namesEntries es) c' →
      evaluateEntries host c level es = evaluateEntries host c' level es
  | [], _, _ => by
    unfold evaluateEntries
    rfl
  | (_, e) :: es, level, h => by
    unfold evaluateEntries
    simp only [evaluate_congr e level h.left, evaluateEntries_congr es level h.right]

end

/-- The variables of the expression that a code is. A code that is none has no variables. -/
def namesOfCode (code : String) : List String :=
  match parse code with
  | .ok e => e.names
  | .error _ => []

theorem evaluateText_congr [LawfulMonad m] {code : String} (h : c.AgreeOn (namesOfCode code) c') :
    evaluateText host code c = evaluateText host code c' := by
  rw [evaluateText, evaluateText, bind_settled, bind_settled]
  rw [namesOfCode] at h
  cases hparse : parse code with
  | error e => rfl
  | ok e =>
    rw [hparse] at h
    exact evaluate_congr e 0 h

end Evaluating

end Expression

/-! ## Values -/

namespace ValueTree

variable {U : Type}

/-- The names that the own step of a value looks up: the variables of a code, or the name that a
base begins with. -/
def ownNames : ValueTree U → List String
  | .expression _ code => Expression.namesOfCode code
  | .mixin _ base _ _ => (dotted base).head?.toList
  | .array .. | .object .. | .compiled .. => []

/-- The names that a value uses. -/
def names (t : ValueTree U) : List String := t.parts.flatMap ownNames

theorem ownNames_subset_names (t : ValueTree U) : t.ownNames ⊆ t.names := by
  intro name hname
  exact List.mem_flatMap.mpr ⟨t, t.self_mem_parts, hname⟩

theorem names_subset_of_child {t child : ValueTree U} (h : child ∈ t.children) :
    child.names ⊆ t.names := by
  intro name hname
  obtain ⟨part, hpart, hname⟩ := List.mem_flatMap.mp hname
  exact List.mem_flatMap.mpr ⟨part, mem_parts_of_child h hpart, hname⟩

end ValueTree

namespace Program

variable {U : Type} {m : Type → Type} [Monad m] [LawfulMonad m] {c c' : Context}

theorem mix_congr {base : String} (h : c.AgreeOn (dotted base).head?.toList c')
    (removals : List Path) (additions : List (Path × Value)) :
    mix c base removals additions = mix c' base removals additions := by
  have hlookup : Mixin.resolveBase c base = Mixin.resolveBase c' base := by
    rw [Mixin.resolveBase, Mixin.resolveBase]
    cases hparts : dotted base with
    | nil => rfl
    | cons first parts =>
      rw [hparts] at h
      simp only [h first List.mem_cons_self]
  rw [mix, mix, hlookup]

/-- By induction on the value: the programs of its children run alike, and its own step looks up
its own names. -/
theorem run_congr (host : Host m) {t : ValueTree U} (h : c.AgreeOn t.names c') : ∀ {p : Program},
    compile t = .ok p → run (Expression.evaluateText host) c p
      = run (Expression.evaluateText host) c' p := by
  induction t using ValueTree.childInduction with
  | step t ih =>
    intro p hp
    have hown := h.mono t.ownNames_subset_names
    have hparts : ∀ {ps}, List.Forall₂ (fun t p ↦ compile t = .ok p) t.children ps → ∀ p ∈ ps,
        run (Expression.evaluateText host) c p = run (Expression.evaluateText host) c' p := by
      intro ps compiled p hmem
      obtain ⟨child, hchild, hcompile⟩ := exists_of_forall₂ compiled.flip hmem
      exact ih child hchild (h.mono (ValueTree.names_subset_of_child hchild)) hcompile
    cases compilesAs_of_compile hp with
    | array compiled => rw [run_array, run_array, mapM_congr (hparts compiled)]
    | object compiled =>
      rw [run_object, run_object,
        mapM_congr fun p hp ↦ hparts compiled p (mem_of_mem_map_snd_zip hp)]
    | mixin compiled =>
      rw [run_mixin, run_mixin,
        mapM_congr fun p hp ↦ hparts compiled p (mem_of_mem_map_snd_zip hp)]
      simp only [mix_congr hown]
    | expression block code =>
      rw [run_expression, run_expression, Expression.evaluateText_congr hown]

/-- **A run depends on the names that its value uses, and on nothing else in the context.** The
value compiles, and its run is the same computation in all contexts that agree on these names. So
it is in a context that another one is laid over or under, if that one binds none of them. -/
theorem run_names (host : Host m) {t : ValueTree U}
    (plain : ∀ part ∈ t.parts, part.unit? = none) :
    ∃ p, compile t = .ok p ∧
      (∀ c c' : Context, c.AgreeOn t.names c' →
        run (Expression.evaluateText host) c p = run (Expression.evaluateText host) c' p) ∧
      ∀ c other : Context, (∀ name ∈ t.names, name ∉ other.names) →
        run (Expression.evaluateText host) (c.extend other) p
            = run (Expression.evaluateText host) c p ∧
          (c.names.Nodup → run (Expression.evaluateText host) (other.extend c) p
            = run (Expression.evaluateText host) c p) := by
  obtain ⟨p, hp⟩ := exists_compile plain
  refine ⟨p, hp, fun c c' h ↦ run_congr host h hp, fun c other hother ↦ ⟨?_, fun hnodup ↦ ?_⟩⟩
  · exact run_congr host (Context.agreeOn_extend hother c) hp
  · exact run_congr host (Context.extend_agreeOn hother hnodup) hp

/-- A mixin that adds a key in shorthand, and a code that is no expression. -/
def shorthand : ValueTree Empty :=
  .object ⟨⟨1, 3⟩, ""⟩
    [("x", .mixin ⟨⟨1, 2⟩, ""⟩ "user.name" [] [("tag", .expression ⟨⟨2, 1⟩, ""⟩ "{a}")]),
      ("y", .expression ⟨⟨3, 1⟩, ""⟩ "b +")]

theorem names_shorthand : shorthand.names = ["user", "a"] := by
  simp only [ValueTree.names, shorthand, ValueTree.parts_eq, ValueTree.children, List.map_cons,
    List.map_nil, List.flatMap_cons, List.flatMap_nil, ValueTree.ownNames, List.append_nil,
    List.nil_append, List.cons_append]
  decide +kernel

theorem run_names_shorthand :
    (∀ part ∈ shorthand.parts, part.unit? = none) ∧ shorthand.names = ["user", "a"] ∧
      ∃ p, compile shorthand = .ok p ∧
        run (Expression.evaluateText (m := Id) ⟨fun _ _ ↦ pure .null⟩)
            ((Context.ofList [("user", .object [])]).extend (.ofList [("b", .null)])) p
          = run (Expression.evaluateText ⟨fun _ _ ↦ pure .null⟩)
            (.ofList [("user", .object [])]) p := by
  have plain : ∀ part ∈ shorthand.parts, part.unit? = none := by
    simp [shorthand, ValueTree.parts_eq, ValueTree.children, ValueTree.unit?]
  have hnames := names_shorthand
  obtain ⟨p, hp, -, hextend⟩ := run_names (m := Id) ⟨fun _ _ ↦ pure .null⟩ plain
  refine ⟨plain, hnames, p, hp, (hextend _ _ ?_).1⟩
  rw [hnames]
  decide

end Program

end DataOutline
