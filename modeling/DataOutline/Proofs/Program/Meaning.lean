import DataOutline.Proofs.Document.Parts
import DataOutline.Proofs.Program.Compilation
import DataOutline.Proofs.Program.Outcome

/-!
# What a value means

A value has a meaning of its own, without a program: its parts have values, from left to right, and
with these it takes one step. The step of an array or object puts the values together and cannot
fail; that of an expression asks the evaluator; that of a mixin looks up the base, removes from it
and adds to it, in this order. So the steps of a value come in a row, those of its parts before its
own, and a run that fails does so at the first step that does, with the lines of that part.

Running the program of a value comes to exactly this.
-/

namespace DataOutline

open Mixin (Path)

variable {U : Type}

section Meaning

variable (evaluator : Evaluator Id) (context : Context)

/-! ## Steps -/

/-- What a mixin comes to, given the values that it adds: its base is looked up, then each removal
is made in turn, then each addition. -/
inductive Mixes (base : String) (removals : List String) (additions : List (String × Value)) :
    Except RunError Value → Prop
  | unresolved {e} (lookup : Mixin.resolveBase context base = .error e) :
      Mixes base removals additions (.error e)
  | unsuitable {v} (lookup : Mixin.resolveBase context base = .ok v)
      (plain : v.isStructured = false) :
      Mixes base removals additions (.error (.mixin (.invalidBase v.typeName)))
  | unremoved {v e} (lookup : Mixin.resolveBase context base = .ok v)
      (structured : v.isStructured = true)
      (removing : removals.foldlM (fun w path ↦ Mixin.remove w (Path.ofText path)) v = .error e) :
      Mixes base removals additions (.error (.mixin e))
  | unadded {v reduced e} (lookup : Mixin.resolveBase context base = .ok v)
      (structured : v.isStructured = true)
      (removing : removals.foldlM (fun w path ↦ Mixin.remove w (Path.ofText path)) v = .ok reduced)
      (adding : additions.foldlM (fun w a ↦ Mixin.add a.2 w (Path.ofText a.1)) reduced
        = .error e) :
      Mixes base removals additions (.error (.mixin e))
  | mixed {v reduced result} (lookup : Mixin.resolveBase context base = .ok v)
      (structured : v.isStructured = true)
      (removing : removals.foldlM (fun w path ↦ Mixin.remove w (Path.ofText path)) v = .ok reduced)
      (adding : additions.foldlM (fun w a ↦ Mixin.add a.2 w (Path.ofText a.1)) reduced
        = .ok result) :
      Mixes base removals additions (.ok result)

/-- What the step of a value gives, when its children have some values. -/
inductive Step : ValueTree U → List Value → Except RunError Value → Prop
  | array (block : Block) (unordered : Bool) (elements : List (ValueTree U))
      (values : List Value) :
      Step (.array block unordered elements) values (.ok (.array values unordered))
  | object {block : Block} {entries : List (String × ValueTree U)} {values : List Value}
      {es : Entries Value}
      (collects : Entries.Collects ((entries.map Prod.fst).zip values) es) :
      Step (.object block entries) values (.ok (.object es))
  | mixin {block : Block} {base : String} {removals : List String}
      {additions : List (String × ValueTree U)} {values : List Value}
      {result : Except RunError Value}
      (mixes : Mixes context base removals ((additions.map Prod.fst).zip values) result) :
      Step (.mixin block base removals additions) values result
  | expression (block : Block) (code : String) (values : List Value) :
      Step (.expression block code) values (settled (evaluator code context))

/-- The value that a value block means: its children have values, and with them its step gives
one. -/
inductive Means : ValueTree U → Value → Prop
  | intro {t : ValueTree U} {values : List Value} {v : Value}
      (parts : List.Forall₂ Means t.children values)
      (step : Step evaluator context t values (.ok v)) : Means t v

/-- The children of a value have values, but its own step fails. -/
def FailsAt (part : ValueTree U) (error : RunError) : Prop :=
  ∃ values, List.Forall₂ (Means evaluator context) part.children values ∧
    Step evaluator context part values (.error error)

end Meaning

/-- The parts of a value in the order of their steps: what a value is made of comes before it. -/
def ValueTree.steps (t : ValueTree U) : List (ValueTree U) :=
  (t.children.attach.flatMap fun child ↦ child.1.steps) ++ [t]
termination_by sizeOf t
decreasing_by exact ValueTree.sizeOf_child_lt child.2

theorem ValueTree.steps_eq (t : ValueTree U) : t.steps = t.children.flatMap steps ++ [t] := by
  rw [steps, List.flatMap_subtype (g := steps) (fun _ _ ↦ rfl), List.unattach_attach]

/-- The first step of a value that fails, and the lines of the part whose step it is: all parts
before it have values. -/
def Blames (evaluator : Evaluator Id) (context : Context) (t : ValueTree U) (f : Failure) : Prop :=
  ∃ before part after, t.steps = before ++ part :: after ∧
    (∀ earlier ∈ before, ∃ v, Means evaluator context earlier v) ∧
    FailsAt evaluator context part f.error ∧ f.span = part.block.span

/-! ## Steps as functions -/

section Steps

variable {evaluator : Evaluator Id} {context : Context}

/-- Removals and additions are made to what parts can be taken from and put into. -/
theorem apply_eq (v : Value) (removals : List Path) (additions : List (Path × Value)) :
    Mixin.apply v removals additions =
      if v.isStructured = true then
        removals.foldlM Mixin.remove v >>= additions.foldlM fun w a ↦ Mixin.add a.2 w a.1
      else .error (.invalidBase v.typeName) := by
  rw [Mixin.apply]
  cases v.isStructured <;> rfl

/-- A mixin comes to one thing, by the first of its operations that fails or by the last. -/
theorem mixes_iff {base : String} {removals : List String} {additions : List (String × Value)}
    {result : Except RunError Value} :
    Mixes context base removals additions result ↔
      result = Program.mix context base (removals.map Path.ofText)
        (additions.map fun a ↦ (Path.ofText a.1, a.2)) := by
  rw [Program.mix]
  simp only [apply_eq, List.foldlM_map]
  constructor
  · rintro (lookup | ⟨lookup, plain⟩ | ⟨lookup, structured, removing⟩ |
      ⟨lookup, structured, removing, adding⟩ | ⟨lookup, structured, removing, adding⟩)
    · rw [lookup]
      rfl
    · rw [lookup, ok_bind, plain]
      rfl
    · rw [lookup, ok_bind, if_pos structured, removing]
      rfl
    · rw [lookup, ok_bind, if_pos structured, removing, ok_bind, adding]
      rfl
    · rw [lookup, ok_bind, if_pos structured, removing, ok_bind, adding]
      rfl
  · rintro rfl
    cases lookup : Mixin.resolveBase context base with
    | error e => exact .unresolved lookup
    | ok v =>
      rw [ok_bind]
      cases structured : v.isStructured with
      | false => exact .unsuitable lookup structured
      | true =>
        rw [if_pos rfl]
        cases removing : removals.foldlM (fun w path ↦ Mixin.remove w (Path.ofText path)) v with
        | error e => exact .unremoved lookup structured removing
        | ok reduced =>
          rw [ok_bind]
          cases adding : additions.foldlM (fun w a ↦ Mixin.add a.2 w (Path.ofText a.1)) reduced with
          | error e => exact .unadded lookup structured removing adding
          | ok result => exact .mixed lookup structured removing adding

theorem Step.unique {t : ValueTree U} {values : List Value} {r r' : Except RunError Value}
    (h : Step evaluator context t values r) (h' : Step evaluator context t values r') : r = r' := by
  cases h with
  | array => cases h'; rfl
  | object collects =>
    cases h' with
    | object collects' => rw [collects.eq_ofList, collects'.eq_ofList]
  | mixin mixes =>
    cases h' with
    | mixin mixes' => rw [mixes_iff.mp mixes, mixes_iff.mp mixes']
  | expression => cases h'; rfl

/-! ## A meaning is unique -/

theorem Means.unique {t : ValueTree U} : ∀ {v v' : Value},
    Means evaluator context t v → Means evaluator context t v' → v = v' := by
  induction t using ValueTree.childInduction with
  | step t ih =>
    intro v v' h h'
    obtain ⟨parts, step⟩ := h
    obtain ⟨parts', step'⟩ := h'
    obtain rfl := forall₂_unique (fun child hchild _ _ h h' ↦ ih child hchild h h') parts parts'
    exact Except.ok.inj (step.unique step')

theorem values_unique {ts : List (ValueTree U)} {values values' : List Value}
    (h : List.Forall₂ (Means evaluator context) ts values)
    (h' : List.Forall₂ (Means evaluator context) ts values') : values = values' :=
  forall₂_unique (fun t _ _ _ (ht : Means evaluator context t _) ht' ↦ ht.unique ht') h h'

theorem FailsAt.unique {part : ValueTree U} {e e' : RunError}
    (h : FailsAt evaluator context part e) (h' : FailsAt evaluator context part e') : e = e' := by
  obtain ⟨values, parts, step⟩ := h
  obtain ⟨values', parts', step'⟩ := h'
  obtain rfl := values_unique parts parts'
  exact Except.error.inj (step.unique step')

theorem FailsAt.not_means {part : ValueTree U} {e : RunError}
    (h : FailsAt evaluator context part e) (v : Value) : ¬Means evaluator context part v := by
  rintro ⟨parts', step'⟩
  obtain ⟨values, parts, step⟩ := h
  obtain rfl := values_unique parts parts'
  exact nomatch step.unique step'

theorem Means.steps {t : ValueTree U} : ∀ {v : Value}, Means evaluator context t v →
    ∀ part ∈ t.steps, ∃ w, Means evaluator context part w := by
  induction t using ValueTree.childInduction with
  | step t ih =>
    intro v h part hpart
    rw [ValueTree.steps_eq, List.mem_append, List.mem_flatMap, List.mem_singleton] at hpart
    rcases hpart with ⟨child, hchild, hpart⟩ | rfl
    · obtain ⟨parts, -⟩ := h
      obtain ⟨w, -, hw⟩ := exists_of_forall₂ parts hchild
      exact ih child hchild hw part hpart
    · exact ⟨v, h⟩

private theorem first_unique {α : Type} {P : α → Prop} {before before' after after' : List α}
    {a a' : α} (split : before ++ a :: after = before' ++ a' :: after')
    (hbefore : ∀ x ∈ before, P x) (ha : ¬P a) (hbefore' : ∀ x ∈ before', P x) (ha' : ¬P a') :
    a = a' := by
  induction before generalizing before' with
  | nil =>
    rcases before' with _ | ⟨x, before'⟩
    · exact (List.cons.inj split).1
    · obtain ⟨rfl, -⟩ := List.cons.inj split
      exact absurd (hbefore' a List.mem_cons_self) ha
  | cons x before ih =>
    rcases before' with _ | ⟨x', before'⟩
    · obtain ⟨rfl, -⟩ := List.cons.inj split
      exact absurd (hbefore x List.mem_cons_self) ha'
    · exact ih (List.cons.inj split).2 (List.forall_mem_cons.mp hbefore).2
        (List.forall_mem_cons.mp hbefore').2

theorem Blames.unique {t : ValueTree U} {f f' : Failure} (h : Blames evaluator context t f)
    (h' : Blames evaluator context t f') : f = f' := by
  obtain ⟨before, part, after, hsplit, hbefore, hfails, hspan⟩ := h
  obtain ⟨before', part', after', hsplit', hbefore', hfails', hspan'⟩ := h'
  obtain rfl : part = part' := first_unique (hsplit.symm.trans hsplit') hbefore
    (fun ⟨v, hv⟩ ↦ hfails.not_means v hv) hbefore' (fun ⟨v, hv⟩ ↦ hfails'.not_means v hv)
  have herror : f.error = f'.error := hfails.unique hfails'
  cases f
  cases f'
  cases hspan
  cases hspan'
  cases herror
  rfl

theorem Blames.not_means {t : ValueTree U} {f : Failure} (h : Blames evaluator context t f)
    (v : Value) : ¬Means evaluator context t v := by
  intro hv
  obtain ⟨before, part, after, hsplit, -, hfails, -⟩ := h
  obtain ⟨w, hw⟩ := hv.steps part (by rw [hsplit]; simp)
  exact hfails.not_means w hw

end Steps

/-! ## Running a program -/

section Running

variable {evaluator : Evaluator Id} {context : Context}

/-- The program of a value runs the programs of its children, and then takes the step of the
value. -/
theorem outcome_of_compile {t : ValueTree U} {p : Program} (h : Program.compile t = .ok p) :
    ∃ ps, t.children.mapM Program.compile = .ok ps ∧
      ∃ step : List Value → Except RunError Value,
        (∀ values, Step evaluator context t values (step values)) ∧
        Program.outcome evaluator context p =
          ps.mapM (Program.outcome evaluator context) >>= fun values ↦
            (step values).mapError fun error ↦ ⟨error, t.block.span⟩ := by
  cases t with
  | array block unordered elements =>
    rw [Program.compile, Program.compileAll_eq_mapM] at h
    obtain ⟨ps, hps, rfl⟩ := map_eq_ok_iff.mp h
    refine ⟨ps, hps, fun values ↦ .ok (.array values unordered),
      .array block unordered elements, ?_⟩
    rw [Program.outcome_array]
    rfl
  | object block entries =>
    rw [Program.compile, Program.compileEntries_eq] at h
    obtain ⟨es, hes, rfl⟩ := map_eq_ok_iff.mp h
    obtain ⟨ps, hps, rfl⟩ := map_eq_ok_iff.mp hes
    refine ⟨ps, hps,
      fun values ↦ .ok (.object (Entries.ofList ((entries.map Prod.fst).zip values))),
      fun values ↦ .object (Entries.collects_ofList _), ?_⟩
    have hlen : (entries.map Prod.fst).length = ps.length := by
      rw [List.length_map, ← (mapM_eq_ok_iff.mp hps).length_eq, List.length_map]
    rw [Program.outcome_object, List.map_fst_zip (Nat.le_of_eq hlen),
      List.map_snd_zip (Nat.le_of_eq hlen.symm)]
    rfl
  | mixin block base removals additions =>
    rw [Program.compile, Program.compileAdditions_eq] at h
    obtain ⟨es, hes, rfl⟩ := map_eq_ok_iff.mp h
    obtain ⟨ps, hps, rfl⟩ := map_eq_ok_iff.mp hes
    refine ⟨ps, hps, _, fun values ↦ .mixin (mixes_iff.mpr rfl), ?_⟩
    have hlen : (additions.map fun e ↦ Path.ofText e.1).length = ps.length := by
      rw [List.length_map, ← (mapM_eq_ok_iff.mp hps).length_eq, List.length_map]
    have hpaths : ∀ values : List Value, (additions.map fun e ↦ Path.ofText e.1).zip values =
        ((additions.map Prod.fst).zip values).map fun a ↦ (Path.ofText a.1, a.2) := by
      intro values
      have hnames : (additions.map fun e ↦ Path.ofText e.1)
          = (additions.map Prod.fst).map Path.ofText := by
        rw [List.map_map]
        rfl
      rw [hnames, List.zip_map_left]
      rfl
    rw [Program.outcome_mixin, List.map_fst_zip (Nat.le_of_eq hlen),
      List.map_snd_zip (Nat.le_of_eq hlen.symm)]
    simp only [hpaths]
    rfl
  | expression block code =>
    cases h
    exact ⟨[], rfl, fun _ ↦ settled (evaluator code context), .expression block code,
      Program.outcome_expression _ _⟩
  | compiled block unit =>
    rw [Program.compile] at h
    cases h

/-- What a run has come to is what a value means, or a failure of its first step that fails. -/
def Answers (evaluator : Evaluator Id) (context : Context) (t : ValueTree U) :
    Except Failure Value → Prop
  | .ok v => Means evaluator context t v
  | .error f => Blames evaluator context t f

/-- The programs of some values are run one by one: all have answers that are values, or the run
ends at the first that fails. -/
theorem outcomes_answer {ts : List (ValueTree U)} {ps : List Program}
    (compiled : List.Forall₂ (fun t p ↦ Program.compile t = .ok p) ts ps)
    (each : ∀ t ∈ ts, ∀ p, Program.compile t = .ok p →
      Answers evaluator context t (Program.outcome evaluator context p)) :
    match ps.mapM (Program.outcome evaluator context) with
    | .ok values => List.Forall₂ (Means evaluator context) ts values
    | .error f => ∃ before t after, ts = before ++ t :: after ∧
        (∀ earlier ∈ before, ∃ v, Means evaluator context earlier v) ∧
        Blames evaluator context t f := by
  induction compiled with
  | nil => exact List.Forall₂.nil
  | @cons t p ts ps hcompile _ ih =>
    obtain ⟨hfirst, hmore⟩ := List.forall_mem_cons.mp each
    have hanswer := hfirst p hcompile
    have hrest := ih hmore
    rw [List.mapM_cons]
    cases houtcome : Program.outcome evaluator context p with
    | error f =>
      rw [houtcome] at hanswer
      exact ⟨[], t, ts, rfl, fun _ h ↦ absurd h List.not_mem_nil, hanswer⟩
    | ok v =>
      rw [houtcome] at hanswer
      cases hvalues : ps.mapM (Program.outcome evaluator context) with
      | ok values =>
        rw [hvalues] at hrest
        exact List.Forall₂.cons hanswer hrest
      | error f =>
        rw [hvalues] at hrest
        obtain ⟨before, t', after, rfl, hbefore, hblames⟩ := hrest
        exact ⟨t :: before, t', after, rfl, List.forall_mem_cons.mpr ⟨⟨v, hanswer⟩, hbefore⟩,
          hblames⟩

theorem Blames.of_child {t child : ValueTree U} {before after : List (ValueTree U)} {f : Failure}
    (split : t.children = before ++ child :: after)
    (earlier : ∀ x ∈ before, ∃ v, Means evaluator context x v)
    (h : Blames evaluator context child f) : Blames evaluator context t f := by
  obtain ⟨first, part, last, hsteps, hfirst, hfails, hspan⟩ := h
  -- The steps of the children in front of this one come before all of its own.
  refine ⟨before.flatMap ValueTree.steps ++ first, part,
    last ++ (after.flatMap ValueTree.steps ++ [t]), ?_, ?_, hfails, hspan⟩
  · rw [t.steps_eq, split, List.flatMap_append, List.flatMap_cons, hsteps]
    simp only [List.append_assoc, List.cons_append]
  · intro x hx
    rcases List.mem_append.mp hx with hx | hx
    · obtain ⟨y, hy, hx⟩ := List.mem_flatMap.mp hx
      obtain ⟨v, hv⟩ := earlier y hy
      exact hv.steps x hx
    · exact hfirst x hx

theorem Blames.of_self {t : ValueTree U} {values : List Value} {e : RunError}
    (parts : List.Forall₂ (Means evaluator context) t.children values)
    (step : Step evaluator context t values (.error e)) :
    Blames evaluator context t ⟨e, t.block.span⟩ := by
  refine ⟨t.children.flatMap ValueTree.steps, t, [], t.steps_eq, ?_, ⟨values, parts, step⟩, rfl⟩
  intro x hx
  obtain ⟨child, hchild, hx⟩ := List.mem_flatMap.mp hx
  obtain ⟨v, -, hv⟩ := exists_of_forall₂ parts hchild
  exact hv.steps x hx

theorem outcome_answers {t : ValueTree U} : ∀ {p : Program}, Program.compile t = .ok p →
    Answers evaluator context t (Program.outcome evaluator context p) := by
  induction t using ValueTree.childInduction with
  | step t ih =>
    intro p h
    obtain ⟨ps, hps, step, hstep, houtcome⟩ := outcome_of_compile h
    have hanswers := outcomes_answer (mapM_eq_ok_iff.mp hps) fun child hchild p ↦ ih child hchild
    rw [houtcome]
    cases hvalues : ps.mapM (Program.outcome evaluator context) with
    | error f =>
      rw [hvalues] at hanswers
      obtain ⟨before, child, after, hsplit, hbefore, hblames⟩ := hanswers
      exact hblames.of_child hsplit hbefore
    | ok values =>
      rw [hvalues] at hanswers
      rw [ok_bind]
      have hresult := hstep values
      cases hown : step values with
      | ok v =>
        rw [hown] at hresult
        exact .intro hanswers hresult
      | error e =>
        rw [hown] at hresult
        exact .of_self hanswers hresult

/-- **The program of a value computes its meaning.** A value without units that are compiled
already compiles; the program yields exactly what the value means, and it fails exactly as the first
step that fails does, with the lines of the part whose step that is. These are the lines that the
execution is at when it fails, whatever lines it was at in the beginning. -/
theorem Program.outcome_iff_means (evaluator : Evaluator Id) (context : Context) {t : ValueTree U}
    (plain : ∀ part ∈ t.parts, part.unit? = none) :
    ∃ p, Program.compile t = .ok p ∧
      (∀ v, Program.outcome evaluator context p = .ok v ↔ Means evaluator context t v) ∧
      (∀ f, Program.outcome evaluator context p = .error f ↔ Blames evaluator context t f) ∧
      ∀ span f, (Program.execute evaluator context p).run.run span = (.error f.error, f.span) ↔
        Blames evaluator context t f := by
  obtain ⟨p, hp⟩ := Program.exists_compile plain
  have hanswer : Answers evaluator context t (Program.outcome evaluator context p) :=
    outcome_answers hp
  have herror : ∀ f, Program.outcome evaluator context p = .error f ↔
      Blames evaluator context t f := by
    intro f
    cases houtcome : Program.outcome evaluator context p with
    | ok w =>
      rw [houtcome] at hanswer
      exact iff_of_false (fun h ↦ nomatch h) fun h ↦ h.not_means w hanswer
    | error f' =>
      rw [houtcome] at hanswer
      exact ⟨fun h ↦ Except.error.inj h ▸ hanswer, fun h ↦ congrArg _ (Blames.unique hanswer h)⟩
  refine ⟨p, hp, fun v ↦ ?_, herror, fun span f ↦ ?_⟩
  · cases houtcome : Program.outcome evaluator context p with
    | ok w =>
      rw [houtcome] at hanswer
      exact ⟨fun h ↦ Except.ok.inj h ▸ hanswer, fun h ↦ congrArg _ (Means.unique hanswer h)⟩
    | error f =>
      rw [houtcome] at hanswer
      exact iff_of_false (fun h ↦ nomatch h) (Blames.not_means hanswer v)
  · rw [← Program.outcome_eq_error_iff, herror]

/-- A mixin whose base is not there. What it adds has a value, further down. -/
def unresolvedMixin : ValueTree Empty :=
  .object ⟨⟨2, 4⟩, ""⟩
    [("a", .array ⟨⟨2, 2⟩, ""⟩ true [.expression ⟨⟨3, 1⟩, ""⟩ "x"]),
      ("b", .mixin ⟨⟨4, 2⟩, ""⟩ "nowhere" [] [("c", .expression ⟨⟨5, 1⟩, ""⟩ "y")])]

/-- The additions of the mixin are run first, and leave the run at the lines of the last. -/
theorem Program.outcome_iff_means_unresolved :
    let evaluator : Evaluator Id := fun code _ ↦ pure (.string code)
    (∀ part ∈ unresolvedMixin.parts, part.unit? = none) ∧
      Blames evaluator .empty unresolvedMixin ⟨.undefinedVariable "nowhere", ⟨4, 2⟩⟩ ∧
      ∃ p, Program.compile unresolvedMixin = .ok p ∧ ∀ span,
        (Program.execute evaluator .empty p).run.run span =
          (.error (.undefinedVariable "nowhere"), ⟨4, 2⟩) := by
  intro evaluator
  have plain : ∀ part ∈ unresolvedMixin.parts, part.unit? = none := by
    simp [unresolvedMixin, ValueTree.parts_eq, ValueTree.children, ValueTree.unit?]
  obtain ⟨p, hp, -, hfails, hreached⟩ := Program.outcome_iff_means evaluator .empty plain
  have hblames : Blames evaluator .empty unresolvedMixin
      ⟨.undefinedVariable "nowhere", ⟨4, 2⟩⟩ := by
    refine (hfails _).mp ?_
    cases hp
    rfl
  exact ⟨plain, hblames, p, hp, fun span ↦ (hreached span _).mpr hblames⟩

end Running

end DataOutline
