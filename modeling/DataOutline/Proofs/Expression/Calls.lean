import DataOutline.Proofs.Expression.Depth
import DataOutline.Proofs.Expression.Height

/-!
# Where too much depth comes from

An evaluation comes to the limit on levels only if the expression is too high for the levels that
are left, or if a host function reports the limit as an error of its own. To tell these apart the
evaluation is run with a host that keeps a record of its calls. The record is of no consequence:
with it an expression has the value that it has without.

With that, the level of an expression is fuel and nothing else. More of it gives the same value, and
as much as the expression is high always suffices.
-/

namespace DataOutline

/-- A call of a host function: the function and its arguments. -/
abbrev HostCall := HostFunction × List Value

/-- A host that does what another does, and keeps a record of its calls in their order. -/
def Host.recorded (host : Host Id) : Host (StateM (List HostCall)) where
  call f arguments := ExceptT.mk fun before ↦
    (settled (host.call f arguments), before ++ [(f, arguments)])

/-- A computation has a result, and if that is too much depth, a call that it makes answers so. -/
def Records (host : Host Id) {α : Type} (x : ExceptT RunError (StateM (List HostCall)) α)
    (r : Except RunError α) : Prop :=
  ∀ before, ∃ made, x.run.run before = (r, before ++ made) ∧
    (r = .error .tooDeep →
      ∃ call ∈ made, settled (host.call call.1 call.2) = .error .tooDeep)

namespace Records

variable {host : Host Id} {α β : Type} {x : ExceptT RunError (StateM (List HostCall)) α}
  {r : Except RunError α}

theorem pure (a : α) : Records host (Pure.pure a) (.ok a) :=
  fun before ↦ ⟨[], by rw [List.append_nil]; rfl, nofun⟩

theorem fail {e : RunError} (h : e ≠ .tooDeep) : Records host (throw e) (.error e : Except _ α) :=
  fun before ↦ ⟨[], by rw [List.append_nil]; rfl, fun hr ↦ absurd (Except.error.inj hr) h⟩

theorem call (f : HostFunction) (arguments : List Value) :
    Records host (host.recorded.call f arguments) (DataOutline.settled (host.call f arguments)) :=
  fun _ ↦ ⟨[(f, arguments)], rfl, fun h ↦ ⟨_, List.mem_singleton_self _, h⟩⟩

theorem bind {k : α → ExceptT RunError (StateM (List HostCall)) β} {k' : α → Except RunError β}
    (h : Records host x r) (hk : ∀ a, Records host (k a) (k' a)) :
    Records host (x >>= k) (r >>= k') := by
  intro before
  obtain ⟨made, hrun, hdeep⟩ := h before
  rw [ExceptT.run_bind, StateT.run_bind, hrun]
  cases r with
  | error e =>
    refine ⟨made, rfl, fun he ↦ hdeep ?_⟩
    cases he
    rfl
  | ok a =>
    obtain ⟨more, hrun', hdeep'⟩ := hk a (before ++ made)
    refine ⟨made ++ more, ?_, fun he ↦ ?_⟩
    · rw [← List.append_assoc]
      exact hrun'
    · obtain ⟨call, hcall, hresult⟩ := hdeep' he
      exact ⟨call, List.mem_append_right _ hcall, hresult⟩

end Records

/-! ## Errors of values -/

namespace Value

theorem bind_ne_tooDeep {α β : Type} {r : Except RunError α} {k : α → Except RunError β}
    (h : r ≠ .error .tooDeep) (hk : ∀ a, k a ≠ .error .tooDeep) : (r >>= k) ≠ .error .tooDeep := by
  intro hbind
  rcases bind_eq_error_iff.mp hbind with hr | ⟨a, -, ha⟩
  · exact h hr
  · exact hk a ha

theorem asNumber_ne_tooDeep (v : Value) : v.asNumber ≠ .error .tooDeep := by
  cases v <;> exact nofun

theorem property_ne_tooDeep (name : String) (v : Value) :
    v.property name ≠ .error .tooDeep := by
  unfold property
  repeat' split
  all_goals exact nofun

theorem unary_ne_tooDeep (operator : Expression.UnaryOperator) (v : Value) :
    v.unary operator ≠ .error .tooDeep := by
  cases operator with
  | negate => exact bind_ne_tooDeep v.asNumber_ne_tooDeep fun _ ↦ nofun
  | not => exact nofun

theorem arithmetic_ne_tooDeep (f : Float → Float → Float) (a b : Value) :
    arithmetic f a b ≠ .error .tooDeep :=
  bind_ne_tooDeep a.asNumber_ne_tooDeep fun _ ↦ bind_ne_tooDeep b.asNumber_ne_tooDeep fun _ ↦ nofun

theorem division_ne_tooDeep (f : Float → Float → Float) (a b : Value) :
    division f a b ≠ .error .tooDeep := by
  refine bind_ne_tooDeep a.asNumber_ne_tooDeep fun x ↦ ?_
  refine bind_ne_tooDeep b.asNumber_ne_tooDeep fun y ↦ ?_
  split <;> exact nofun

theorem comparison_ne_tooDeep (strings : String → String → Bool) (numbers : Float → Float → Bool)
    (a b : Value) : comparison strings numbers a b ≠ .error .tooDeep := by
  unfold comparison
  split
  · exact nofun
  · exact bind_ne_tooDeep a.asNumber_ne_tooDeep fun _ ↦
      bind_ne_tooDeep b.asNumber_ne_tooDeep fun _ ↦ nofun

theorem sum_ne_tooDeep (a b : Value) : sum a b ≠ .error .tooDeep := by
  unfold sum
  split <;> exact nofun

theorem binary_ne_tooDeep (operator : Expression.BinaryOperator) (a b : Value) :
    a.binary operator b ≠ .error .tooDeep := by
  cases operator with
  | add => exact sum_ne_tooDeep a b
  | subtract | multiply => exact arithmetic_ne_tooDeep _ a b
  | divide | modulo => exact division_ne_tooDeep _ a b
  | greater | less | greaterEqual | lessEqual => exact comparison_ne_tooDeep _ _ a b
  | equal | unequal | strictEqual | strictUnequal | and | or => exact nofun

theorem sliceBound_ne_tooDeep (length default : Nat) (v : Option Value) :
    sliceBound length default v ≠ .error .tooDeep := by
  cases v with
  | none => exact nofun
  | some v => exact bind_ne_tooDeep v.asNumber_ne_tooDeep fun _ ↦ nofun

theorem sliceRange_ne_tooDeep (length : Nat) (arguments : List Value) :
    sliceRange length arguments ≠ .error .tooDeep :=
  bind_ne_tooDeep (sliceBound_ne_tooDeep _ _ _) fun _ ↦
    bind_ne_tooDeep (sliceBound_ne_tooDeep _ _ _) fun _ ↦ nofun

theorem places_ne_tooDeep (v : Option Value) : places v ≠ .error .tooDeep := by
  cases v with
  | none => exact nofun
  | some v => exact bind_ne_tooDeep v.asNumber_ne_tooDeep fun _ ↦ nofun

theorem method_ne_tooDeep (v : Value) (name : String) (arguments : List Value) :
    v.method name arguments ≠ .error .tooDeep := by
  cases v with
  | null => exact nofun
  | number x =>
    rw [method, numberMethod.eq_def]
    split
    · exact bind_ne_tooDeep (places_ne_tooDeep _) fun _ ↦ nofun
    all_goals exact nofun
  | string s =>
    rw [method, stringMethod.eq_def]
    split
    case h_6 => exact bind_ne_tooDeep (sliceRange_ne_tooDeep _ _) fun _ ↦ nofun
    all_goals exact nofun
  | array items unordered =>
    rw [method, arrayMethod.eq_def]
    split
    case h_3 => exact bind_ne_tooDeep (sliceRange_ne_tooDeep _ _) fun _ ↦ nofun
    all_goals exact nofun
  | boolean | object | function =>
    rw [method]
    · split <;> exact nofun
    all_goals exact nofun

end Value

namespace Expression

section Rows

variable {m : Type → Type} [Monad m] [LawfulMonad m] {host : Host m} {context : Context}

theorem evaluateAll_eq_mapM (level : Nat) (es : List Expression) :
    evaluateAll host context level es = es.mapM (evaluate host context level) := by
  induction es with
  | nil => rw [evaluateAll, List.mapM_nil]
  | cons e es ih => rw [evaluateAll, List.mapM_cons, ih]

theorem evaluateEntries_eq_mapM (level : Nat) (es : List (String × Expression)) :
    evaluateEntries host context level es =
      (es.map Prod.fst).zip <$> (es.map Prod.snd).mapM (evaluate host context level) := by
  induction es with
  | nil => simp [evaluateEntries]
  | cons e es ih => simp [evaluateEntries, ih]

end Rows

/-! ## Evaluations side by side -/

/-- A relation between computations of two kinds that goes through all that an evaluation is made
of. It need not relate those that fail for too much depth. -/
structure Simulation (m n : Type → Type) [Monad m] [Monad n] where
  rel {α : Type} : ExceptT RunError m α → ExceptT RunError n α → Prop
  pure {α : Type} (a : α) : rel (Pure.pure a) (Pure.pure a)
  fail {α : Type} {e : RunError} (h : e ≠ .tooDeep) : rel (throw e : ExceptT RunError m α) (throw e)
  bind {α β : Type} {x : ExceptT RunError m α} {x' : ExceptT RunError n α}
    {k : α → ExceptT RunError m β} {k' : α → ExceptT RunError n β} :
    rel x x' → (∀ a, rel (k a) (k' a)) → rel (x >>= k) (x' >>= k')

namespace Simulation

section Computations

variable {m n : Type → Type} [Monad m] [Monad n] (S : Simulation m n) {α β : Type}

theorem settled {r : Except RunError α} (h : r ≠ .error .tooDeep) :
    S.rel (Expression.settled r) (Expression.settled r) := by
  cases r with
  | ok a => exact S.pure a
  | error e => exact S.fail fun he ↦ h (congrArg Except.error he)

variable [LawfulMonad m] [LawfulMonad n]

theorem map {x : ExceptT RunError m α} {x' : ExceptT RunError n α} (h : S.rel x x') (f : α → β) :
    S.rel (f <$> x) (f <$> x') := by
  rw [map_eq_pure_bind, map_eq_pure_bind]
  exact S.bind h fun a ↦ S.pure (f a)

theorem mapM {as : List α} {k : α → ExceptT RunError m β} {k' : α → ExceptT RunError n β}
    (h : ∀ a ∈ as, S.rel (k a) (k' a)) : S.rel (as.mapM k) (as.mapM k') := by
  induction as with
  | nil =>
    rw [List.mapM_nil, List.mapM_nil]
    exact S.pure []
  | cons a as ih =>
    obtain ⟨ha, has⟩ := List.forall_mem_cons.mp h
    rw [List.mapM_cons, List.mapM_cons]
    exact S.bind ha fun b ↦ S.bind (ih has) fun bs ↦ S.pure (b :: bs)

end Computations

section Evaluations

variable {m n : Type → Type} [Monad m] [Monad n] [LawfulMonad m] [LawfulMonad n]
  {S : Simulation m n} {host : Host m} {host' : Host n} {context : Context}
  (calls : ∀ f arguments, S.rel (host.call f arguments) (host'.call f arguments))
include calls

omit [LawfulMonad m] [LawfulMonad n] in
theorem callMethod (v : Value) (name : String) (arguments : List Value) :
    S.rel (Expression.callMethod host v name arguments)
      (Expression.callMethod host' v name arguments) := by
  cases v with
  | object entries =>
    rw [Expression.callMethod, Expression.callMethod]
    cases Entries.get? name entries with
    | some v =>
      cases v with
      | function f => exact calls f arguments
      | _ => exact S.fail nofun
    | none =>
      dsimp only
      split
      · exact S.pure _
      · exact S.fail nofun
  | _ => exact S.settled (Value.method_ne_tooDeep _ name arguments)

omit [LawfulMonad m] [LawfulMonad n] in
theorem callValue (name : String) (v : Value) (arguments : List Value) :
    S.rel (Expression.callValue host name v arguments)
      (Expression.callValue host' name v arguments) := by
  cases v with
  | function f => exact calls f arguments
  | _ => exact S.fail nofun

/-- **Levels enough for the height are enough.** An expression is evaluated alike by two hosts whose
calls are alike, and no part of it comes to the limit. By induction on the expression, whose parts
stand one level deeper and are less high. -/
theorem evaluate (e : Expression) {level : Nat} (h : level + e.height ≤ levelLimit) :
    S.rel (Expression.evaluate host context level e)
      (Expression.evaluate host' context level e) := by
  induction hsize : sizeOf e using Nat.strongRecOn generalizing e level with
  | _ size ih =>
    subst hsize
    have hlevel : ¬levelLimit < level := Nat.not_lt.mpr ((Nat.le_add_right _ _).trans h)
    have hpart : ∀ {place part}, (place, part) ∈ e.branches →
        S.rel (Expression.evaluate host context (level + 1) part)
          (Expression.evaluate host' context (level + 1) part) := by
      intro place part hmem
      have := height_branch_lt hmem
      exact ih _ (sizeOf_branch_lt hmem) part (by dsimp only at this; omega) rfl
    rw [Expression.evaluate.eq_def, if_neg hlevel, Expression.evaluate.eq_def host', if_neg hlevel]
    cases e with
    | null | boolean | number | string => exact S.pure _
    | identifier name =>
      dsimp only
      cases context.get? name with
      | some v => exact S.pure v
      | none => exact S.fail (by simp)
    | array items =>
      dsimp only
      rw [evaluateAll_eq_mapM, evaluateAll_eq_mapM]
      exact S.bind (S.mapM fun item hitem ↦ hpart (List.mem_map_of_mem hitem)) fun _ ↦ S.pure _
    | object entries =>
      dsimp only
      rw [evaluateEntries_eq_mapM, evaluateEntries_eq_mapM]
      refine S.bind (S.map (S.mapM fun part hpart' ↦ ?_) _) fun _ ↦ S.pure _
      obtain ⟨entry, hentry, rfl⟩ := List.mem_map.mp hpart'
      exact hpart (List.mem_map_of_mem hentry)
    | member target name =>
      exact S.bind (hpart List.mem_cons_self) fun v ↦ S.settled (v.property_ne_tooDeep name)
    | index target place =>
      refine S.bind (hpart List.mem_cons_self) fun v ↦ ?_
      refine S.bind (hpart (List.mem_cons_of_mem _ List.mem_cons_self)) fun key ↦ ?_
      exact S.settled (v.property_ne_tooDeep key.text)
    | call callee arguments =>
      dsimp only
      rw [evaluateAll_eq_mapM, evaluateAll_eq_mapM]
      refine S.bind (S.mapM fun argument hargument ↦
        hpart (List.mem_cons_of_mem _ (List.mem_map_of_mem hargument))) fun values ↦ ?_
      cases callee with
      | member target name =>
        -- The member itself is passed over: its target stands at the level that it would stand at.
        have hmember : (Place.leading, member target name) ∈
            (call (member target name) arguments).branches := List.mem_cons_self
        have htarget : (Place.leading, target) ∈ (member target name).branches :=
          List.mem_cons_self
        have hheight := (height_branch_lt htarget).trans (height_branch_lt hmember)
        have hsize := (sizeOf_branch_lt htarget).trans (sizeOf_branch_lt hmember)
        refine S.bind (ih _ hsize target ?_ rfl) fun v ↦ callMethod calls v name values
        dsimp only at hheight
        omega
      | _ => exact S.bind (hpart List.mem_cons_self) fun v ↦ callValue calls _ v values
    | unary operator operand =>
      exact S.bind (hpart List.mem_cons_self) fun v ↦ S.settled (v.unary_ne_tooDeep operator)
    | binary operator left right =>
      refine S.bind (hpart List.mem_cons_self) fun a ↦ ?_
      split
      · exact S.pure a
      · exact S.bind (hpart (List.mem_cons_of_mem _ List.mem_cons_self)) fun b ↦
          S.settled (a.binary_ne_tooDeep operator b)
    | conditional condition whenTrue whenFalse =>
      refine S.bind (hpart List.mem_cons_self) fun c ↦ ?_
      split
      · exact hpart (List.mem_cons_of_mem _ List.mem_cons_self)
      · exact hpart (List.mem_cons_of_mem _ (List.mem_cons_of_mem _ List.mem_cons_self))

end Evaluations

end Simulation

/-! ## Evaluations on record -/

variable {host : Host Id} {context : Context}

/-- What is done on record and what is done without, side by side. -/
def recording (host : Host Id) : Simulation (StateM (List HostCall)) Id where
  rel x x' := Records host x (DataOutline.settled x')
  pure := .pure
  fail h := .fail h
  bind hx hk := by
    rw [settled_bind]
    exact hx.bind hk

/-- The calls of host functions in the evaluation of an expression, in their order. -/
def calls (host : Host Id) (context : Context) (level : Nat) (e : Expression) : List HostCall :=
  ((evaluate host.recorded context level e).run.run []).2

theorem exists_call_of_tooDeep {e : Expression} {level : Nat} (h : level + e.height ≤ levelLimit)
    (hdeep : value host context level e = .error .tooDeep) :
    ∃ call ∈ calls host context level e,
      DataOutline.settled (host.call call.1 call.2) = .error .tooDeep := by
  have hrecords : Records host (evaluate host.recorded context level e)
      (value host context level e) :=
    Simulation.evaluate (S := recording host) Records.call e h
  obtain ⟨made, hrun, hcall⟩ := hrecords []
  rw [calls, hrun]
  exact hcall hdeep

/-- **The level is only fuel.** At a deeper level an expression has the same value or error, or the
limit is hit. It is not hit where the level and the height of the expression stay within it
together, unless a host function that the evaluation calls reports it. -/
theorem value_fuel (host : Host Id) (context : Context) (e : Expression) {level level' : Nat}
    (h : level ≤ level') :
    (value host context level' e = value host context level e ∨
        value host context level' e = .error .tooDeep) ∧
      (level + e.height ≤ levelLimit → value host context level e = .error .tooDeep →
        ∃ call ∈ calls host context level e,
          DataOutline.settled (host.call call.1 call.2) = .error .tooDeep) :=
  ⟨(value_yields e h).imp_right And.right, exists_call_of_tooDeep⟩

/-- A host function that reports the limit, called where there is no lack of levels. -/
theorem value_fuel_reported :
    let host : Host Id := ⟨fun _ _ ↦ throw .tooDeep⟩
    let context : Context := ⟨[("f", .function ⟨"f", 0⟩)]⟩
    let e : Expression := .unary .not (.call (.identifier "f") [])
    (0 ≤ 255 ∧ 0 + e.height ≤ levelLimit ∧ value host context 0 e = .error .tooDeep) ∧
      (value host context 255 e = value host context 0 e ∨
        value host context 255 e = .error .tooDeep) ∧
      ∃ call ∈ calls host context 0 e,
        DataOutline.settled (host.call call.1 call.2) = .error .tooDeep := by
  intro host context e
  have hleaf : (identifier "f").height = 0 := reach_eq_zero rfl
  have hlow : e.height ≤ 2 := by simp [e, height_le_iff, branches, hleaf]
  have hheight : 0 + e.height ≤ levelLimit := by rw [levelLimit]; omega
  have hvalue : value host context 0 e = .error .tooDeep := rfl
  obtain ⟨hfuel, hcall⟩ := value_fuel host context e (Nat.zero_le 255)
  exact ⟨⟨Nat.zero_le _, hheight, hvalue⟩, hfuel, hcall hheight hvalue⟩

end Expression

end DataOutline
