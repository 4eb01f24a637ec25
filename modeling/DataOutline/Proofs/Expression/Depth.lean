import DataOutline.Expression.Evaluation
import DataOutline.Proofs.Expression.Completeness
import DataOutline.Proofs.Program.Outcome

/-!
# Evaluation at different depths

The level of an expression only counts against the limit: at two levels an expression has the same
value or the same error, unless the limit is hit at the deeper one. Host functions are taken to have
no effects here, so that an evaluation is its result.
-/

namespace DataOutline.Expression

variable (host : Host Id) (context : Context)

/-- The value of an expression at a level, or the error of its evaluation. -/
def value (level : Nat) (e : Expression) : Except RunError Value :=
  DataOutline.settled (evaluate host context level e)

variable {host context}

theorem settled_evaluateAll (level : Nat) (es : List Expression) :
    DataOutline.settled (evaluateAll host context level es) =
      es.mapM (value host context level) := by
  induction es with
  | nil => rfl
  | cons e es ih =>
    rw [evaluateAll, List.mapM_cons, settled_bind]
    refine bind_congr fun v ↦ ?_
    rw [settled_bind, ih]
    rfl

theorem settled_evaluateEntries (level : Nat) (es : List (String × Expression)) :
    DataOutline.settled (evaluateEntries host context level es) =
      (es.map Prod.fst).zip <$> (es.map Prod.snd).mapM (value host context level) := by
  induction es with
  | nil => rfl
  | cons e es ih =>
    rw [evaluateEntries, List.map_cons, List.map_cons, List.mapM_cons, settled_bind, map_bind]
    refine bind_congr fun v ↦ ?_
    rw [settled_bind, ih]
    cases (es.map Prod.snd).mapM (value host context level) <;> rfl

/-! ## From a text to its value -/

theorem parse_ofList {cs : List Char} {tokens : List Token} (h : tokenize cs = .ok tokens) :
    parse (String.ofList cs) = ofTokens tokens := by
  rw [parse, String.toList_ofList, h]
  rfl

theorem exists_tokens_of_parse {code : String} {e : Expression} (h : parse code = .ok e) :
    ∃ tokens, tokenize code.toList = .ok tokens ∧ ofTokens tokens = .ok e := by
  obtain ⟨tokens, htokens, hof⟩ := bind_eq_ok_iff.mp h
  exact ⟨tokens, mapError_eq_ok_iff.mp htokens, hof⟩

theorem settled_evaluateText (code : String) :
    DataOutline.settled (evaluateText host code context) =
      parse code >>= value host context 0 := by
  rw [evaluateText, settled_bind]
  rfl

/-! ## The equations of an evaluation -/

theorem value_of_lt {level : Nat} (h : levelLimit < level) (e : Expression) :
    value host context level e = .error .tooDeep := by
  rw [value, evaluate_of_lt h]
  rfl

section Equations

variable {level : Nat} (h : level ≤ levelLimit)
include h

theorem value_null : value host context level .null = .ok .null := by
  rw [value, evaluate, if_neg (Nat.not_lt.mpr h)]
  rfl

theorem value_boolean (b : Bool) : value host context level (.boolean b) = .ok (.boolean b) := by
  rw [value, evaluate, if_neg (Nat.not_lt.mpr h)]
  rfl

theorem value_number (x : Float) : value host context level (.number x) = .ok (.number x) := by
  rw [value, evaluate, if_neg (Nat.not_lt.mpr h)]
  rfl

theorem value_string (s : String) : value host context level (.string s) = .ok (.string s) := by
  rw [value, evaluate, if_neg (Nat.not_lt.mpr h)]
  rfl

theorem value_identifier (name : String) :
    value host context level (.identifier name) =
      match context.get? name with
      | some v => .ok v
      | none => .error (.undefinedVariable name) := by
  rw [value, evaluate, if_neg (Nat.not_lt.mpr h)]
  cases context.get? name <;> rfl

theorem value_array (es : List Expression) :
    value host context level (.array es) =
      (Value.array · false) <$> es.mapM (value host context (level + 1)) := by
  rw [value, evaluate, if_neg (Nat.not_lt.mpr h), settled_bind, settled_evaluateAll]
  rfl

theorem value_object (es : List (String × Expression)) :
    value host context level (.object es) =
      (fun values ↦ Value.object (Entries.ofList ((es.map Prod.fst).zip values))) <$>
        (es.map Prod.snd).mapM (value host context (level + 1)) := by
  rw [value, evaluate, if_neg (Nat.not_lt.mpr h), settled_bind, settled_evaluateEntries]
  cases (es.map Prod.snd).mapM (value host context (level + 1)) <;> rfl

theorem value_member (target : Expression) (name : String) :
    value host context level (.member target name) =
      value host context (level + 1) target >>= fun v ↦ v.property name := by
  rw [value, evaluate, if_neg (Nat.not_lt.mpr h), settled_bind]
  rfl

theorem value_index (target place : Expression) :
    value host context level (.index target place) =
      value host context (level + 1) target >>= fun v ↦
        value host context (level + 1) place >>= fun key ↦ v.property key.text := by
  rw [value, evaluate, if_neg (Nat.not_lt.mpr h), settled_bind]
  refine bind_congr fun v ↦ ?_
  rw [settled_bind]
  rfl

theorem value_call (callee : Expression) (arguments : List Expression) :
    value host context level (.call callee arguments) =
      arguments.mapM (value host context (level + 1)) >>= fun values ↦
        match callee with
        | .member target name => value host context (level + 1) target >>= fun v ↦
            DataOutline.settled (callMethod host v name values)
        | other => value host context (level + 1) other >>= fun v ↦
            DataOutline.settled (callValue host other.calleeName v values) := by
  rw [value, evaluate, if_neg (Nat.not_lt.mpr h), settled_bind, settled_evaluateAll]
  refine bind_congr fun values ↦ ?_
  cases callee with
  | _ =>
    rw [settled_bind]
    rfl

theorem value_unary (operator : UnaryOperator) (operand : Expression) :
    value host context level (.unary operator operand) =
      value host context (level + 1) operand >>= fun v ↦ v.unary operator := by
  rw [value, evaluate, if_neg (Nat.not_lt.mpr h), settled_bind]
  rfl

theorem value_binary (operator : BinaryOperator) (left right : Expression) :
    value host context level (.binary operator left right) =
      value host context (level + 1) left >>= fun a ↦
        if (operator = .and && !a.isTruthy) || (operator = .or && a.isTruthy) then .ok a
        else value host context (level + 1) right >>= fun b ↦ a.binary operator b := by
  rw [value, evaluate, if_neg (Nat.not_lt.mpr h), settled_bind]
  refine bind_congr fun a ↦ ?_
  split
  · rfl
  · rw [settled_bind]
    rfl

theorem value_conditional (condition whenTrue whenFalse : Expression) :
    value host context level (.conditional condition whenTrue whenFalse) =
      value host context (level + 1) condition >>= fun c ↦
        if c.isTruthy then value host context (level + 1) whenTrue
        else value host context (level + 1) whenFalse := by
  rw [value, evaluate, if_neg (Nat.not_lt.mpr h), settled_bind]
  refine bind_congr fun c ↦ ?_
  split <;> rfl

end Equations

section Yields

variable {α β : Type} {r s : Except RunError α}

theorem Yields.bind_bind {deep : Prop} {k k' : α → Except RunError β} (h : Yields deep r s)
    (hk : ∀ a, Yields deep (k a) (k' a)) : Yields deep (r >>= k) (s >>= k') := by
  rcases h with rfl | ⟨hdeep, rfl⟩
  · cases r with
    | error e => exact .refl _ _
    | ok a => exact hk a
  · exact Or.inr ⟨hdeep, rfl⟩

theorem Yields.map {deep : Prop} (h : Yields deep r s) (f : α → β) :
    Yields deep (f <$> r) (f <$> s) := by
  rcases h with rfl | ⟨hdeep, rfl⟩
  · exact .refl _ _
  · exact Or.inr ⟨hdeep, rfl⟩

theorem Yields.mapM {deep : Prop} {k k' : α → Except RunError β} {as : List α}
    (h : ∀ a ∈ as, Yields deep (k a) (k' a)) : Yields deep (as.mapM k) (as.mapM k') := by
  induction as with
  | nil => exact .refl _ _
  | cons a as ih =>
    obtain ⟨ha, has⟩ := List.forall_mem_cons.mp h
    rw [List.mapM_cons, List.mapM_cons]
    exact ha.bind_bind fun b ↦ (ih has).bind_bind fun bs ↦ .refl _ _

end Yields

/-! ## Levels -/

theorem yields_of_le {level : Nat} {e : Expression} {r : Except RunError Value}
    (body : level ≤ levelLimit → Yields True (value host context level e) r) :
    Yields True (value host context level e) r := by
  by_cases h : level ≤ levelLimit
  · exact body h
  · exact Or.inr ⟨trivial, value_of_lt (Nat.not_le.mp h) e⟩

theorem yields_of_body {level level' : Nat} (hle : level' ≤ level) {e : Expression}
    (body : level ≤ levelLimit → level' ≤ levelLimit →
      Yields True (value host context level e) (value host context level' e)) :
    Yields True (value host context level e) (value host context level' e) :=
  yields_of_le fun h ↦ body h (Nat.le_trans hle h)

mutual

/-- **The level of an expression makes no difference** to its value, but for the limit. -/
theorem value_yields : ∀ (e : Expression) {level level' : Nat}, level' ≤ level →
    Yields True (value host context level e) (value host context level' e)
  | .null, _, _, hle => yields_of_body hle fun h h' ↦ by
    rw [value_null h, value_null h']
    exact .refl _ _
  | .boolean b, _, _, hle => yields_of_body hle fun h h' ↦ by
    rw [value_boolean h, value_boolean h']
    exact .refl _ _
  | .number x, _, _, hle => yields_of_body hle fun h h' ↦ by
    rw [value_number h, value_number h']
    exact .refl _ _
  | .string s, _, _, hle => yields_of_body hle fun h h' ↦ by
    rw [value_string h, value_string h']
    exact .refl _ _
  | .identifier name, _, _, hle => yields_of_body hle fun h h' ↦ by
    rw [value_identifier h, value_identifier h']
    exact .refl _ _
  | .array es, _, _, hle => yields_of_body hle fun h h' ↦ by
    rw [value_array h, value_array h']
    exact (values_yields es (Nat.succ_le_succ hle)).map _
  | .object es, _, _, hle => yields_of_body hle fun h h' ↦ by
    rw [value_object h, value_object h']
    exact (entries_yields es (Nat.succ_le_succ hle)).map _
  | .member target name, _, _, hle => yields_of_body hle fun h h' ↦ by
    rw [value_member h, value_member h']
    exact (value_yields target (Nat.succ_le_succ hle)).bind_bind fun _ ↦ .refl _ _
  | .index target place, _, _, hle => yields_of_body hle fun h h' ↦ by
    rw [value_index h, value_index h']
    refine (value_yields target (Nat.succ_le_succ hle)).bind_bind fun v ↦ ?_
    exact (value_yields place (Nat.succ_le_succ hle)).bind_bind fun _ ↦ .refl _ _
  | .call callee arguments, _, _, hle => yields_of_body hle fun h h' ↦ by
    rw [value_call h, value_call h']
    refine (values_yields arguments (Nat.succ_le_succ hle)).bind_bind fun values ↦ ?_
    split
    · next target name =>
      exact (value_yields target (Nat.succ_le_succ hle)).bind_bind fun _ ↦ .refl _ _
    · exact (value_yields callee (Nat.succ_le_succ hle)).bind_bind fun _ ↦ .refl _ _
  | .unary operator operand, _, _, hle => yields_of_body hle fun h h' ↦ by
    rw [value_unary h, value_unary h']
    exact (value_yields operand (Nat.succ_le_succ hle)).bind_bind fun _ ↦ .refl _ _
  | .binary operator left right, _, _, hle => yields_of_body hle fun h h' ↦ by
    rw [value_binary h, value_binary h']
    refine (value_yields left (Nat.succ_le_succ hle)).bind_bind fun a ↦ ?_
    split
    · exact .refl _ _
    · exact (value_yields right (Nat.succ_le_succ hle)).bind_bind fun _ ↦ .refl _ _
  | .conditional condition whenTrue whenFalse, _, _, hle => yields_of_body hle fun h h' ↦ by
    rw [value_conditional h, value_conditional h']
    refine (value_yields condition (Nat.succ_le_succ hle)).bind_bind fun c ↦ ?_
    split
    · exact value_yields whenTrue (Nat.succ_le_succ hle)
    · exact value_yields whenFalse (Nat.succ_le_succ hle)

theorem values_yields : ∀ (es : List Expression) {level level' : Nat}, level' ≤ level →
    Yields True (es.mapM (value host context level)) (es.mapM (value host context level'))
  | [], _, _, _ => .refl _ _
  | e :: es, _, _, hle => by
    rw [List.mapM_cons, List.mapM_cons]
    refine (value_yields e hle).bind_bind fun _ ↦ ?_
    exact (values_yields es hle).bind_bind fun _ ↦ .refl _ _

theorem entries_yields : ∀ (es : List (String × Expression)) {level level' : Nat}, level' ≤ level →
    Yields True ((es.map Prod.snd).mapM (value host context level))
      ((es.map Prod.snd).mapM (value host context level'))
  | [], _, _, _ => .refl _ _
  | (_, e) :: es, _, _, hle => by
    rw [List.map_cons, List.mapM_cons, List.mapM_cons]
    refine (value_yields e hle).bind_bind fun _ ↦ ?_
    exact (entries_yields es hle).bind_bind fun _ ↦ .refl _ _

end

end DataOutline.Expression
