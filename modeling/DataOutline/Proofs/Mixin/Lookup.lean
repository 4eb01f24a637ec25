import Mathlib.Data.List.Induction
import DataOutline.Expression.Evaluation
import DataOutline.Proofs.Mixin.Dotted
import DataOutline.Proofs.Program.Meaning

/-!
# Bases of mixins as expressions

A mixin looks up its base by itself, not through the evaluator. The expression that asks for the
same is the first name with an index behind it for each further part, as `a["b"]["c"]` is for
`a.b.c`. An expression is more patient: it gives null where the mixin reports a part that is not
there, and it knows the length of an array and the characters of a string. But nothing leads from
there to an array or an object again, and these are the bases that a mixin can use.
-/

namespace DataOutline.Mixin

open Expression

/-! ## The expression of a base -/

/-- An expression with an index for each of some names behind it. -/
def indexed (target : Expression) (parts : List String) : Expression :=
  parts.foldl (fun e part ↦ .index e (.string part)) target

/-- The expression that asks for what a base names. -/
def chain (base : String) : Expression :=
  indexed (.identifier ((dotted base).headD "")) (dotted base).tail

def bound (context : Context) (name : String) : Except RunError Value :=
  match context.get? name with
  | some v => .ok v
  | none => .error (.undefinedVariable name)

/-- The value of a property, of a property of it, and so on. -/
def follow (parts : List String) (v : Value) : Except RunError Value :=
  parts.foldlM (fun v part ↦ v.property part) v

section Evaluating

variable {m : Type → Type} [Monad m] [LawfulMonad m] {host : Host m} {context : Context}
  {level : Nat}

theorem bind_settled_settled (r : Except RunError Value) (k : Value → Except RunError Value) :
    (Expression.settled (m := m) r >>= fun v ↦ Expression.settled (k v)) =
      Expression.settled (r >>= k) := by
  rw [Expression.bind_settled]
  cases r <;> rfl

omit [LawfulMonad m] in
theorem evaluate_identifier (h : level ≤ levelLimit) (name : String) :
    evaluate host context level (.identifier name) = Expression.settled (bound context name) := by
  rw [evaluate, if_neg (Nat.not_lt.mpr h), bound]
  cases context.get? name <;> rfl

theorem evaluate_index (h : level < levelLimit) (target : Expression) (name : String) :
    evaluate host context level (.index target (.string name)) =
      evaluate host context (level + 1) target >>= fun v ↦
        Expression.settled (v.property name) := by
  have hname : evaluate host context (level + 1) (.string name) = pure (.string name) := by
    rw [evaluate, if_neg (Nat.not_lt.mpr h)]
  rw [evaluate, if_neg (Nat.not_lt.mpr (Nat.le_of_lt h)), hname]
  simp only [pure_bind]
  rfl

/-- The outermost index of the expression is the last part, and the first name stands deepest. -/
theorem evaluate_indexed (name : String) (parts : List String)
    (h : level + parts.length ≤ levelLimit) :
    evaluate host context level (indexed (.identifier name) parts) =
      Expression.settled (bound context name >>= follow parts) := by
  induction parts using List.reverseRecOn generalizing level with
  | nil =>
    have hnil : (bound context name >>= follow []) = bound context name := bind_pure _
    rw [hnil]
    exact evaluate_identifier h name
  | append_singleton parts part ih =>
    rw [List.length_append, List.length_singleton] at h
    have hlast : indexed (.identifier name) (parts ++ [part]) =
        .index (indexed (.identifier name) parts) (.string part) := List.foldl_concat ..
    have hfollow : follow (parts ++ [part]) =
        fun v ↦ follow parts v >>= fun w ↦ w.property part := by
      funext v
      rw [follow, List.foldlM_append]
      simp only [List.foldlM_cons, List.foldlM_nil, bind_pure]
      rfl
    rw [hlast, evaluate_index (by omega), ih (by omega), bind_settled_settled, hfollow, bind_assoc]

end Evaluating

/-! ## Off the way -/

/-- What properties come to once one of them is no part: nothing that has parts. -/
inductive Lost : Except RunError Value → Prop
  | invalid (name target : String) : Lost (.error (.invalidProperty name target))
  | null : Lost (.ok .null)
  | number (x : Float) : Lost (.ok (.number x))
  | string (s : String) : Lost (.ok (.string s))

theorem property_of_child? {part : String} {v w : Value} (h : child? part v = some w) :
    v.property part = .ok w := by
  cases v with
  | object entries =>
    have hget : Entries.get? part entries = some w := h
    rw [Value.property, hget, Option.getD_some]
  | array items unordered =>
    rw [child?] at h
    have hlength : part ≠ "length" := by
      rintro rfl
      exact nomatch h
    rw [Value.property, if_neg hlength, h, Option.getD_some]
  | null | boolean | number | string | function => exact nomatch h

namespace Lost

theorem of_child? {part : String} {v : Value} (h : child? part v = none) :
    Lost (v.property part) := by
  cases v with
  | object entries =>
    have hget : Entries.get? part entries = none := h
    rw [Value.property, hget]
    exact .null
  | array items unordered =>
    rw [child?] at h
    rw [Value.property, h]
    split
    · exact .number _
    · exact .null
  | string s =>
    rw [Value.property]
    split
    · exact .number _
    · split
      · exact .string _
      · exact .null
  | null => exact .invalid _ _
  | boolean | number | function => exact .null

/-- There is no way back: null has no properties, a number has none that is there, and those of a
string are a number and strings. -/
theorem property {r : Except RunError Value} (h : Lost r) (part : String) :
    Lost (r >>= fun v ↦ v.property part) := by
  cases h with
  | invalid name target => exact .invalid name target
  | null => exact .invalid _ _
  | number x => exact .null
  | string s => exact of_child? (v := .string s) rfl

theorem follow {r : Except RunError Value} (h : Lost r) (parts : List String) :
    Lost (r >>= Mixin.follow parts) := by
  induction parts generalizing r with
  | nil =>
    have hnil : (r >>= Mixin.follow []) = r := bind_pure r
    rwa [hnil]
  | cons part parts ih =>
    have hcons : Mixin.follow (part :: parts) = fun v ↦ v.property part >>= Mixin.follow parts :=
      funext fun v ↦ List.foldlM_cons
    rw [hcons, ← bind_assoc]
    exact ih (h.property part)

theorem not_structured {v : Value} (h : Lost (.ok v)) : v.isStructured = false := by
  cases h <;> rfl

end Lost

/-! ## Both lookups -/

/-- How the lookup of a base and the value of its expression go together. -/
inductive Alike (base : String) : Except RunError Value → Except RunError Value → Prop
  | found (v : Value) : Alike base (.ok v) (.ok v)
  | unbound (name : String) :
      Alike base (.error (.undefinedVariable name)) (.error (.undefinedVariable name))
  | lost (part : String) {r : Except RunError Value} (h : Lost r) :
      Alike base (.error (.mixin (.unresolvedBase base part))) r

theorem alike_descend (base : String) (parts : List String) (v : Value) :
    Alike base (descend base v parts) (follow parts v) := by
  induction parts generalizing v with
  | nil => exact .found v
  | cons part parts ih =>
    rw [descend, follow, List.foldlM_cons]
    cases hpart : child? part v with
    | some w =>
      rw [property_of_child? hpart]
      exact ih w
    | none => exact .lost part ((Lost.of_child? hpart).follow parts)

theorem exists_dotted (base : String) : ∃ first parts, dotted base = first :: parts :=
  List.exists_cons_of_ne_nil (dotted_ne_nil base)

theorem alike_resolveBase (context : Context) {base first : String} {parts : List String}
    (h : dotted base = first :: parts) :
    Alike base (resolveBase context base) (bound context first >>= follow parts) := by
  rw [resolveBase, h, bound]
  dsimp only
  cases context.get? first with
  | some v => exact alike_descend base parts v
  | none => exact .unbound first

theorem exists_apply_iff (v : Value) :
    (∃ removals additions result, apply v removals additions = .ok result) ↔
      v.isStructured = true := by
  constructor
  · rintro ⟨removals, additions, result, happly⟩
    by_contra hplain
    rw [apply_eq, if_neg hplain] at happly
    exact nomatch happly
  · intro hstructured
    refine ⟨[], [], v, ?_⟩
    rw [apply_eq, if_pos hstructured]
    rfl

/-- **Mixins look up what expressions do.** With at most as many parts as an expression has levels,
the expression of a base comes to a value or an error without any effect. It is what the mixin comes
to, if that is a value or an unbound name, and else nothing with parts. So a mixin can use a base if
and only if its expression gives an array or an object, which then is the base. -/
theorem base_lookup (context : Context) (base : String) (h : (dotted base).length ≤ 257) :
    ∃ outcome : Except RunError Value,
      (∀ (m : Type → Type) [Monad m] [LawfulMonad m] (host : Host m),
        evaluate host context 0 (chain base) = Expression.settled outcome) ∧
      (∀ v, resolveBase context base = .ok v → outcome = .ok v) ∧
      (∀ name, resolveBase context base = .error (.undefinedVariable name) →
        outcome = .error (.undefinedVariable name)) ∧
      (∀ whole part, resolveBase context base = .error (.mixin (.unresolvedBase whole part)) →
        Lost outcome) ∧
      ∀ v, (resolveBase context base = .ok v ∧
          ∃ removals additions result, apply v removals additions = .ok result) ↔
        outcome = .ok v ∧ v.isStructured = true := by
  obtain ⟨first, parts, hbase⟩ := exists_dotted base
  rw [hbase, List.length_cons] at h
  have halike := alike_resolveBase context hbase
  refine ⟨bound context first >>= follow parts, ?_, ?_⟩
  · intro m _ _ host
    rw [chain, hbase]
    exact evaluate_indexed (m := m) first parts (by rw [levelLimit]; omega)
  · generalize bound context first >>= follow parts = outcome at halike ⊢
    generalize resolveBase context base = resolved at halike ⊢
    simp only [exists_apply_iff]
    cases halike with
    | found v => simp
    | unbound name => simp
    | lost part hlost =>
      refine ⟨nofun, nofun, fun _ _ _ ↦ hlost, fun v ↦ ⟨nofun, ?_⟩⟩
      rintro ⟨rfl, hstructured⟩
      exact nomatch hlost.not_structured.symm.trans hstructured

/-- An item of an array, and its length, which is no part of it. -/
theorem base_lookup_order :
    let item (name : String) : Value := .object [("name", .string name)]
    let order : Value := .object [("items", .array [item "a", item "b"] false)]
    let context : Context := ⟨[("order", order)]⟩
    ∃ second length : Except RunError Value,
      (∀ (m : Type → Type) [Monad m] [LawfulMonad m] (host : Host m),
        evaluate host context 0 (chain "order.items.1") = Expression.settled second ∧
        evaluate host context 0 (chain "order.items.length") = Expression.settled length) ∧
      resolveBase context "order.items.1" = .ok (item "b") ∧ second = .ok (item "b") ∧
      resolveBase context "order.items.length" =
        .error (.mixin (.unresolvedBase "order.items.length" "length")) ∧ Lost length := by
  intro item order context
  obtain ⟨second, hsecond, hfound, -⟩ :=
    base_lookup context "order.items.1" (by decide +kernel)
  obtain ⟨length, hlength, -, -, hlost, -⟩ :=
    base_lookup context "order.items.length" (by decide +kernel)
  have hresolved : resolveBase context "order.items.1" = .ok (item "b") := by rfl
  have hunresolved : resolveBase context "order.items.length" =
      .error (.mixin (.unresolvedBase "order.items.length" "length")) := by rfl
  exact ⟨second, length, fun m _ _ host ↦ ⟨hsecond m host, hlength m host⟩, hresolved,
    hfound _ hresolved, hunresolved, hlost _ _ hunresolved⟩

end DataOutline.Mixin
