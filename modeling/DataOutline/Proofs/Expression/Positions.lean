import Mathlib.Data.List.TakeDrop
import DataOutline.Proofs.Decimal.Index
import DataOutline.Proofs.Mixin.Lookup

/-!
# Positions in strings and arrays

A string is the sequence of its characters, each of them a string, and an array is the sequence of
its items; slices, concatenations, lengths and indices mean the same of both. A bound of a slice is
a position between the start of the sequence and its end, whatever the number it is given as, and so
a slice never reaches outside. Two slices that meet at a position make up the sequence, and an index
finds the item between two positions that follow each other.
-/

namespace DataOutline

open Expression

/-! ## Sequences -/

/-- The kinds of sequences: strings, and arrays whose order matters or not. -/
inductive SequenceKind where
  | string
  | array (unordered : Bool)
deriving DecidableEq

namespace Value

/-- A value as a sequence: of which kind it is, and its items. -/
def sequence? : Value → Option (SequenceKind × List Value)
  | .string s => some (.string, s.toList.map fun c ↦ .string c.toString)
  | .array items unordered => some (.array unordered, items)
  | _ => none

def IsInteger (v : Value) (i : Int) : Prop :=
  ∃ x, v = .number x ∧ (Decimal.Exact.ofFloat x).integer? = some i

theorem isInteger_ofInt {i : Int} (h : i.natAbs ≤ 2 ^ 53) :
    (number (Float.ofInt i)).IsInteger i := by
  refine ⟨_, rfl, ?_⟩
  rcases h.lt_or_eq with hlt | heq
  · exact Decimal.integer?_ofFloat_ofInt hlt
  · rcases Int.natAbs_eq_iff.mp heq with rfl | rfl <;> decide +kernel

/-- The position in a sequence of `n` items that an offset means: one from the end if it is
negative, and never one outside. -/
def position (n : Nat) (offset : Int) : Nat :=
  (min (max 0 (if offset < 0 then n + offset else offset)) n).toNat

theorem position_zero (n : Nat) : position n 0 = 0 := by
  rw [position]
  omega

theorem position_natCast {n i : Nat} (h : i ≤ n) : position n i = i := by
  rw [position, if_neg (by omega)]
  omega

section Sequence

variable {s t : Value} {kind : SequenceKind} {items others : List Value}

theorem sequence?_inj (hs : s.sequence? = some (kind, items))
    (ht : t.sequence? = some (kind, items)) : s = t := by
  have hinjective : Function.Injective fun c : Char ↦ Value.string c.toString := by
    intro c d h
    simpa [Char.toString, String.singleton_inj] using h
  cases s with
  | string s =>
    cases hs
    cases t with
    | string t =>
      have hlist := (Prod.ext_iff.mp (Option.some.inj ht)).2
      rw [String.toList_inj.mp (hinjective.list_map hlist)]
    | _ => cases ht
  | array items unordered =>
    cases hs
    cases t with
    | array => cases ht; rfl
    | _ => cases ht
  | _ => cases hs

theorem sequence?_string_ofList (cs : List Char) :
    (string (String.ofList cs)).sequence? =
      some (.string, cs.map fun c ↦ .string c.toString) := by
  rw [sequence?, String.toList_ofList]

/-! ## Bounds of slices -/

theorem sliceBound_isInteger {v : Value} {a : Int} (h : v.IsInteger a) (n default : Nat) :
    sliceBound n default (some v) = .ok (position n a) := by
  obtain ⟨x, rfl, hx⟩ := h
  change Except.ok _ = _
  congr 1
  cases hexact : Decimal.Exact.ofFloat x with
  | notANumber | infinite =>
    rw [hexact] at hx
    cases hx
  | finite negative mantissa exponent =>
    rw [hexact] at hx
    obtain ⟨k, hk, rfl⟩ := Decimal.integer?_finite_eq_some.mp hx
    have hpart : (Decimal.Exact.finite negative mantissa exponent).truncate? =
        some (Decimal.signed negative k) := by
      change some (Decimal.signed negative
        (mantissa * 2 ^ exponent.toNat / 2 ^ (-exponent).toNat)) = _
      rw [hk, Nat.mul_div_cancel _ (Nat.two_pow_pos _)]
    rw [Decimal.Exact.clamp, hpart, Option.getD_some, position]
    generalize Decimal.signed negative k = a
    split <;> split <;> omega

/-- **No slice reaches outside** of its sequence, whatever its arguments are. -/
theorem sliceRange_le {n start stop : Nat} {arguments : List Value}
    (h : sliceRange n arguments = .ok (start, stop)) : start ≤ stop ∧ stop ≤ n := by
  have hbound : ∀ default ≤ n, ∀ v p, sliceBound n default v = .ok p → p ≤ n := by
    intro default hdefault v p hp
    cases v with
    | none =>
      cases hp
      exact hdefault
    | some v =>
      obtain ⟨x, -, hx⟩ := bind_eq_ok_iff.mp hp
      have hclamp := Decimal.clamp_le (x := .ofFloat x) (Int.neg_nonpos_of_nonneg n.cast_nonneg)
        (Int.natCast_nonneg n)
      cases hx
      split <;> omega
  obtain ⟨start, hstart, hrest⟩ := bind_eq_ok_iff.mp h
  obtain ⟨stop, hstop, hpair⟩ := bind_eq_ok_iff.mp hrest
  cases hpair
  have hfirst := hbound 0 (Nat.zero_le n) _ _ hstart
  have hsecond := hbound n le_rfl _ _ hstop
  exact ⟨Nat.le_max_right _ _, Nat.max_le.mpr ⟨hsecond, hfirst⟩⟩

theorem sliceRange_isInteger {v w : Value} {a b : Int} (ha : v.IsInteger a) (hb : w.IsInteger b)
    (n : Nat) :
    sliceRange n [v, w] = .ok (position n a, max (position n b) (position n a)) := by
  change (sliceBound n 0 (some v) >>= fun start ↦ sliceBound n n (some w) >>= fun stop ↦
    pure (start, max stop start)) = _
  rw [sliceBound_isInteger ha, sliceBound_isInteger hb]
  rfl

theorem sliceRange_rest {v : Value} {a : Int} (ha : v.IsInteger a) (n : Nat) :
    sliceRange n [v] = .ok (position n a, max n (position n a)) := by
  change (sliceBound n 0 (some v) >>= fun start ↦ sliceBound n n none >>= fun stop ↦
    pure (start, max stop start)) = _
  rw [sliceBound_isInteger ha]
  rfl

/-! ## Methods and properties of sequences -/

theorem method_slice (hs : s.sequence? = some (kind, items)) {arguments : List Value}
    {start stop : Nat} (range : sliceRange items.length arguments = .ok (start, stop)) :
    ∃ v, s.method "slice" arguments = .ok v ∧
      v.sequence? = some (kind, items.extract start stop) := by
  cases s with
  | string s =>
    cases hs
    rw [List.length_map] at range
    refine ⟨.string (String.ofList (s.toList.extract start stop)), ?_, ?_⟩
    · change (sliceRange s.toList.length arguments >>= _) = _
      rw [range]
      rfl
    · rw [sequence?_string_ofList, List.extract_eq_take_drop, List.extract_eq_take_drop,
        List.map_take, List.map_drop]
  | array items unordered =>
    cases hs
    refine ⟨.array (items.extract start stop) unordered, ?_, rfl⟩
    change (sliceRange items.length arguments >>= _) = _
    rw [range]
    rfl
  | _ => cases hs

theorem method_concat (hs : s.sequence? = some (kind, items))
    (ht : t.sequence? = some (kind, others)) :
    ∃ v, s.method "concat" [t] = .ok v ∧ v.sequence? = some (kind, items ++ others) := by
  cases s with
  | string s =>
    cases hs
    cases t with
    | string t =>
      cases ht
      refine ⟨.string (s ++ t), rfl, ?_⟩
      rw [sequence?, String.toList_append, List.map_append]
    | _ => cases ht
  | array items unordered =>
    cases hs
    cases t with
    | array others =>
      cases ht
      refine ⟨.array (items ++ others) unordered, ?_, rfl⟩
      change Except.ok (array (items ++ (others ++ [])) unordered) = _
      rw [List.append_nil]
    | _ => cases ht
  | _ => cases hs

/-- Slices and concatenations are of the kind of what they are taken from, whatever the
arguments. -/
theorem kind_of_method (hs : s.sequence? = some (kind, items)) {name : String}
    (hname : name ∈ ["slice", "concat"]) {arguments : List Value} {v : Value}
    (h : s.method name arguments = .ok v) : ∃ items', v.sequence? = some (kind, items') := by
  rw [List.mem_cons, List.mem_singleton] at hname
  cases s with
  | string | array =>
    cases hs
    rcases hname with rfl | rfl
    · obtain ⟨range, -, hv⟩ := bind_eq_ok_iff.mp h
      cases hv
      exact ⟨_, rfl⟩
    · cases h
      exact ⟨_, rfl⟩
  | _ => cases hs

theorem property_length (hs : s.sequence? = some (kind, items)) :
    s.property "length" = .ok (.number (Float.ofNat items.length)) := by
  cases s with
  | string s =>
    cases hs
    rw [List.length_map]
    rfl
  | array items unordered =>
    cases hs
    rfl
  | _ => cases hs

theorem property_isInteger (hs : s.sequence? = some (kind, items)) (fits : items.length ≤ 2 ^ 53)
    {v : Value} {i : Nat} (hv : v.IsInteger i) :
    s.property v.text = .ok (items[i]?.getD .null) := by
  obtain ⟨x, rfl, hx⟩ := hv
  rw [text]
  have hlength : numberText x ≠ "length" := by
    intro heq
    have hdigits := (Decimal.writes_numberText hx).digits.digits
    rw [heq] at hdigits
    exact absurd (hdigits 'l' (by decide)) (by decide)
  cases s with
  | string s =>
    cases hs
    rw [List.length_map] at fits
    rw [property, if_neg hlength, Decimal.getElem?_numberText hx fits, List.getElem?_map]
    cases s.toList[i]? <;> rfl
  | array items unordered =>
    cases hs
    rw [property, if_neg hlength, Decimal.getElem?_numberText hx fits]
  | _ => cases hs

end Sequence

end Value

/-! ## Positions in expressions -/

section Evaluating

variable {m : Type → Type} [Monad m] [LawfulMonad m] {host : Host m} {context : Context}

namespace Expression

variable {level : Nat}

omit [LawfulMonad m] in
theorem evaluate_bound (h : level ≤ levelLimit) {name : String} {v : Value}
    (hv : context.get? name = some v) :
    evaluate host context level (.identifier name) = pure v := by
  rw [Mixin.evaluate_identifier h, Mixin.bound, hv]
  rfl

theorem evaluateAll_singleton {e : Expression} {v : Value}
    (hv : evaluate host context level e = pure v) :
    evaluateAll host context level [e] = pure [v] := by
  rw [evaluateAll, hv, evaluateAll, pure_bind, pure_bind]

theorem evaluateAll_pair {e f : Expression} {v w : Value}
    (hv : evaluate host context level e = pure v) (hw : evaluate host context level f = pure w) :
    evaluateAll host context level [e, f] = pure [v, w] := by
  rw [evaluateAll, hv, evaluateAll_singleton hw, pure_bind, pure_bind]

theorem evaluate_method (h : level ≤ levelLimit) {target : Expression} {name : String}
    {arguments : List Expression} {s v : Value} {values : List Value} {kind : SequenceKind}
    {items : List Value} (harguments : evaluateAll host context (level + 1) arguments = pure values)
    (htarget : evaluate host context (level + 1) target = pure s)
    (hs : s.sequence? = some (kind, items)) (hv : s.method name values = .ok v) :
    evaluate host context level (.call (.member target name) arguments) = pure v := by
  have hcall : callMethod host s name values = settled (s.method name values) := by
    cases s with
    | object => cases hs
    | _ => rfl
  rw [evaluate, if_neg (Nat.not_lt.mpr h), harguments, pure_bind]
  change (evaluate host context (level + 1) target >>= fun v ↦ callMethod host v name values) = _
  rw [htarget, pure_bind, hcall, hv]
  rfl

end Expression

/-- A name that stands for an integer. -/
def Context.BindsInteger (context : Context) (name : String) (i : Int) : Prop :=
  ∃ v, context.get? name = some v ∧ v.IsInteger i

/-- What holds of the positions in a sequence `s`, where `a`, `b`, `i`, `j` and `k` are names of
integers. -/
structure ConsistentPositions (host : Host m) (context : Context) (s : Value) (kind : SequenceKind)
    (items : List Value) : Prop where
  slice {a b : Int} (first : context.BindsInteger "a" a) (second : context.BindsInteger "b" b) :
    ∃ v, evaluateText host "s.slice(a, b)" context = pure v ∧
      v.sequence? = some (kind, (items.take (Value.position items.length b)).drop
        (Value.position items.length a)) ∧
      (Value.position items.length b ≤ Value.position items.length a →
        v.sequence? = some (kind, []))
  inside {arguments : List Value} {start stop : Nat}
    (range : Value.sliceRange items.length arguments = .ok (start, stop)) :
    start ≤ stop ∧ stop ≤ items.length
  rejoin {k : Int} (cut : context.BindsInteger "k" k) :
    evaluateText host "s.slice(0, k).concat(s.slice(k))" context = pure s
  length : ∃ v, evaluateText host "s.length" context = pure v ∧ v.IsInteger items.length
  item {i : Nat} (place : context.BindsInteger "i" i) (next : context.BindsInteger "j" (i + 1))
    (present : i < items.length) :
    ∃ v w, items[i]? = some v ∧ evaluateText host "s[i]" context = pure v ∧
      evaluateText host "s.slice(i, j)" context = pure w ∧ w.sequence? = some (kind, [v])
  beyond {i : Nat} (place : context.BindsInteger "i" i) (missing : items.length ≤ i) :
    evaluateText host "s[i]" context = pure .null
  kept {name : String} (method : name ∈ ["slice", "concat"]) {arguments : List Value} {v : Value}
    (result : s.method name arguments = .ok v) : ∃ others, v.sequence? = some (kind, others)

theorem evaluateText_parse {code : String} {e : Expression} (h : parse code = .ok e) :
    evaluateText host code context = evaluate host context 0 e := by
  rw [evaluateText, bind_settled, h]
  rfl

section Sequence

variable {s : Value} {kind : SequenceKind} {items : List Value}

theorem evaluate_slice (host : Host m) {level : Nat} (h : level < levelLimit) {target : String}
    {x y : Expression} {v w : Value} {a b : Int} (htarget : context.get? target = some s)
    (hs : s.sequence? = some (kind, items))
    (hv : evaluate host context (level + 1) x = pure v) (ha : v.IsInteger a)
    (hw : evaluate host context (level + 1) y = pure w) (hb : w.IsInteger b) :
    ∃ t, evaluate host context level (.call (.member (.identifier target) "slice") [x, y]) =
        pure t ∧
      t.sequence? = some (kind, (items.take (Value.position items.length b)).drop
        (Value.position items.length a)) := by
  obtain ⟨t, ht, hitems⟩ := Value.method_slice hs (Value.sliceRange_isInteger ha hb _)
  have hcount : ∀ p q : Nat, max q p - p = q - p := by omega
  rw [List.extract_eq_take_drop, hcount, ← List.drop_take] at hitems
  exact ⟨t, evaluate_method h.le (evaluateAll_pair hv hw) (evaluate_bound h htarget) hs ht, hitems⟩

theorem evaluateText_slice (host : Host m) {code first second : String} {a b : Int}
    (hs : context.get? "s" = some s) (hitems : s.sequence? = some (kind, items))
    (ha : context.BindsInteger first a) (hb : context.BindsInteger second b)
    (hcode : parse code =
      .ok (.call (.member (.identifier "s") "slice") [.identifier first, .identifier second])) :
    ∃ t, evaluateText host code context = pure t ∧
      t.sequence? = some (kind, (items.take (Value.position items.length b)).drop
        (Value.position items.length a)) := by
  obtain ⟨v, hv, ha⟩ := ha
  obtain ⟨w, hw, hb⟩ := hb
  have hone : 1 ≤ levelLimit := by decide
  rw [evaluateText_parse hcode]
  exact evaluate_slice host hone hs hitems (evaluate_bound hone hv) ha (evaluate_bound hone hw) hb

theorem evaluateText_rejoin (hs : context.get? "s" = some s)
    (hitems : s.sequence? = some (kind, items)) {k : Int} (hk : context.BindsInteger "k" k) :
    evaluateText host "s.slice(0, k).concat(s.slice(k))" context = pure s := by
  obtain ⟨v, hv, hk⟩ := hk
  have hone : 1 ≤ levelLimit := by decide
  have htwo : 2 ≤ levelLimit := by decide
  generalize hzero : Decimal.ofDecimal 0 0 = zero
  have hinteger : (Value.number zero).IsInteger 0 := hzero ▸ ⟨_, rfl, rfl⟩
  have hnumber : evaluate host context 2 (.number zero) = pure (.number zero) := by
    rw [evaluate, if_neg (Nat.not_lt.mpr htwo)]
  obtain ⟨front, hfront, hbefore⟩ := evaluate_slice host htwo hs hitems hnumber hinteger
    (evaluate_bound htwo hv) hk
  obtain ⟨back, hback, hafter⟩ := Value.method_slice hitems (Value.sliceRange_rest hk items.length)
  have hrest : evaluate host context 1
      (.call (.member (.identifier "s") "slice") [.identifier "k"]) = pure back :=
    evaluate_method hone (evaluateAll_singleton (evaluate_bound htwo hv)) (evaluate_bound htwo hs)
      hitems hback
  rw [Value.position_zero, List.drop_zero] at hbefore
  rw [List.extract_eq_drop_take', List.take_of_length_le (Nat.le_max_left _ _)] at hafter
  obtain ⟨whole, hwhole, hjoined⟩ := Value.method_concat hbefore hafter
  rw [List.take_append_drop] at hjoined
  have hparse : parse "s.slice(0, k).concat(s.slice(k))" =
      .ok (.call (.member (.call (.member (.identifier "s") "slice")
        [.number zero, .identifier "k"]) "concat")
        [.call (.member (.identifier "s") "slice") [.identifier "k"]]) := by
    rw [← hzero]
    rfl
  rw [evaluateText_parse hparse, evaluate_method (Nat.zero_le _) (evaluateAll_singleton hrest)
    hfront hbefore hwhole, Value.sequence?_inj hjoined hitems]

theorem evaluateText_place (hs : context.get? "s" = some s)
    (hitems : s.sequence? = some (kind, items)) (fits : items.length ≤ 2 ^ 53) {i : Nat}
    (hi : context.BindsInteger "i" i) :
    evaluateText host "s[i]" context = pure (items[i]?.getD .null) := by
  obtain ⟨v, hv, hi⟩ := hi
  have hone : 1 ≤ levelLimit := by decide
  rw [evaluateText_parse (e := .index (.identifier "s") (.identifier "i")) rfl, evaluate,
    if_neg (Nat.not_lt_zero _), evaluate_bound hone hs, pure_bind, evaluate_bound hone hv,
    pure_bind, Value.property_isInteger hitems fits hi]
  rfl

/-- **Positions in strings and arrays are consistent.** -/
theorem positions_consistent (hs : context.get? "s" = some s)
    (hitems : s.sequence? = some (kind, items)) (fits : items.length ≤ 2 ^ 53) :
    ConsistentPositions host context s kind items := by
  have hone : 1 ≤ levelLimit := by decide
  constructor
  case slice =>
    intro a b ha hb
    have hparse : parse "s.slice(a, b)" =
        .ok (.call (.member (.identifier "s") "slice") [.identifier "a", .identifier "b"]) := rfl
    obtain ⟨t, ht, hrun⟩ := evaluateText_slice host hs hitems ha hb hparse
    refine ⟨t, ht, hrun, fun hreversed ↦ ?_⟩
    rw [hrun, List.drop_eq_nil_of_le ((List.length_take_le _ _).trans hreversed)]
  case inside => exact Value.sliceRange_le
  case rejoin => exact evaluateText_rejoin hs hitems
  case length =>
    refine ⟨_, ?_, Value.isInteger_ofInt (i := items.length) fits⟩
    rw [evaluateText_parse (e := .member (.identifier "s") "length") rfl, evaluate,
      if_neg (Nat.not_lt_zero _), evaluate_bound hone hs, pure_bind, Value.property_length hitems]
    rfl
  case item =>
    intro i hi hj hlt
    have hparse : parse "s.slice(i, j)" =
        .ok (.call (.member (.identifier "s") "slice") [.identifier "i", .identifier "j"]) := rfl
    obtain ⟨t, ht, hrun⟩ := evaluateText_slice host hs hitems hi hj hparse
    have hnext : Value.position items.length ((i : Int) + 1) = i + 1 := Value.position_natCast hlt
    rw [Value.position_natCast hlt.le, hnext, List.drop_take, Nat.add_sub_cancel_left,
      List.drop_eq_getElem_cons hlt] at hrun
    refine ⟨items[i], t, List.getElem?_eq_getElem hlt, ?_, ht, hrun⟩
    rw [evaluateText_place hs hitems fits hi, List.getElem?_eq_getElem hlt]
    rfl
  case beyond =>
    intro i hi hle
    rw [evaluateText_place hs hitems fits hi, List.getElem?_eq_none hle]
    rfl
  case kept => exact Value.kind_of_method hitems

/-- A string whose characters are not single bytes, cut from its end and past both ends. -/
theorem positions_consistent_characters :
    let host : Host Id := ⟨fun _ _ ↦ pure .null⟩
    let s : Value := .string "né😀"
    let items : List Value := [.string "n", .string "é", .string "😀"]
    let context : Context := ⟨[("s", s), ("a", .number (-2.0)), ("b", .number 7.0),
      ("k", .number (-9.0)), ("i", .number 1.0), ("j", .number 2.0)]⟩
    context.get? "s" = some s ∧ s.sequence? = some (.string, items) ∧ items.length ≤ 2 ^ 53 ∧
      context.BindsInteger "a" (-2) ∧ context.BindsInteger "b" 7 ∧ context.BindsInteger "k" (-9) ∧
      context.BindsInteger "i" 1 ∧ context.BindsInteger "j" 2 ∧
      ConsistentPositions host context s .string items := by
  intro host s items context
  have hs : context.get? "s" = some s := by rfl
  have hitems : s.sequence? = some (.string, items) := by rfl
  have fits : items.length ≤ 2 ^ 53 := by decide
  exact ⟨hs, hitems, fits, ⟨_, by rfl, _, rfl, by rfl⟩, ⟨_, by rfl, _, rfl, by rfl⟩,
    ⟨_, by rfl, _, rfl, by rfl⟩, ⟨_, by rfl, _, rfl, by rfl⟩, ⟨_, by rfl, _, rfl, by rfl⟩,
    positions_consistent hs hitems fits⟩

end Sequence

end Evaluating

end DataOutline
