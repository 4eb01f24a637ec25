import DataOutline.Generator.Basic
import DataOutline.Proofs.Decimal.Order
import DataOutline.Proofs.Result

/-!
# What generators come to

A generator first reads its arguments, and then draws. What it reads decides whether it fails, how
long its string is and over which alphabet, whatever is drawn later on; the draws decide no more
than which characters of the alphabet these are, or which argument is chosen. An alphabet that a
string is drawn over has a character at least and so do the choices, so no generator asks for a draw
from an empty range.
-/

namespace DataOutline

/-! ## Draws -/

namespace Draws

theorem fst_below_lt {bound : Nat} (pos : 0 < bound) (d : Draws) : (d.below bound).1 < bound :=
  Nat.mod_lt _ pos

theorem spoiled_below {bound : Nat} (pos : 0 < bound) (d : Draws) :
    (d.below bound).2.spoiled = d.spoiled := by
  change (d.spoiled || bound == 0) = d.spoiled
  rw [beq_false_of_ne pos.ne', Bool.or_false]

/-- Characters of an alphabet that has some: as many as were asked for. -/
theorem characters_drawn {alphabet : Array Char} (filled : 0 < alphabet.size) (n : Nat)
    (drawn : List Char) (d : Draws) :
    (characters alphabet n drawn d).1.length = n + drawn.length ∧
      (∀ c ∈ (characters alphabet n drawn d).1, c ∈ alphabet.toList ∨ c ∈ drawn) ∧
      (characters alphabet n drawn d).2.spoiled = d.spoiled := by
  induction n generalizing drawn d with
  | zero => exact ⟨(Nat.zero_add _).symm, fun c hc ↦ Or.inr hc, rfl⟩
  | succ n ih =>
    obtain ⟨hlength, hmem, hspoiled⟩ :=
      ih ((alphabet[(d.below alphabet.size).1]?).getD '?' :: drawn) (d.below alphabet.size).2
    have hlt := d.fst_below_lt filled
    have hdrawn : (alphabet[(d.below alphabet.size).1]?).getD '?' ∈ alphabet.toList := by
      rw [Array.getElem?_eq_getElem hlt, Option.getD_some]
      exact Array.getElem_mem_toList hlt
    refine ⟨hlength.trans ?_, fun c hc ↦ ?_, hspoiled.trans (d.spoiled_below filled)⟩
    · rw [List.length_cons, Nat.add_comm drawn.length, Nat.add_assoc]
    · rcases hmem c hc with hc | hc
      · exact Or.inl hc
      · rcases List.mem_cons.mp hc with rfl | hc
        · exact Or.inl hdrawn
        · exact Or.inr hc

end Draws

namespace Generator

/-! ## Computations that draw -/

/-- Whatever a computation is supplied with, its result has `P`, and it draws from no empty
range. -/
def Gives {α : Type} (P : Except RunError α → Prop) (x : Draw α) : Prop :=
  ∀ supply : Supply, P (x.run.run supply).1 ∧
    (x.run.run supply).2.draws.spoiled = supply.draws.spoiled

namespace Gives

variable {α β : Type} {P : Except RunError α → Prop} {Q : Except RunError β → Prop} {x : Draw α}

theorem settled {r : Except RunError α} (h : P r) : Gives P (Expression.settled r) :=
  fun _ ↦ ⟨h, rfl⟩

theorem pure {a : α} (h : P (.ok a)) : Gives P (Pure.pure a) := fun _ ↦ ⟨h, rfl⟩

theorem draw {f : Draws → α × Draws} (h : ∀ d, P (.ok (f d).1) ∧ (f d).2.spoiled = d.spoiled) :
    Gives P (Generator.draw f) := fun supply ↦ h supply.draws

theorem bind {k : α → Draw β} (h : Gives P x) (failed : ∀ e, P (.error e) → Q (.error e))
    (done : ∀ a, P (.ok a) → Gives Q (k a)) : Gives Q (x >>= k) := by
  intro supply
  obtain ⟨hresult, hspoiled⟩ := h supply
  have hrun : (x >>= k).run.run supply = match x.run.run supply with
      | (.ok a, later) => (k a).run.run later
      | (.error e, later) => (.error e, later) := by
    rw [ExceptT.run_bind, StateT.run_bind]
    rcases x.run.run supply with ⟨_ | _, later⟩ <;> rfl
  rw [hrun]
  rcases hx : x.run.run supply with ⟨e | a, later⟩
  · rw [hx] at hresult hspoiled
    exact ⟨failed e hresult, hspoiled⟩
  · rw [hx] at hresult hspoiled
    obtain ⟨hlater, hkept⟩ := done a hresult later
    exact ⟨hlater, hkept.trans hspoiled⟩

end Gives

/-- Computations that draw from no empty range, whatever they come to. -/
abbrev Unspoiled {α : Type} (x : Draw α) : Prop := Gives (fun _ ↦ True) x

theorem Unspoiled.bind {α β : Type} {x : Draw α} {k : α → Draw β} (h : Unspoiled x)
    (hk : ∀ a, Unspoiled (k a)) : Unspoiled (x >>= k) :=
  Gives.bind h (fun _ _ ↦ trivial) fun a _ ↦ hk a

theorem gives_drawText {alphabet : Array Char} (filled : 0 < alphabet.size) (n : Nat) :
    Gives (fun r ↦ ∃ s, r = .ok s ∧ s.length = n ∧ ∀ c ∈ s.toList, c ∈ alphabet.toList)
      (drawText n alphabet) := by
  refine Gives.bind (P := fun r ↦ ∃ cs, r = .ok cs ∧ cs.length = n ∧ ∀ c ∈ cs, c ∈ alphabet.toList)
    (Gives.draw fun d ↦ ?_) (fun e he ↦ nomatch he) ?_
  · obtain ⟨hlength, hmem, hspoiled⟩ := Draws.characters_drawn filled n [] d
    refine ⟨⟨_, rfl, hlength, fun c hc ↦ ?_⟩, hspoiled⟩
    exact (hmem c hc).resolve_right List.not_mem_nil
  · rintro _ ⟨cs, ⟨⟩, hlength, hmem⟩
    refine .pure ⟨_, rfl, ?_, ?_⟩
    · rw [String.length_ofList, hlength]
    · rwa [String.toList_ofList]

/-! ## Arguments -/

/-- What a first argument makes of the length of a string. -/
inductive LengthOf : Option Value → Except RunError Nat → Prop
  | missing : LengthOf none (.ok 8)
  | null : LengthOf (some .null) (.ok 8)
  /-- The integer part of a number, if that is one or more. -/
  | number {x : Float} {n : Nat} (one : 1.0 ≤ x) (fits : ¬Float.ofNat 1048576 < x)
      (part : (Decimal.Exact.ofFloat x).truncate? = some (n : Int)) :
      LengthOf (some (.number x)) (.ok n)
  /-- Zero, negative numbers, fractions below one and not-a-number. -/
  | small {x : Float} (below : ¬1.0 ≤ x) : LengthOf (some (.number x)) (.ok 8)
  | long {x : Float} (above : Float.ofNat 1048576 < x) :
      LengthOf (some (.number x)) (.error (.custom
        ("length " ++ Decimal.plain.text x ++ " exceeds the maximum of " ++ "1048576")))
  | wrong {v : Value} (present : v ≠ .null) (wrong : ∀ x, v ≠ .number x) :
      LengthOf (some v) (.error (.typeMismatch "number" v.typeName))

/-- What a second argument makes of the alphabet of a generator. -/
inductive AlphabetOf : Generator → Option Value → Except RunError (List Char) → Prop
  | hex (second : Option Value) : AlphabetOf .hex second (.ok "0123456789abcdef".toList)
  | code (second : Option Value) : AlphabetOf .code second (.ok "0123456789".toList)
  | base64 {second : Option Value}
      (without : second = none ∨ second = some .null ∨ second = some (.string "")) :
      AlphabetOf .text second
        (.ok "ABCDEFGHIJKLMNOPQRSTUVWXYZabcdefghijklmnopqrstuvwxyz0123456789+/".toList)
  | given {s : String} (filled : s ≠ "") : AlphabetOf .text (some (.string s)) (.ok s.toList)
  | wrong {v : Value} (present : v ≠ .null) (wrong : ∀ s, v ≠ .string s) :
      AlphabetOf .text (some v) (.error (.typeMismatch "string" v.typeName))

theorem lengthOf_lengthArgument (arguments : List Value) :
    LengthOf arguments[0]? (lengthArgument arguments) := by
  rw [lengthArgument, numberArgument]
  split
  · next h =>
    rw [h]
    exact .missing
  · next h =>
    rw [h]
    exact .null
  · next x h =>
    rw [h, ok_bind]
    dsimp only
    by_cases habove : Float.ofNat maximalLength < x
    · rw [if_pos habove]
      exact .long habove
    · rw [if_neg habove]
      by_cases hone : 1.0 ≤ x
      · obtain ⟨n, hle, hpart⟩ :=
          Decimal.exists_truncate?_of_le (by decide) (by decide) hone habove
        rw [if_pos hone, Decimal.clamp_of_truncate? hpart (Int.natCast_nonneg n)
          (Int.ofNat_le.mpr hle)]
        exact .number hone habove hpart
      · rw [if_neg hone]
        exact .small hone
  · next v hnull hnumber h =>
    rw [h]
    exact .wrong hnull hnumber

theorem alphabetOf_text (arguments : List Value) :
    AlphabetOf .text arguments[1]? ((fun alphabet ↦ (if alphabet = "" then base64
      else alphabet.toList.toArray).toList) <$> nonemptyArgument arguments 1 "") := by
  rw [nonemptyArgument, stringArgument]
  split
  · next h =>
    rw [h]
    exact .base64 (Or.inl rfl)
  · next h =>
    rw [h]
    exact .base64 (Or.inr (Or.inl rfl))
  · next s h =>
    rw [h, ok_bind]
    dsimp only
    by_cases hs : s = ""
    · subst hs
      exact .base64 (Or.inr (Or.inr rfl))
    · rw [if_neg hs]
      change AlphabetOf _ _ (.ok (if s = "" then _ else _ : Array Char).toList)
      rw [if_neg hs]
      exact .given hs
  · next v hnull hstring h =>
    rw [h]
    exact .wrong hnull hstring

/-! ## Calls -/

/-- What a generator of strings comes to: an error of the argument for the length, or else one of
the argument for the alphabet, or else a string of that length over that alphabet. -/
inductive TextOutcome (g : Generator) (arguments : List Value) : Except RunError Value → Prop
  | noLength {e : RunError} (length : LengthOf arguments[0]? (.error e)) :
      TextOutcome g arguments (.error e)
  | noAlphabet {n : Nat} {e : RunError} (length : LengthOf arguments[0]? (.ok n))
      (alphabet : AlphabetOf g arguments[1]? (.error e)) : TextOutcome g arguments (.error e)
  | text {n : Nat} {cs : List Char} {s : String} (length : LengthOf arguments[0]? (.ok n))
      (alphabet : AlphabetOf g arguments[1]? (.ok cs)) (exact : s.length = n)
      (within : ∀ c ∈ s.toList, c ∈ cs) : TextOutcome g arguments (.ok (.string s))

section Calls

variable {arguments : List Value} {g : Generator}

theorem gives_text {n : Nat} {alphabet : Array Char} (length : LengthOf arguments[0]? (.ok n))
    (letters : AlphabetOf g arguments[1]? (.ok alphabet.toList)) (filled : 0 < alphabet.size) :
    Gives (TextOutcome g arguments) (drawText n alphabet >>= fun s ↦ pure (.string s)) := by
  refine Gives.bind (gives_drawText filled n) (fun e he ↦ nomatch he) ?_
  rintro _ ⟨s, ⟨⟩, hlength, hmem⟩
  exact .pure (.text length letters hlength hmem)

theorem gives_call_text : Gives (TextOutcome .text arguments) (call arguments .text) := by
  rw [call]
  refine Gives.bind (.settled (lengthOf_lengthArgument arguments)) (fun e ↦ .noLength) ?_
  intro n hlength
  refine Gives.bind (P := fun r ↦ AlphabetOf .text arguments[1]? ((fun alphabet ↦
    (if alphabet = "" then base64 else alphabet.toList.toArray).toList) <$> r))
    (.settled (alphabetOf_text arguments)) (fun e ↦ .noAlphabet hlength) ?_
  intro alphabet halphabet
  refine gives_text hlength halphabet ?_
  split
  · decide
  · next h => exact List.length_pos_iff.mpr fun hnil ↦ h (String.toList_eq_nil_iff.mp hnil)

theorem gives_call_hex : Gives (TextOutcome .hex arguments) (call arguments .hex) := by
  rw [call]
  refine Gives.bind (.settled (lengthOf_lengthArgument arguments)) (fun e ↦ .noLength) ?_
  exact fun n hlength ↦ gives_text hlength (.hex _) (by decide)

theorem gives_call_code : Gives (TextOutcome .code arguments) (call arguments .code) := by
  rw [call]
  refine Gives.bind (.settled (lengthOf_lengthArgument arguments)) (fun e ↦ .noLength) ?_
  exact fun n hlength ↦ gives_text hlength (.code _) (by decide)

theorem gives_call_choice :
    Gives (fun r ↦ ∃ v, r = .ok v ∧ (v ∈ arguments ∨ arguments = [] ∧ v = .null))
      (call arguments .choice) := by
  rw [call]
  split
  · next h => exact .pure ⟨_, rfl, Or.inr ⟨List.isEmpty_iff.mp h, rfl⟩⟩
  · next h =>
    have hpos : 0 < arguments.length := List.length_pos_iff.mpr fun hnil ↦ h (by rw [hnil]; rfl)
    refine Gives.bind (P := fun r ↦ ∃ i, r = .ok i ∧ i < arguments.length) (.draw fun d ↦ ?_)
      (fun e he ↦ nomatch he) ?_
    · exact ⟨⟨_, rfl, d.fst_below_lt hpos⟩, d.spoiled_below hpos⟩
    · rintro _ ⟨i, ⟨⟩, hi⟩
      refine .pure ⟨_, rfl, Or.inl ?_⟩
      rw [List.getElem?_eq_getElem hi, Option.getD_some]
      exact List.getElem_mem hi

/-! ### Draws of the other generators -/

theorem Gives.unspoiled {α : Type} {P : Except RunError α → Prop} {x : Draw α} (h : Gives P x) :
    Unspoiled x := fun supply ↦ ⟨trivial, (h supply).2⟩

theorem unspoiled_settled {α : Type} (r : Except RunError α) :
    Unspoiled (Expression.settled (m := StateM Supply) r) := .settled trivial

theorem unspoiled_pure {α : Type} (a : α) : Unspoiled (pure a : Draw α) := .pure trivial

theorem unspoiled_drawBetween (low high : Float) : Unspoiled (drawBetween low high) :=
  Unspoiled.bind (.draw fun _ ↦ ⟨trivial, rfl⟩) fun _ ↦ unspoiled_pure _

theorem unspoiled_drawText_hexDigits (n : Nat) : Unspoiled (drawText n hexDigits) :=
  (gives_drawText (by decide) n).unspoiled

theorem unspoiled_drawDate (arguments : List Value) : Unspoiled (drawDate arguments) := by
  refine Unspoiled.bind (unspoiled_settled _) fun _ ↦ ?_
  refine Unspoiled.bind (x := get) (fun _ ↦ ⟨trivial, rfl⟩) fun _ ↦ ?_
  refine Unspoiled.bind (unspoiled_settled _) fun _ ↦ ?_
  refine Unspoiled.bind (unspoiled_drawBetween _ _) fun _ ↦ ?_
  exact Unspoiled.bind (unspoiled_settled _) fun _ ↦ unspoiled_pure _

theorem unspoiled_call (arguments : List Value) (g : Generator) : Unspoiled (call arguments g) := by
  cases g with
  | text => exact gives_call_text.unspoiled
  | hex => exact gives_call_hex.unspoiled
  | code => exact gives_call_code.unspoiled
  | choice => exact gives_call_choice.unspoiled
  | email | url =>
    refine Unspoiled.bind (unspoiled_settled _) fun _ ↦ ?_
    exact Unspoiled.bind (unspoiled_drawText_hexDigits _) fun _ ↦ unspoiled_pure _
  | number | integer =>
    refine Unspoiled.bind (unspoiled_settled _) fun _ ↦ ?_
    exact Unspoiled.bind (unspoiled_drawBetween _ _) fun _ ↦ unspoiled_pure _
  | boolean =>
    refine Unspoiled.bind (.draw fun d ↦ ?_) fun _ ↦ unspoiled_pure _
    exact ⟨trivial, d.spoiled_below (by decide)⟩
  | date => exact unspoiled_drawDate arguments

end Calls

theorem ofName?_name (g : Generator) : ofName? g.name = some g := by cases g <;> decide

theorem host_call (g : Generator) (id : Nat) (arguments : List Value) :
    host.call ⟨g.name, id⟩ arguments = g.call arguments := by
  simp only [host, ofName?_name]

/-- **Generators are total**, over all arguments and all draws. A generator of strings fails because
of an argument that it reads, or it gives a string of the length and over the alphabet that the
arguments ask for; a choice is one of the arguments, or null if there are none; and nothing is ever
drawn from an empty range. -/
theorem host_call_total (id : Nat) (arguments : List Value) (supply : Supply) :
    (∀ g ∈ [text, hex, code],
      TextOutcome g arguments ((host.call ⟨g.name, id⟩ arguments).run.run supply).1) ∧
    (∃ v, ((host.call ⟨choice.name, id⟩ arguments).run.run supply).1 = .ok v ∧
      (v ∈ arguments ∨ arguments = [] ∧ v = .null)) ∧
    ∀ g : Generator, ((host.call ⟨g.name, id⟩ arguments).run.run supply).2.draws.spoiled =
      supply.draws.spoiled := by
  simp only [host_call]
  refine ⟨fun g hg ↦ ?_, (gives_call_choice supply).1,
    fun g ↦ (unspoiled_call arguments g supply).2⟩
  rcases List.mem_cons.mp hg with rfl | hg
  · exact (gives_call_text supply).1
  · rcases List.mem_cons.mp hg with rfl | hg
    · exact (gives_call_hex supply).1
    · rw [List.mem_singleton.mp hg]
      exact (gives_call_code supply).1

/-- Three characters over an alphabet of two, and a choice of one value. -/
theorem host_call_total_letters :
    let supply : Supply := ⟨⟨fun n ↦ n.toUInt64, 5, false⟩, ⟨0, 0⟩⟩
    let letters : List Value := [.number 3.5, .string "äß"]
    text ∈ [text, hex, code] ∧
      ((host.call ⟨text.name, 0⟩ letters).run.run supply).1.toOption.map Value.text = some "ßäß" ∧
      TextOutcome text letters ((host.call ⟨text.name, 0⟩ letters).run.run supply).1 ∧
      ((host.call ⟨text.name, 0⟩ letters).run.run supply).2.draws.spoiled = false := by
  intro supply letters
  have hmem : text ∈ [text, hex, code] := List.mem_cons_self
  obtain ⟨htext, -, hspoiled⟩ := host_call_total 0 letters supply
  exact ⟨hmem, by decide +kernel, htext text hmem, hspoiled text⟩

end Generator

end DataOutline
