import Mathlib.Data.List.DropRight
import DataOutline.Proofs.Json.Scalars

/-!
# JSON reads back what it writes

The indented text of a datum is read as the datum, as long as the datum is not nested deeper than
the reader goes. The parts of an array or object are rows: each begins with a line break and blanks,
and all but the first with a comma before them. A row is read as its part and leaves the rows behind
it, which begin with a comma or, if there are none, with the line of the closing bracket. The fuel
of the reader bounds what is left of the text.
-/

namespace DataOutline.Json

open Text (isDigit)

/-! ## Blanks -/

/-- A line break and the blanks that a line at a depth begins with. -/
def margin (depth : Nat) : List Char := '\n' :: List.replicate (2 * depth) ' '

theorem skipBlanks_margin (depth : Nat) (cs : List Char) :
    skipBlanks (margin depth ++ cs) = skipBlanks cs := by
  refine List.dropWhile_append_of_pos fun c hc ↦ ?_
  rcases List.mem_cons.mp hc with rfl | hc
  · rfl
  · rw [List.eq_of_mem_replicate hc]
    rfl

theorem skipBlanks_skipBlanks (cs : List Char) : skipBlanks (skipBlanks cs) = skipBlanks cs :=
  List.dropWhile_idempotent _ cs

theorem datum_congr {cs cs' : List Char} (h : skipBlanks cs = skipBlanks cs') (fuel levels : Nat) :
    datum fuel (levels + 1) cs = datum fuel (levels + 1) cs' := by
  rw [datum, datum, h]

theorem datum_skipBlanks (fuel levels : Nat) (cs : List Char) :
    datum fuel (levels + 1) (skipBlanks cs) = datum fuel (levels + 1) cs :=
  datum_congr (skipBlanks_skipBlanks cs) fuel levels

theorem exists_cons_of_datum {fuel levels : Nat} {cs rest : List Char} {j : Json}
    (h : datum fuel (levels + 1) cs = .ok (j, rest)) :
    ∃ c more, skipBlanks cs = c :: more ∧ c ≠ ']' := by
  cases hcs : skipBlanks cs with
  | nil =>
    rw [← datum_skipBlanks, hcs] at h
    cases h
  | cons c more =>
    refine ⟨c, more, rfl, ?_⟩
    rintro rfl
    rw [← datum_skipBlanks, hcs] at h
    cases h

/-! ## Numbers -/

theorem datum_minus {fuel levels : Nat} {cs more : List Char} (h : skipBlanks cs = '-' :: more) :
    datum fuel (levels + 1) cs = signedNumber true more := by
  rw [← datum_skipBlanks, h]
  rfl

theorem datum_digit {fuel levels : Nat} {cs more : List Char} {c : Char}
    (h : skipBlanks cs = c :: more) (digit : isDigit c = true) :
    datum fuel (levels + 1) cs = signedNumber false (c :: more) := by
  rw [datum, h]
  split
  case h_1 heq => cases heq
  case h_9 heq =>
    cases heq
    rw [if_pos digit]
  all_goals
    next heq =>
      cases heq
      exact nomatch digit

/-- A number that is read to the end of a text is read before what may follow it. -/
theorem datum_number {fuel levels : Nat} {cs rest : List Char} {x : Float} (closes : Closes rest)
    (h : datum 1 1 cs = .ok (.number x, [])) :
    datum fuel (levels + 1) (cs ++ rest) = .ok (.number x, rest) := by
  have hskip : ∀ {c more}, skipBlanks cs = c :: more →
      skipBlanks (cs ++ rest) = c :: (more ++ rest) := by
    intro c more hcs
    rw [skipBlanks, List.dropWhile_append, ← skipBlanks, hcs]
    rfl
  rw [datum] at h
  split at h
  case h_5 more hcs =>
    rw [datum_minus (hskip hcs), signedNumber_append closes h]
    rfl
  case h_9 hcs =>
    split at h
    · next hdigit =>
      rw [datum_digit (hskip hcs) hdigit, ← List.cons_append, signedNumber_append closes h]
      rfl
    · cases h
  case h_1 | h_7 | h_8 => cases h
  all_goals obtain ⟨_, -, ⟨⟩⟩ := bind_eq_ok_iff.mp h

theorem skipBlanks_digit {c : Char} (digit : isDigit c = true) (cs : List Char) :
    skipBlanks (c :: cs) = c :: cs := by
  refine List.dropWhile_cons_of_neg ?_
  simp only [Bool.or_eq_true, beq_iff_eq]
  rintro (((rfl | rfl) | rfl) | rfl) <;> exact nomatch digit

theorem datum_integer {fuel levels : Nat} {i : Int} {rest : List Char} (closes : Closes rest)
    (fits : i.natAbs < Decimal.indexBound) :
    datum fuel (levels + 1) ((toString i).toList ++ rest) = .ok (.integer i, rest) := by
  cases i with
  | ofNat n =>
    have htext : (toString (Int.ofNat n)).toList = Nat.toDigits 10 n := Nat.toList_repr
    have hread : signedNumber false (Nat.toDigits 10 n ++ rest) = .ok (.integer n, rest) :=
      signedNumber_toDigits closes fits nofun
    have hdigits := Decimal.isDigits_toDigits n
    obtain ⟨c, cs, hcs⟩ := List.exists_cons_of_ne_nil hdigits.nonempty
    have hdigit := hdigits.digits c (hcs ▸ List.mem_cons_self)
    rw [htext]
    rw [hcs, List.cons_append] at hread ⊢
    rw [datum_digit (skipBlanks_digit hdigit _) hdigit]
    exact hread
  | negSucc n =>
    have htext : (toString (Int.negSucc n)).toList = '-' :: Nat.toDigits 10 (n + 1) := by
      rw [Int.toString_eq_repr, Int.repr, String.toList_append, Nat.toList_repr]
      rfl
    rw [htext]
    exact signedNumber_toDigits closes fits fun _ ↦ n.succ_ne_zero

/-! ## Parts on lines of their own -/

/-- Parts at a depth, each on a line of its own and behind a comma, but for the first of all. -/
def rows (depth : Nat) : Bool → List (List Char) → List Char
  | _, [] => []
  | first, p :: ps =>
    (if first then [] else [',']) ++ (margin depth ++ (p ++ rows depth false ps))

theorem rows_false (depth : Nat) (p : List Char) (ps : List (List Char)) :
    rows depth false (p :: ps) = ',' :: rows depth true (p :: ps) := rfl

theorem indentParts_cons (opening closing : Char) (depth : Nat) (p : List Char)
    (ps : List (List Char)) : indentParts opening closing depth (p :: ps) =
      opening :: (rows (depth + 1) true (p :: ps) ++ (margin depth ++ [closing])) := by
  have hrows : [','].intercalate ((p :: ps).map (margin (depth + 1) ++ ·)) =
      rows (depth + 1) true (p :: ps) := by
    induction ps generalizing p with
    | nil => simp [rows]
    | cons q ps ih =>
      rw [List.map_cons, List.map_cons, List.intercalate_cons_cons, ← List.map_cons, ih q,
        List.append_assoc, List.singleton_append, ← rows_false, List.append_assoc]
      rfl
  rw [← hrows, ← List.append_assoc]
  rfl

theorem length_rows_cons (depth : Nat) (first : Bool) (p : List Char) (ps : List (List Char)) :
    p.length + (rows depth false ps).length < (rows depth first (p :: ps)).length := by
  rw [rows, List.length_append, List.length_append, List.length_append, margin, List.length_cons]
  omega

theorem length_le_rows {depth : Nat} {first : Bool} {p : List Char} {ps : List (List Char)}
    (h : p ∈ ps) : p.length ≤ (rows depth first ps).length := by
  induction ps generalizing first with
  | nil => cases h
  | cons q ps ih =>
    have hlength := length_rows_cons depth first q ps
    rcases List.mem_cons.mp h with rfl | h
    · omega
    · have := @ih false h
      omega

theorem closes_rows (depth depth' : Nat) (ps : List (List Char)) (cs : List Char) :
    Closes (rows depth false ps ++ (margin depth' ++ cs)) := by
  cases ps with
  | nil => exact .newline _
  | cons p ps => exact .comma _

section Parts

variable {fuel levels n : Nat} {cs rest : List Char} {j : Json}

theorem items_closed {sub : Reader} (h : skipBlanks cs = ']' :: rest) (first : Bool) :
    items sub (n + 1) first cs = .ok ([], rest) := by
  rw [items, h]
  rfl

theorem items_cons (h : datum fuel (levels + 1) cs = .ok (j, rest)) (depth : Nat) (first : Bool) :
    items (datum fuel (levels + 1)) (n + 1) first
      ((if first then [] else [',']) ++ (margin depth ++ cs)) =
        (fun read ↦ (j :: read.1, read.2)) <$> items (datum fuel (levels + 1)) n false rest := by
  obtain ⟨c, more, hcs, hbracket⟩ := exists_cons_of_datum h
  have hitem : (datum fuel (levels + 1) (c :: more) >>= fun item ↦
      items (datum fuel (levels + 1)) n false item.2 >>= fun read ↦
        pure (item.1 :: read.1, read.2)) =
      (fun read ↦ (j :: read.1, read.2)) <$> items (datum fuel (levels + 1)) n false rest := by
    rw [← hcs, datum_skipBlanks, h, map_eq_pure_bind]
    rfl
  cases first with
  | true =>
    change items _ _ _ (margin depth ++ cs) = _
    rw [items, skipBlanks_margin, hcs]
    split
    case h_1 heq => cases heq
    case h_2 heq => exact absurd (List.cons.inj heq).1 hbracket
    case h_3 heq =>
      cases heq
      exact hitem
  | false =>
    have hcomma : skipBlanks (',' :: (margin depth ++ cs)) = ',' :: (margin depth ++ cs) := rfl
    change items _ _ _ (',' :: (margin depth ++ cs)) = _
    rw [items, hcomma]
    split
    case h_1 heq | h_2 heq => cases heq
    case h_3 heq =>
      cases heq
      rw [if_neg Bool.false_ne_true, if_pos rfl, skipBlanks_margin, hcs]
      split
      case h_1 heq => cases heq
      case h_2 heq => exact absurd (List.cons.inj heq).1 hbracket
      case h_3 => exact hitem

/-- Items are read one by one, where each is read before whatever may follow it. -/
theorem items_rows {part : Json → List Char} {js : List Json} (depth depth' : Nat) (first : Bool)
    (read : ∀ j ∈ js, ∀ rest, Closes rest →
      datum fuel (levels + 1) (part j ++ rest) = .ok (j, rest))
    (h : (rows depth first (js.map part)).length < n) (rest : List Char) :
    items (datum fuel (levels + 1)) n first
      (rows depth first (js.map part) ++ (margin depth' ++ ']' :: rest)) = .ok (js, rest) := by
  induction js generalizing n first with
  | nil =>
    obtain ⟨n, rfl⟩ : ∃ m, n = m + 1 := ⟨n - 1, by omega⟩
    exact items_closed (skipBlanks_margin depth' _) first
  | cons j js ih =>
    obtain ⟨hj, hjs⟩ := List.forall_mem_cons.mp read
    have hlength := length_rows_cons depth first (part j) (js.map part)
    rw [List.map_cons] at h ⊢
    obtain ⟨n, rfl⟩ : ∃ m, n = m + 1 := ⟨n - 1, by omega⟩
    rw [rows, List.append_assoc, List.append_assoc, List.append_assoc,
      items_cons (hj _ (closes_rows _ _ _ _)), ih false hjs (by omega)]
    rfl

variable {k : String} {body : List Char}

theorem entries_closed {sub : Reader} (h : skipBlanks cs = '}' :: rest) (first : Bool) :
    entries sub (n + 1) first cs = .ok ([], rest) := by
  rw [entries, h]
  rfl

theorem entries_cons (key : stringText (n + 1) body = .ok (k, ':' :: ' ' :: cs))
    (h : datum fuel (levels + 1) cs = .ok (j, rest)) (depth : Nat) (first : Bool) :
    entries (datum fuel (levels + 1)) (n + 1) first
      ((if first then [] else [',']) ++ (margin depth ++ '"' :: body)) =
        (fun read ↦ ((k, j) :: read.1, read.2)) <$>
          entries (datum fuel (levels + 1)) n false rest := by
  have hblank : datum fuel (levels + 1) (' ' :: cs) = .ok (j, rest) := by
    rw [← datum_skipBlanks] at h ⊢
    exact h
  have hcolon : colon (':' :: ' ' :: cs) = .ok (' ' :: cs) := rfl
  have hentry : (stringText (n + 1) body >>= fun name ↦ colon name.2 >>= fun value ↦
      datum fuel (levels + 1) value >>= fun item ↦
        entries (datum fuel (levels + 1)) n false item.2 >>= fun read ↦
          pure ((name.1, item.1) :: read.1, read.2)) =
      (fun read ↦ ((k, j) :: read.1, read.2)) <$>
        entries (datum fuel (levels + 1)) n false rest := by
    rw [key, ok_bind, hcolon, ok_bind, hblank, map_eq_pure_bind]
    rfl
  have hquote : skipBlanks (margin depth ++ '"' :: body) = '"' :: body := by
    rw [skipBlanks_margin]
    rfl
  cases first with
  | true =>
    change entries _ _ _ (margin depth ++ '"' :: body) = _
    rw [entries, hquote]
    exact hentry
  | false =>
    have hcomma : skipBlanks (',' :: (margin depth ++ '"' :: body)) =
        ',' :: (margin depth ++ '"' :: body) := rfl
    change entries _ _ _ (',' :: (margin depth ++ '"' :: body)) = _
    rw [entries, hcomma]
    split
    case h_1 heq | h_2 heq => cases heq
    case h_3 heq =>
      cases heq
      rw [if_neg Bool.false_ne_true, if_pos rfl, hquote]
      exact hentry

/-- An entry as its quoted name, a colon, a space, and the text of its value. -/
def entryText (part : Json → List Char) (e : String × Json) : List Char :=
  quote e.1 ++ ':' :: ' ' :: part e.2

theorem entries_rows {part : Json → List Char} {es : List (String × Json)} (depth depth' : Nat)
    (first : Bool) (read : ∀ e ∈ es, ∀ rest, Closes rest →
      datum fuel (levels + 1) (part e.2 ++ rest) = .ok (e.2, rest))
    (h : (rows depth first (es.map (entryText part))).length < n) (rest : List Char) :
    entries (datum fuel (levels + 1)) n first
      (rows depth first (es.map (entryText part)) ++ (margin depth' ++ '}' :: rest)) =
        .ok (es, rest) := by
  induction es generalizing n first with
  | nil =>
    obtain ⟨n, rfl⟩ : ∃ m, n = m + 1 := ⟨n - 1, by omega⟩
    exact entries_closed (skipBlanks_margin depth' _) first
  | cons e es ih =>
    obtain ⟨he, hes⟩ := List.forall_mem_cons.mp read
    have hlength := length_rows_cons depth first (entryText part e) (es.map (entryText part))
    rw [List.map_cons] at h ⊢
    obtain ⟨n, rfl⟩ : ∃ m, n = m + 1 := ⟨n - 1, by omega⟩
    have hkey : (quote e.1).length ≤ (entryText part e).length := by
      rw [entryText, List.length_append]
      exact Nat.le_add_right _ _
    have hquote : entryText part e = '"' :: (e.1.toList.flatMap escapeChar ++
        '"' :: ':' :: ' ' :: part e.2) := by
      rw [entryText, quote, List.cons_append, List.append_assoc]
      rfl
    rw [rows, hquote]
    simp only [List.append_assoc, List.cons_append]
    rw [entries_cons (stringText_quote (by omega) _) (he _ (closes_rows _ _ _ _)),
      ih false hes (by omega)]
    rfl

theorem datum_array {js : List Json}
    (h : items (datum fuel (levels + 1)) fuel true cs = .ok (js, rest)) :
    datum fuel (levels + 2) ('[' :: cs) = .ok (.array js, rest) := by
  change (items (datum fuel (levels + 1)) fuel true cs >>= _) = _
  rw [h]
  rfl

theorem datum_object {es : List (String × Json)}
    (h : entries (datum fuel (levels + 1)) fuel true cs = .ok (es, rest)) :
    datum fuel (levels + 2) ('{' :: cs) = .ok (.object es, rest) := by
  change (entries (datum fuel (levels + 1)) fuel true cs >>= _) = _
  rw [h]
  rfl

end Parts

/-! ## Whole data -/

/-- Data of at most so many levels that the reader does not round: integers are below the bound of
what is kept, and each number is read from its own text. -/
inductive IsReadable : Nat → Json → Prop
  | null {levels : Nat} : IsReadable levels .null
  | bool {levels : Nat} (b : Bool) : IsReadable levels (.bool b)
  | integer {levels : Nat} {i : Int} (fits : i.natAbs < Decimal.indexBound) :
      IsReadable levels (.integer i)
  | number {levels : Nat} {x : Float}
      (own : datum 1 1 (scalarText (.number x)) = .ok (.number x, [])) :
      IsReadable levels (.number x)
  | string {levels : Nat} (s : String) : IsReadable levels (.string s)
  | array {levels : Nat} {js : List Json} (items : ∀ j ∈ js, IsReadable levels j) :
      IsReadable (levels + 1) (.array js)
  | object {levels : Nat} {es : List (String × Json)}
      (values : ∀ e ∈ es, IsReadable levels e.2) : IsReadable (levels + 1) (.object es)

theorem prettyAll_eq_map (depth : Nat) (js : List Json) :
    prettyAll depth js = js.map (pretty depth) := by
  induction js with
  | nil => rfl
  | cons j js ih => rw [prettyAll, List.map_cons, ih]

theorem prettyEntries_eq_map (depth : Nat) (es : List (String × Json)) :
    prettyEntries depth es = es.map (entryText (pretty depth)) := by
  induction es with
  | nil => rfl
  | cons e es ih =>
    rw [prettyEntries, List.map_cons, ih]
    rfl

/-- **What is printed for a datum is read as the datum**, before whatever may follow it. -/
theorem datum_pretty {fuel levels : Nat} {j : Json} (h : IsReadable levels j) (depth : Nat)
    (fuelled : (pretty depth j).length < fuel) {rest : List Char} (closes : Closes rest) :
    datum fuel (levels + 1) (pretty depth j ++ rest) = .ok (j, rest) := by
  induction h generalizing depth rest with
  | null => rfl
  | bool b => cases b <;> rfl
  | integer fits => exact datum_integer closes fits
  | number own => exact datum_number closes own
  | string s =>
    have hquote : pretty depth (.string s) ++ rest =
        '"' :: (s.toList.flatMap escapeChar ++ '"' :: rest) := by
      change '"' :: (s.toList.flatMap escapeChar ++ ['"'] ++ rest) = _
      rw [List.append_assoc]
      rfl
    have hread := stringText_quote (s := s) (Nat.lt_add_right 2 fuelled) rest
    rw [hquote]
    change (stringText fuel _ >>= _) = _
    rw [hread]
    rfl
  | @array levels js _ ih =>
    rw [pretty, prettyAll_eq_map] at fuelled ⊢
    cases js with
    | nil =>
      obtain ⟨fuel, rfl⟩ : ∃ n, fuel = n + 1 := ⟨fuel - 1, by omega⟩
      exact datum_array (items_closed rfl true)
    | cons j js =>
      rw [List.map_cons, indentParts_cons, ← List.map_cons] at fuelled ⊢
      rw [List.length_cons, List.length_append] at fuelled
      rw [List.cons_append, List.append_assoc, List.append_assoc]
      refine datum_array (items_rows (depth + 1) depth true (fun j hj rest closes ↦ ?_)
        (by omega) _)
      have hpart : _ ≤ (rows (depth + 1) true _).length :=
        length_le_rows (List.mem_map_of_mem (f := pretty (depth + 1)) hj)
      exact ih j hj (depth + 1) (by omega) closes
  | @object levels es _ ih =>
    rw [pretty, prettyEntries_eq_map] at fuelled ⊢
    cases es with
    | nil =>
      obtain ⟨fuel, rfl⟩ : ∃ n, fuel = n + 1 := ⟨fuel - 1, by omega⟩
      exact datum_object (entries_closed rfl true)
    | cons e es =>
      rw [List.map_cons, indentParts_cons, ← List.map_cons] at fuelled ⊢
      rw [List.length_cons, List.length_append] at fuelled
      rw [List.cons_append, List.append_assoc, List.append_assoc]
      refine datum_object (entries_rows (depth + 1) depth true (fun e he rest closes ↦ ?_)
        (by omega) _)
      have hpart : _ ≤ (rows (depth + 1) true _).length :=
        length_le_rows (List.mem_map_of_mem (f := entryText (pretty (depth + 1))) he)
      rw [entryText, List.length_append, List.length_cons, List.length_cons] at hpart
      exact ih e he (depth + 1) (by omega) closes

/-- **JSON reads back what it writes.** -/
theorem read_pretty {j : Json} (h : IsReadable 127 j) : read (pretty 0 j) = .ok j := by
  have hdatum := datum_pretty h 0 (Nat.lt_succ_self _) .nil
  rw [List.append_nil] at hdatum
  rw [read, levelLimit, hdatum]
  rfl

example : IsReadable 0 (.number 1.5) := .number (by rfl)

end DataOutline.Json
