import DataOutline.Mixin.Path
import DataOutline.Proofs.Decimal.Digits
import DataOutline.Proofs.Text.Lines

/-!
# Dotted texts and paths

A text is cut at its dots, and each part stands for one segment. Written with dots between them, the
segments give the text back, except that an index has no leading zeros: `a.007` becomes `a.7`. No
part holds a dot, so what was written is cut into the same parts again, and an index without leading
zeros is the same index. So writing a path and reading it is no loss, and a second time it changes
nothing.
-/

namespace DataOutline

open Text Decimal

/-! ## Cutting at dots -/

theorem dotted_ne_nil (text : String) : dotted text ≠ [] := fun h ↦
  List.splitOn_ne_nil '.' text.toList (List.map_eq_nil_iff.mp h)

theorem dotted_eq_singleton {text : String} (h : '.' ∉ text.toList) : dotted text = [text] := by
  rw [dotted, List.splitOn_eq_singleton h, List.map_singleton, String.ofList_toList]

theorem dot_notMem_of_mem_dotted {text part : String} (h : part ∈ dotted text) :
    '.' ∉ part.toList := by
  obtain ⟨cs, hcs, rfl⟩ := List.mem_map.mp h
  rw [String.toList_ofList]
  exact notMem_of_mem_splitOn hcs

theorem dotted_intercalate {parts : List String} (nonempty : parts ≠ [])
    (h : ∀ part ∈ parts, '.' ∉ part.toList) : dotted (".".intercalate parts) = parts := by
  have hparts : ∀ cs ∈ parts.map String.toList, '.' ∉ cs := List.forall_mem_map.mpr h
  have hmap : (String.ofList ∘ String.toList) = id := funext fun part ↦ String.ofList_toList
  rw [dotted, String.toList_intercalate]
  change ((['.'].intercalate (parts.map String.toList)).splitOn '.').map String.ofList = parts
  rw [List.splitOn_intercalate '.' hparts (List.map_eq_nil_iff.not.mpr nonempty), List.map_map,
    hmap, List.map_id]

theorem intercalate_dotted (text : String) : ".".intercalate (dotted text) = text := by
  have hmap : (String.toList ∘ String.ofList) = id := funext fun cs ↦ String.toList_ofList
  rw [← String.toList_inj, String.toList_intercalate, dotted, List.map_map, hmap, List.map_id]
  exact List.intercalate_splitOn '.'

namespace Mixin

/-! ## Segments -/

/-- A part of a dotted text as the path writes it. Digits that are an index, below `2 ^ 64`, lose
their leading zeros; everything else stays. -/
def canonicalPart (part : String) : String :=
  if IsDigits part.toList ∧ digitsValue part.toList < indexBound then
    .ofList (unpadded part.toList)
  else part

namespace Segment

theorem text_ofText (part : String) : (ofText part).text = canonicalPart part := by
  rw [ofText, canonicalPart]
  cases hindex : digitsIndex? part.toList with
  | none =>
    rw [if_neg]
    · rfl
    · rintro ⟨hdigits, hbound⟩
      exact nomatch hindex.symm.trans (digitsIndex?_eq_some_iff.mpr ⟨hdigits, rfl, hbound⟩)
  | some i =>
    obtain ⟨hdigits, rfl, hbound⟩ := digitsIndex?_eq_some_iff.mp hindex
    rw [if_pos ⟨hdigits, hbound⟩, ← toDigits_digitsValue hdigits.digits]
    rfl

theorem ofText_text_ofText (part : String) : ofText (ofText part).text = ofText part := by
  cases hindex : digitsIndex? part.toList with
  | none =>
    have hkey : ofText part = .key part := by rw [ofText, hindex]
    rw [hkey, text, hkey]
  | some i =>
    obtain ⟨-, -, hbound⟩ := digitsIndex?_eq_some_iff.mp hindex
    have hpart : ofText part = .index i := by rw [ofText, hindex]
    have htext : (toString i).toList = Nat.toDigits 10 i := by
      rw [Nat.toString_eq_ofList_toDigits, String.toList_ofList]
    rw [hpart, text, ofText, htext, digitsIndex?_toDigits hbound]

theorem eq_of_ofText_eq_key {part k : String} (h : ofText part = .key k) : k = part := by
  rw [ofText] at h
  split at h
  · cases h
  · exact (Segment.key.inj h).symm

theorem dot_notMem_text_ofText {part : String} (h : '.' ∉ part.toList) :
    '.' ∉ (ofText part).text.toList := by
  cases hsegment : ofText part with
  | key k => rwa [text, eq_of_ofText_eq_key hsegment]
  | index i =>
    rw [text, Nat.toString_eq_ofList_toDigits, String.toList_ofList]
    exact fun hdot ↦ nomatch (isDigits_toDigits i).digits '.' hdot

end Segment

/-! ## Paths -/

/-- What is to be said of the path that a dotted text stands for. -/
structure Path.Spells (text : String) (path : Path) : Prop where
  nonempty : path ≠ []
  undotted : ∀ k, Segment.key k ∈ path → '.' ∉ k.toList
  /-- What is written is read as the same path. -/
  ofText_text : Path.ofText path.text = path
  /-- What is written is the text, part by part, but for the leading zeros of indices. -/
  text_eq : ∃ parts : List String, parts ≠ [] ∧ (∀ part ∈ parts, '.' ∉ part.toList) ∧
    text = ".".intercalate parts ∧ path.text = ".".intercalate (parts.map canonicalPart)

theorem Path.ofText_ne_nil (text : String) : Path.ofText text ≠ [] :=
  List.map_eq_nil_iff.not.mpr (dotted_ne_nil text)

theorem ofText_key {k : String} (single : '.' ∉ k.toList)
    (name : digitsIndex? k.toList = none) : Path.ofText k = [.key k] := by
  rw [Path.ofText, dotted_eq_singleton single, List.map_singleton, Segment.ofText, name]

theorem Path.text_ofText (text : String) :
    (Path.ofText text).text = ".".intercalate ((dotted text).map canonicalPart) := by
  rw [Path.text, Path.ofText, List.map_map]
  exact congrArg _ (List.map_congr_left fun part _ ↦ Segment.text_ofText part)

theorem Path.ofText_text_ofText (text : String) :
    Path.ofText (Path.ofText text).text = Path.ofText text := by
  have hdotted : dotted (Path.ofText text).text = (Path.ofText text).map Segment.text := by
    refine dotted_intercalate (List.map_eq_nil_iff.not.mpr (Path.ofText_ne_nil text)) ?_
    rw [Path.ofText, List.map_map, List.forall_mem_map]
    exact fun part hpart ↦ Segment.dot_notMem_text_ofText (dot_notMem_of_mem_dotted hpart)
  rw [Path.ofText, hdotted, Path.ofText, List.map_map, List.map_map]
  exact List.map_congr_left fun part _ ↦ Segment.ofText_text_ofText part

/-- **Paths are written and read without loss.** -/
theorem Path.spells_ofText (text : String) : Path.Spells text (Path.ofText text) where
  nonempty := Path.ofText_ne_nil text
  undotted k hk := by
    obtain ⟨part, hpart, hsegment⟩ := List.mem_map.mp hk
    rw [Segment.eq_of_ofText_eq_key hsegment]
    exact dot_notMem_of_mem_dotted hpart
  ofText_text := Path.ofText_text_ofText text
  text_eq := ⟨dotted text, dotted_ne_nil text, fun _ ↦ dot_notMem_of_mem_dotted,
    (intercalate_dotted text).symm, Path.text_ofText text⟩

example : (Path.ofText "items.007.00.1x").text = "items.7.0.1x" := by decide +kernel

end Mixin

end DataOutline
