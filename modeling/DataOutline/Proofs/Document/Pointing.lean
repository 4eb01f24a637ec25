import DataOutline.Proofs.Document.Acceptance
import DataOutline.Proofs.Document.Outline
import DataOutline.Proofs.Excerpt
import DataOutline.Proofs.Program.Blame

/-!
# Errors point into the document

Every error names lines that the source has. A fault in the shape of a document is one of a line,
a fault of a value lies within its value block, and a run that fails names lines of the value block
that was compiled. So the excerpt of an error always shows the lines that are meant, and all of
them.
-/

namespace DataOutline.Document

open Text

/-! ## Lines and blocks of a source -/

theorem Breaks.inside {n d k : Nat} {ls : List Line} {fault : Fault}
    (h : Breaks d (scan false n ls) k fault) : Span.Inside ⟨k, 1⟩ ⟨n, ls.length⟩ := by
  obtain ⟨before, m, after, level, hsplit, rfl, -⟩ := h
  have hmem : m ∈ scan false n ls := by
    rw [hsplit]
    exact List.mem_append_right _ List.mem_cons_self
  exact ⟨le_number_of_mem_scan hmem, Nat.le_refl 1, number_lt_of_mem_scan hmem⟩

theorem Misplaced.inside {ls : List Line} {n : Nat} {fault : Fault} (h : Misplaced ls n fault) :
    Span.Inside ⟨n, 1⟩ ⟨1, ls.length⟩ := by
  cases h with
  | @root first rest none =>
    exact ⟨Nat.le_refl 1, Nat.le_refl 1, Nat.add_le_add_left (Nat.le_add_left 1 rest.length) 1⟩
  | line breaks => exact breaks.inside.below

theorem ValueBlock.inside {n k : Nat} {ls block : List Line}
    (h : ValueBlock (scan false n ls) k block) : Span.Inside ⟨k, block.length⟩ ⟨n, ls.length⟩ := by
  have hpos := List.length_pos_iff.mpr h.nonempty
  obtain ⟨m, hm, rfl, -, -⟩ := h.exists_value (Nat.le_refl k) (by omega)
  obtain ⟨m', hm', hnumber, -, -⟩ :=
    h.exists_value (k := m.number + block.length - 1) (by omega) (by omega)
  have hfirst := le_number_of_mem_scan hm
  have hlast := number_lt_of_mem_scan hm'
  exact ⟨hfirst, hpos, by dsimp only; omega⟩

variable {U : Type}

/-! ## Errors of a text -/

theorem ValueBlock.span_eq {n k : Nat} {ls block : List Line} {t : ValueTree U}
    (h : ValueBlock (scan false n ls) k block) (read : readValue k block = .ok t) :
    t.block.span = ⟨k, block.length⟩ := by
  refine span_readValue h.nonempty (fun l hl ↦ ?_) read
  obtain ⟨i, hi⟩ := List.mem_iff_getElem?.mp hl
  obtain ⟨m, -, -, -, hvalue⟩ := h.met i l hi
  exact isValueLine_iff.mp hvalue

theorem inside_of_parse_error {source : String} {e : SyntaxError}
    (h : parse (U := U) source = .error e) :
    e.span.Inside ⟨1, (lines source.toList).length⟩ ∧
      (e.fault.isStructural = false →
        ∃ n block, ValueBlock (scan false 2 (lines source.toList).tail) n block ∧
          readValue (U := U) n block = .error e ∧ e.span.Inside ⟨n, block.length⟩) := by
  rw [parse] at h
  by_cases hempty : source = ""
  · subst hempty
    cases h
    exact ⟨⟨Nat.le_refl 1, Nat.le_refl 1, Nat.le_refl 2⟩, fun hvalue ↦ Bool.noConfusion hvalue⟩
  · rw [if_neg hempty] at h
    obtain ⟨first, rest, hlines⟩ : ∃ first rest, lines source.toList = first :: rest :=
      List.exists_cons_of_ne_nil fun hnil ↦
        List.splitOn_ne_nil '\n' source.toList (List.map_eq_nil_iff.mp hnil)
    rw [hlines] at h ⊢
    by_cases hsome : ∃ n fault, Misplaced (first :: rest) n fault
    · obtain ⟨n, fault, hmisplaced⟩ := hsome
      obtain ⟨k, other, hfirst⟩ := exists_misplacedFirst hmisplaced
      cases (ofLines_of_misplacedFirst hfirst).symm.trans h
      refine ⟨hfirst.1.inside, fun hvalue ↦ ?_⟩
      exact absurd (hvalue.symm.trans hfirst.1.isStructural) Bool.false_ne_true
    · have hnone : ∀ n fault, ¬Misplaced (first :: rest) n fault :=
        fun n fault hmisplaced ↦ hsome ⟨n, fault, hmisplaced⟩
      obtain ⟨n, block, hblock, herror, -⟩ := (ofLines_eq_error_iff hnone).mp h
      have hinside := (readValue_inside (U := U) n hblock.nonempty).1 e herror
      exact ⟨(hinside.trans hblock.inside).below, fun _ ↦ ⟨n, block, hblock, herror, hinside⟩⟩

/-! ## Failures of a run -/

/-- A value of a document compiles, and its runs fail within its lines alone. -/
theorem failsOnly_inside {source : String} {doc : Section U} (h : parse source = .ok doc)
    {t : ValueTree U} (ht : t ∈ doc.values) :
    t.block.span.Inside ⟨1, (lines source.toList).length⟩ ∧
      ∃ p, Program.compile t = .ok p ∧
        ∀ {σ : Type} (evaluator : Evaluator (StateM σ)) (context : Context),
          FailsOnly (fun f ↦ f.span.Inside t.block.span) (Program.run evaluator context p) := by
  obtain ⟨items, tiles, reads⟩ := exists_tiles_of_parse h
  obtain ⟨n, block, hblock, hread⟩ := (tiles.mem_values_iff reads).mp ht
  have hspan := hblock.span_eq hread
  have hparts := (readValue_inside n hblock.nonempty).2 t hread
  obtain ⟨p, hp⟩ := Program.exists_compile fun part hpart ↦ (hparts part hpart).1
  refine ⟨hspan ▸ hblock.inside, p, hp, fun evaluator context ↦ ?_⟩
  refine (Program.failsOnly_run hp).mono ?_
  rintro f ⟨part, hpart, hf⟩
  rw [hf, hspan]
  exact (hparts part hpart).2

/-- **Every error points into the document.** If a text is no document, the error lies within its
lines, and an error that comes from a value lies within the lines of that value block. If it is one,
each of its values compiles, and whatever evaluator and context there are, a run of it that fails
does so within the lines of the value. The excerpt shows these lines. -/
theorem errors_point_inside (source : String) :
    (∀ e, parse (U := U) source = .error e →
      e.span.Inside ⟨1, (lines source.toList).length⟩ ∧
        Excerpt.Shows (lines source.toList) e.span (e.excerpt source) ∧
        (e.fault.isStructural = false →
          ∃ n block, ValueBlock (scan false 2 (lines source.toList).tail) n block ∧
            readValue (U := U) n block = .error e ∧ e.span.Inside ⟨n, block.length⟩)) ∧
    ∀ doc : Section U, parse source = .ok doc → ∀ t ∈ doc.values,
      ∃ p, Program.compile t = .ok p ∧
        ∀ (σ : Type) (evaluator : Evaluator (StateM σ)) (context : Context) (s : σ) (f : Failure),
          ((Program.run evaluator context p).run.run s).1 = .error f →
            f.span.Inside t.block.span ∧
              f.span.Inside ⟨1, (lines source.toList).length⟩ ∧
              Excerpt.Shows (lines source.toList) f.span (f.excerpt source) := by
  refine ⟨fun e he ↦ ?_, fun doc hdoc t ht ↦ ?_⟩
  · obtain ⟨hinside, hvalue⟩ := inside_of_parse_error he
    exact ⟨hinside, Excerpt.shows_render hinside, hvalue⟩
  · obtain ⟨hblock, p, hp, hfails⟩ := failsOnly_inside hdoc ht
    refine ⟨p, hp, fun σ evaluator context s f hf ↦ ?_⟩
    have hinside := hfails evaluator context s f hf
    exact ⟨hinside, hinside.trans hblock, Excerpt.shows_render (hinside.trans hblock)⟩

/-- A value with lines where there can be none. -/
def dangling : String := "# a\n\tkey: base without name\n\t\tmore\n\t\teven more\n\nend"

/-- A value whose mixin has a base that a context need not bind. -/
def baseless : String := "# a\n\tfirst: 1\n\tsecond: base with\n\t\t\tx: 2"

theorem errors_point_inside_dangling :
    (parse (U := Empty) dangling = .error ⟨.linesAfterWithout, ⟨3, 2⟩⟩ ∧
      Excerpt.Shows (lines dangling.toList) ⟨3, 2⟩ (Excerpt.render dangling ⟨3, 2⟩) ∧
      ∃ n block, ValueBlock (scan false 2 (lines dangling.toList).tail) n block ∧
        Span.Inside ⟨3, 2⟩ ⟨n, block.length⟩) ∧
    ∃ (doc : Section Empty) (t : ValueTree Empty) (p : Program) (f : Failure),
      parse baseless = .ok doc ∧ t ∈ doc.values ∧ Program.compile t = .ok p ∧
        ((Program.run (m := StateM Nat) (fun _ _ ↦ pure .null) .empty p).run.run 0).1 = .error f ∧
        f.span.Inside t.block.span := by
  have hread : parse (U := Empty) dangling = .error ⟨.linesAfterWithout, ⟨3, 2⟩⟩ := by rfl
  obtain ⟨-, hshows, hvalue⟩ := (errors_point_inside dangling).1 _ hread
  obtain ⟨n, block, hblock, -, hinside⟩ := hvalue rfl
  have hrun : ((parse (U := Empty) baseless).toOption.bind fun doc ↦ doc.values.head?.bind fun t ↦
      (Program.compile t).toOption.map fun p ↦
        ((Program.run (m := StateM Nat) (fun _ _ ↦ pure .null) .empty p).run.run
          0).1.toOption.isNone)
      = some true := by decide +kernel
  obtain ⟨doc, hdoc, hrun⟩ := Option.bind_eq_some_iff.mp hrun
  obtain ⟨t, ht, hrun⟩ := Option.bind_eq_some_iff.mp hrun
  obtain ⟨p, hp, hrun⟩ := Option.map_eq_some_iff.mp hrun
  have hdoc := toOption_eq_some_iff.mp hdoc
  have hp := toOption_eq_some_iff.mp hp
  obtain ⟨p', hp', hfails⟩ := (errors_point_inside baseless).2 doc hdoc t (List.mem_of_head? ht)
  cases hp.symm.trans hp'
  refine ⟨⟨hread, hshows, n, block, hblock, hinside⟩, doc, t, p, ?_⟩
  cases hresult : ((Program.run (m := StateM Nat) (fun _ _ ↦ pure .null) .empty p).run.run 0).1 with
  | ok v =>
    rw [hresult] at hrun
    exact nomatch hrun
  | error f =>
    exact ⟨f, hdoc, List.mem_of_head? ht, hp, rfl, (hfails _ _ _ _ _ hresult).1⟩

end DataOutline.Document
