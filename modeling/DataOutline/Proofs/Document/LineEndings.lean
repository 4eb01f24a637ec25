import DataOutline.Document.Parser
import DataOutline.Program.Run
import DataOutline.Proofs.Text.Lines

/-!
# Line endings say nothing

A line break is a line feed, or a carriage return and a line feed. Which of the two a source uses,
and whether it uses one throughout, makes no difference: a carriage return that is put before a line
feed stands at the end of a line that did not end in one, and it is dropped when the source is cut
into lines. The reader, the excerpts and with them the reports of failed runs are made from these
lines.
-/

namespace DataOutline

open Text

/-! ## Texts that differ in carriage returns -/

namespace Text

/-- `AddsReturns before text text'`: the second text is the first with a carriage return before some
line feeds, each of them one with no carriage return before it. `before` is the character in front
of the texts. -/
inductive AddsReturns : Option Char → List Char → List Char → Prop
  | nil (before : Option Char) : AddsReturns before [] []
  | keep {before : Option Char} (c : Char) {text text' : List Char}
      (more : AddsReturns (some c) text text') : AddsReturns before (c :: text) (c :: text')
  | add {before : Option Char} (bare : before ≠ some '\r') {text text' : List Char}
      (more : AddsReturns (some '\n') text text') :
      AddsReturns before ('\n' :: text) ('\r' :: '\n' :: text')

theorem withoutReturn_append_return (line : Line) : withoutReturn (line ++ ['\r']) = line := by
  rw [withoutReturn, List.getLast?_concat, if_pos rfl, List.dropLast_concat]

/-- A line, or the line with a carriage return that is the only one at its end. -/
inductive Returned (before : Option Char) (line : Line) : Line → Prop
  | same : Returned before line line
  | added (bare : line.getLast?.or before ≠ some '\r') : Returned before line (line ++ ['\r'])

theorem Returned.withoutReturn_eq {line line' : Line} (h : Returned (some '\n') line line') :
    withoutReturn line' = withoutReturn line := by
  cases h with
  | same => rfl
  | added bare =>
    rw [withoutReturn_append_return, withoutReturn_eq_self]
    intro hreturn
    rw [hreturn] at bare
    exact bare rfl

theorem Returned.cons {before : Option Char} {c : Char} {line line' : Line}
    (h : Returned (some c) line line') : Returned before (c :: line) (c :: line') := by
  cases h with
  | same => exact .same
  | added bare =>
    refine .added ?_
    rwa [List.getLast?_cons, Option.some_or, ← Option.or_some]

/-- Each line is the same or has one more carriage return at its end. The first one goes on from the
character in front of the text. -/
theorem AddsReturns.rawLines {before : Option Char} {text text' : List Char}
    (h : AddsReturns before text text') : ∃ first first' more more',
      rawLines text = first :: more ∧ rawLines text' = first' :: more' ∧
        Returned before first first' ∧ more'.map withoutReturn = more.map withoutReturn := by
  induction h with
  | nil before => exact ⟨[], [], [], [], rfl, rfl, .same, rfl⟩
  | @keep before c text text' _ ih =>
    obtain ⟨first, first', more, more', hlines, hlines', hfirst, hmore⟩ := ih
    by_cases hc : c = '\n'
    · subst hc
      refine ⟨[], [], first :: more, first' :: more', ?_, ?_, .same, ?_⟩
      · rw [rawLines_newline_cons, hlines]
      · rw [rawLines_newline_cons, hlines']
      · rw [List.map_cons, List.map_cons, hfirst.withoutReturn_eq, hmore]
    · exact ⟨c :: first, c :: first', more, more', rawLines_cons hc hlines,
        rawLines_cons hc hlines', hfirst.cons, hmore⟩
  | @add before bare text text' _ ih =>
    obtain ⟨first, first', more, more', hlines, hlines', hfirst, hmore⟩ := ih
    refine ⟨[], ['\r'], first :: more, first' :: more', ?_, ?_, .added bare, ?_⟩
    · rw [rawLines_newline_cons, hlines]
    · rw [rawLines_cons (by decide) (rawLines_newline_cons text'), hlines']
    · rw [List.map_cons, List.map_cons, hfirst.withoutReturn_eq, hmore]

/-- **The lines are the same.** -/
theorem AddsReturns.lines_eq {text text' : List Char} (h : AddsReturns none text text') :
    lines text' = lines text := by
  obtain ⟨first, first', more, more', hlines, hlines', hfirst, hmore⟩ := h.rawLines
  have hfirst : withoutReturn first' = withoutReturn first := by
    cases hfirst with
    | same => rfl
    | added bare =>
      rw [Option.or_none] at bare
      rw [withoutReturn_append_return, withoutReturn_eq_self bare]
  rw [lines, lines, hlines, hlines', List.map_cons, List.map_cons, hfirst, hmore]

theorem AddsReturns.eq_nil_iff {before : Option Char} {text text' : List Char}
    (h : AddsReturns before text text') : text' = [] ↔ text = [] := by
  cases h with
  | nil => exact Iff.rfl
  | keep | add => exact iff_of_false (List.cons_ne_nil _ _) (List.cons_ne_nil _ _)

end Text

/-! ## What is said of a source -/

/-- What is said of a fault: its message, the lines that it lies in, these in their surroundings,
and what is said beside the message. -/
structure Diagnosis where
  message : String
  span : Span
  excerpt : String
  notes : List String
deriving DecidableEq

/-- What is said of an error of a source. -/
def SyntaxError.diagnosis (source : String) (e : SyntaxError) : Diagnosis :=
  ⟨e.fault.message, e.span, e.excerpt source, e.fault.notes⟩

namespace Document

variable {U : Type} {m : Type → Type} [Monad m]

/-- The document of a source, or what is said of its fault. -/
def read (source : String) : Except Diagnosis (Section U) :=
  (parse source).mapError (SyntaxError.diagnosis source)

/-- How far the values of a source compile, and what each compiled one does when it is run: its
value, or its failure with the lines of the source that it comes from in their surroundings. -/
def runs (evaluator : Evaluator m) (context : Context) (source : String) :
    Except Diagnosis (Progress × List (Option (ExceptT (Failure × String) m Value))) := do
  let doc ← read source
  let (compiled, progress) := doc.compile id
  return (progress, compiled.values.map fun tree ↦ tree.unit?.map fun p ↦
    (p.run evaluator context).adapt fun failure ↦ (failure, failure.excerpt source))

theorem parse_congr {source source' : String} (hlines : lines source'.toList = lines source.toList)
    (hempty : source' = "" ↔ source = "") : parse (U := U) source' = parse source := by
  rw [parse, parse, hlines]
  simp only [hempty]

theorem render_congr {source source' : String}
    (hlines : lines source'.toList = lines source.toList) (span : Span) :
    Excerpt.render source' span = Excerpt.render source span := by
  rw [Excerpt.render, hlines, ← Excerpt.render]

/-- **Line endings say nothing.** A source with more carriage returns before its line feeds is read
as the same document or has the same fault, with the same diagnosis; and its values do the same when
they are run, with whatever evaluator and in whatever context. -/
theorem line_endings_say_nothing {source source' : String}
    (h : AddsReturns none source.toList source'.toList) (evaluator : Evaluator m)
    (context : Context) :
    read (U := U) source' = read source ∧
      runs evaluator context source' = runs evaluator context source := by
  have hempty : source' = "" ↔ source = "" := by
    rw [← String.toList_eq_nil_iff, ← String.toList_eq_nil_iff, h.eq_nil_iff]
  have hdiagnosis : SyntaxError.diagnosis source' = SyntaxError.diagnosis source := by
    funext e
    rw [SyntaxError.diagnosis, SyntaxError.diagnosis, SyntaxError.excerpt, SyntaxError.excerpt,
      render_congr h.lines_eq]
  have hread : ∀ V : Type, read (U := V) source' = read source := by
    intro V
    rw [read, read, parse_congr h.lines_eq hempty, hdiagnosis]
  refine ⟨hread U, ?_⟩
  have hfailure : ∀ failure : Failure, failure.excerpt source' = failure.excerpt source :=
    fun failure ↦ render_congr h.lines_eq failure.span
  simp only [runs, hread, hfailure]

/-- Two values, of which the second fails where the name is not known. -/
def unixLines : String := "# a\n\t1\n\n\tname\n"

/-- The same with carriage returns before the first and the third line feed. -/
def mixedLines : String := "# a\r\n\t1\n\r\n\tname\n"

theorem line_endings_say_nothing_mixed :
    AddsReturns none unixLines.toList mixedLines.toList ∧
      ∀ (evaluator : Evaluator (StateM Nat)) (context : Context),
        read (U := Empty) mixedLines = read unixLines ∧
          runs evaluator context mixedLines = runs evaluator context unixLines := by
  have h : AddsReturns none unixLines.toList mixedLines.toList :=
    .keep '#' (.keep ' ' (.keep 'a' (.add (by decide) (.keep '\t' (.keep '1' (.keep '\n'
      (.add (by decide) (.keep '\t' (.keep 'n' (.keep 'a' (.keep 'm' (.keep 'e' (.keep '\n'
        (.nil _))))))))))))))
  exact ⟨h, fun evaluator context ↦ line_endings_say_nothing h evaluator context⟩

end Document

end DataOutline
