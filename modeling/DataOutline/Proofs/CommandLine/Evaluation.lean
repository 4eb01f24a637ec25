import DataOutline.Proofs.CommandLine.Contexts
import DataOutline.Proofs.Document.Scope
import DataOutline.Proofs.Json.Reading
import DataOutline.Proofs.Program.Outcome

/-!
# What an evaluation prints

An evaluation runs the values in scope one by one, all in the same context. Host functions are taken
to have no effects here, so that the result of a value depends on nothing but its program and the
context. What is printed for several values is what is printed for each of them, in their order. The
values of a section stand together in the document, and so what is printed for the section stands
together in what is printed for the document. If the log is asked for, what it tells stands before
the reports: at the start for the document and its values, and before each error.
-/

namespace DataOutline.CommandLine

open Expression (evaluateText)

/-! ## Outputs in a row -/

namespace Output

theorem empty_append (o : Output) : append {} o = o := by
  rw [append, String.empty_append, String.empty_append, Nat.zero_max]

theorem append_assoc (a b c : Output) : (a.append b).append c = a.append (b.append c) := by
  simp only [append, String.append_assoc, Nat.max_assoc]

theorem concat_cons (o : Output) (os : List Output) : concat (o :: os) = o.append (concat os) := rfl

theorem concat_append (os os' : List Output) :
    concat (os ++ os') = (concat os).append (concat os') := by
  induction os with
  | nil => exact (empty_append _).symm
  | cons o os ih => rw [List.cons_append, concat_cons, concat_cons, ih, append_assoc]

end Output

/-! ## What results are reported as -/

section Results

variable (log : Event → String) (source : String)

/-- The line for a value that was run, if this went well. -/
def jsonLine? : Except Failure Value → Option String
  | .ok v => some (String.ofList (v.toJson.pretty 0) ++ "\n")
  | .error _ => none

/-- The report of a value that was run, if this failed, behind what is logged about it. -/
def errorLine? : Except Failure Value → Option String
  | .ok _ => none
  | .error f =>
    some (log (.failed f.span.line f.error) ++ ("runtime error: " ++ f.report source ++ "\n"))

/-- An output that reports results: the values in their order on one channel, as text that reads
back, the failures in their order on the other, and a code that tells whether there are any. -/
structure Output.Reports (results : List (Except Failure Value)) (o : Output) : Prop where
  stdout : o.stdout = String.join (results.filterMap jsonLine?)
  readable {v : Value} (succeeds : .ok v ∈ results) (readable : v.toJson.IsReadable 127) :
    Json.read (v.toJson.pretty 0) = .ok v.toJson
  stderr : o.stderr = String.join (results.filterMap (errorLine? log source))
  code : o.code = 0 ∨ o.code = 1
  failed : o.code = 1 ↔ ∃ f, .error f ∈ results

theorem Output.reports_concat (results : List (Except Failure Value)) :
    (concat (results.map (outcome log source))).Reports log source results := by
  induction results with
  | nil => exact ⟨rfl, fun _ ↦ Json.read_pretty, rfl, Or.inl rfl, by simp [concat]⟩
  | cons result results ih =>
    rw [List.map_cons, concat_cons]
    cases result with
    | ok v =>
      have hjson : jsonLine? (.ok v) = some (String.ofList (v.toJson.pretty 0) ++ "\n") := rfl
      have herror : errorLine? log source (.ok v) = none := rfl
      have hcode : max 0 (concat (results.map (outcome log source))).code =
          (concat (results.map (outcome log source))).code := Nat.zero_max _
      constructor
      · rw [List.filterMap_cons_some hjson, String.join_cons, ← ih.stdout]
        rfl
      · exact fun _ ↦ Json.read_pretty
      · rw [List.filterMap_cons_none herror, ← ih.stderr]
        exact String.empty_append
      · exact hcode ▸ ih.code
      · simp [append, outcome, ih.failed]
    | error f =>
      have hjson : jsonLine? (.error f) = none := rfl
      have herror : errorLine? log source (.error f) = some (log (.failed f.span.line f.error) ++
        ("runtime error: " ++ f.report source ++ "\n")) := rfl
      have hcode : max (max 0 1) (concat (results.map (outcome log source))).code = 1 := by
        rcases ih.code with h | h <;> rw [h] <;> rfl
      constructor
      · rw [List.filterMap_cons_none hjson, ← ih.stdout]
        exact String.empty_append
      · exact fun _ ↦ Json.read_pretty
      · rw [List.filterMap_cons_some herror, String.join_cons, ← ih.stderr]
        rfl
      · exact Or.inr hcode
      · exact iff_of_true hcode ⟨f, List.mem_cons_self⟩

end Results

/-! ## The values in scope -/

section Values

variable (log : Event → String) (host : Host Id) (source : String) (context : Context)

/-- A value has a result: that of its program. -/
def RunsTo (t : ValueTree Program) (result : Except Failure Value) : Prop :=
  ∃ p, Program.compile t = .ok p ∧ p.outcome (evaluateText host) context = result

/-- What is printed for some values, each of them run in the same context. -/
def Prints (values : List (ValueTree Program)) (o : Output) : Prop :=
  ∃ results, List.Forall₂ (RunsTo host context) values results ∧ o.Reports log source results

def programs (values : List (ValueTree Program)) : List Program :=
  (values.map (ValueTree.unitOf id)).filterMap ValueTree.unit?

def outputOf (values : List (ValueTree Program)) : Output :=
  Output.concat ((programs values).map fun p ↦
    outcome log source (p.outcome (evaluateText host) context))

theorem outputOf_append (values values' : List (ValueTree Program)) :
    outputOf log host source context (values ++ values') =
      (outputOf log host source context values).append
        (outputOf log host source context values') := by
  simp only [outputOf, programs, List.map_append, List.filterMap_append, Output.concat_append]

theorem forall₂_programs {values : List (ValueTree Program)}
    (h : ∀ t ∈ values, ∃ p, Program.compile t = .ok p) :
    List.Forall₂ (fun t p ↦ Program.compile t = .ok p) values (programs values) := by
  induction values with
  | nil => exact .nil
  | cons t values ih =>
    obtain ⟨⟨p, hp⟩, hvalues⟩ := List.forall_mem_cons.mp h
    have hunit : (ValueTree.unitOf id t).unit? = some p := by
      rw [ValueTree.unitOf, hp]
      rfl
    rw [programs, List.map_cons, List.filterMap_cons_some hunit]
    exact .cons hp (ih hvalues)

theorem prints_outputOf {values : List (ValueTree Program)}
    (h : ∀ t ∈ values, ∃ p, Program.compile t = .ok p) :
    Prints log host source context values (outputOf log host source context values) := by
  refine ⟨(programs values).map (Program.outcome (evaluateText host) context), ?_, ?_⟩
  · rw [List.forall₂_map_right_iff]
    exact (forall₂_programs h).imp fun t p hp ↦ ⟨p, hp, rfl⟩
  · have hreports := Output.reports_concat log source
      ((programs values).map (Program.outcome (evaluateText host) context))
    rwa [List.map_map] at hreports

theorem evaluateScope_mapValues (scope : Section Program) :
    evaluateScope log host source context (scope.mapValues (ValueTree.unitOf id)) =
      outputOf log host source context scope.values := by
  rw [evaluateScope, Section.values_mapValues]
  change Output.concat (List.map (outcome log source) (Id.run ((programs scope.values).mapM fun p ↦
    pure (p.outcome (evaluateText host) context)))) = _
  rw [List.mapM_pure, outputOf]
  exact congrArg Output.concat List.map_map

variable {source}

/-- The values of the section that is in scope are run, if it is there. -/
theorem evaluate_of_parse {doc : Section Program} (h : Document.parse source = .ok doc)
    (name : Option String) :
    evaluate log host source context name doc =
      (logged log (.compiled doc.values.length doc.header.name)).append
        (match scopeOf name doc with
        | .error t => t.output
        | .ok scope => outputOf log host source context scope.values) := by
  have hscope : ∀ f : ValueTree Program → ValueTree Program,
      scopeOf name (doc.mapValues f) = Section.mapValues f <$> scopeOf name doc := by
    intro f
    cases name with
    | none => rfl
    | some name =>
      rw [scopeOf, scopeOf, Section.find?_mapValues]
      cases doc.find? name <;> rfl
  rw [evaluate, Section.compile_of_parse id h]
  simp only [hscope]
  cases scopeOf name doc with
  | error t => rfl
  | ok scope =>
    exact congrArg (logged log (.compiled doc.values.length doc.header.name)).append
      (evaluateScope_mapValues log host source context scope)

end Values

/-! ## From files to values -/

section Files

variable {m n : Type → Type} [Monad m] [LawfulMonad m] [Monad n] {files : Files m}

/-- The context of a file loads. -/
def LoadsContext (files : Files m) (path : String) (c : Context) : Prop :=
  ∃ text, files path = pure (.ok text) ∧ readContext path text = .ok c

/-- What an evaluation reads: a document, and contexts, all of which load. -/
structure Loads (files : Files m) (r : Request) (source : String) (doc : Section Program)
    (contexts : List Context) : Prop where
  verb : r.verb = .evaluate
  file : files r.file = pure (.ok source)
  parses : Document.parse source = .ok doc
  contexts : List.Forall₂ (LoadsContext files) (r.values .context) contexts

theorem readFile_eq {path text : String} (h : files path = pure (.ok text)) :
    readFile files path = pure text := by
  have hlift : (liftM (pure (.ok text) : m (Except String String)) :
      ExceptT Trouble m (Except String String)) = pure (.ok text) := liftM_pure _
  rw [readFile, h, hlift, pure_bind]

theorem contextOfFile_eq {path : String} {c : Context} (h : LoadsContext files path c) :
    contextOfFile files path = pure c := by
  obtain ⟨text, hfile, hcontext⟩ := h
  rw [contextOfFile, readFile_eq hfile, pure_bind, hcontext]
  rfl

theorem mapM_contextOfFile {paths : List String} {contexts : List Context}
    (h : List.Forall₂ (LoadsContext files) paths contexts) :
    paths.mapM (contextOfFile files) = pure contexts := by
  induction h with
  | nil => rfl
  | cons hpath _ ih => rw [List.mapM_cons, contextOfFile_eq hpath, pure_bind, ih, pure_bind]

/-- An evaluation whose files load goes on to run values. -/
theorem respond_eq (log : Event → String) (host : Host n) {arguments : List String} {r : Request}
    {source : String} {doc : Section Program} {contexts : List Context}
    (hr : Request.ofArguments arguments = .ok r) (h : Loads files r source doc contexts) :
    respond files log host arguments = pure ((logged (r.heard log) (.parsed r.file)).append <$>
      evaluate (r.heard log) host source (layered (!r.has .noHelpers) contexts)
        (r.values .scope).head? doc) := by
  have hread : readDocument files r.file = pure (source, doc) := by
    rw [readDocument, readFile_eq h.file, pure_bind, h.parses]
  have hperform : r.perform files (r.heard log) host source doc =
      pure (evaluate (r.heard log) host source (layered (!r.has .noHelpers) contexts)
        (r.values .scope).head? doc) := by
    rw [Request.perform, h.verb]
    simp only
    rw [mapM_contextOfFile h.contexts, pure_bind]
  have hrun : ∀ {α : Type} (a : α), (pure a : ExceptT Trouble m α).run = pure (.ok a) :=
    fun _ ↦ rfl
  rw [respond, hr]
  simp only
  rw [Request.run, hread, hrun, pure_bind]
  simp only
  rw [hperform, hrun, pure_bind]

variable {source : String} {doc : Section Program} {contexts : List Context}

omit [LawfulMonad m] in
theorem Loads.nodup_names {r : Request} (h : Loads files r source doc contexts) :
    ∀ c ∈ contexts, c.names.Nodup := by
  intro c hc
  obtain ⟨path, -, text, -, hread⟩ := exists_of_forall₂ h.contexts.flip hc
  exact nodup_names_of_readContext hread

/-- What is logged of an evaluation before its values are run. -/
def opening (log : Event → String) (path : String) (doc : Section Program) : Output :=
  (logged log (.parsed path)).append (logged log (.compiled doc.values.length doc.header.name))

/-- What an evaluation comes to. It is silent about its work, unless it is asked for the log. A name
stands for what the last file gives it, and otherwise for the helper of that name if helpers are
wanted. In this context the values in scope are run: those of the document, or those of the first
section of a name. What is printed for a section is a part of what is printed without it, and for a
section that is not there it is nothing but an error. -/
structure GoesByValue (files : Files m) (log : Event → String) (host : Host Id)
    (arguments : List String) (r : Request) (source : String) (doc : Section Program)
    (contexts : List Context) (context : Context) : Prop where
  silent (unasked : r.has .verbose = false) (e : Event) : r.heard log e = ""
  told (asked : r.has .verbose = true) : r.heard log = log
  names (name : String) : ∃ helper, Generator.Offers name helper ∧ context.get? name =
    (contexts.reverse.findSome? fun c ↦ c.get? name).or
      (if r.has .noHelpers then none else helper)
  whole (unasked : (r.values .scope).head? = none) : ∃ o : Output,
    respond files log host arguments = pure ((opening (r.heard log) r.file doc).append o) ∧
      Prints (r.heard log) host source context doc.values o
  missing {name : String} (asked : (r.values .scope).head? = some name)
    (absent : doc.sections.find? (fun s ↦ s.header.name = name) = none) : ∃ o : Output,
    respond files log host arguments = pure ((opening (r.heard log) r.file doc).append o) ∧
      o.stdout = "" ∧ o.stderr = "error: no section named '" ++ name ++ "'\n" ∧ o.code = 1
  part {name : String} {scope : Section Program} (asked : (r.values .scope).head? = some name)
    (first : doc.sections.find? (fun s ↦ s.header.name = name) = some scope) : ∃ o : Output,
    respond files log host arguments = pure ((opening (r.heard log) r.file doc).append o) ∧
      Prints (r.heard log) host source context scope.values o ∧
      ∃ above below before after, doc.values = above ++ scope.values ++ below ∧
        Prints (r.heard log) host source context above before ∧
        Prints (r.heard log) host source context below after ∧
        ∀ arguments' r', Request.ofArguments arguments' = .ok r' →
          Loads files r' source doc contexts → r'.has .noHelpers = r.has .noHelpers →
          r'.has .verbose = r.has .verbose → (r'.values .scope).head? = none →
          respond files log host arguments' = pure ((opening (r.heard log) r'.file doc).append
            ((before.append o).append after))

/-- An evaluation whose files load goes on to the scope. -/
theorem respond_scope (log : Event → String) (host : Host Id) {arguments : List String}
    {r : Request}
    (hr : Request.ofArguments arguments = .ok r) (loads : Loads files r source doc contexts) :
    respond files log host arguments = pure ((opening (r.heard log) r.file doc).append
      (match scopeOf (r.values .scope).head? doc with
      | .error t => t.output
      | .ok scope => outputOf (r.heard log) host source (layered (!r.has .noHelpers) contexts)
          scope.values)) := by
  rw [respond_eq log host hr loads, evaluate_of_parse _ host _ loads.parses, opening,
    Output.append_assoc]
  rfl

/-- Without a section the scope of an evaluation is the document. -/
theorem respond_whole (log : Event → String) (host : Host Id) {arguments : List String}
    {r : Request}
    (hr : Request.ofArguments arguments = .ok r) (loads : Loads files r source doc contexts)
    (unasked : (r.values .scope).head? = none) :
    respond files log host arguments = pure ((opening (r.heard log) r.file doc).append
      (outputOf (r.heard log) host source (layered (!r.has .noHelpers) contexts) doc.values)) := by
  rw [respond_scope log host hr loads, unasked]
  rfl

/-- **An evaluation goes value by value, and by section.** -/
theorem evaluation_goes_by_value (log : Event → String) (host : Host Id) {arguments : List String}
    {r : Request} (hr : Request.ofArguments arguments = .ok r)
    (loads : Loads files r source doc contexts) :
    GoesByValue files log host arguments r source doc contexts
      (layered (!r.has .noHelpers) contexts) := by
  have hprograms := Section.exists_program_of_parse loads.parses
  have hrespond := respond_scope log host hr loads
  have hwhole := respond_whole log host hr loads
  generalize hcontext : layered (!r.has .noHelpers) contexts = context at hrespond hwhole ⊢
  constructor
  case silent =>
    intro unasked e
    rw [Request.heard, unasked]
    rfl
  case told =>
    intro asked
    funext e
    rw [Request.heard, asked]
    rfl
  case names =>
    intro name
    refine ⟨_, Generator.offers_context name, ?_⟩
    rw [← hcontext, get?_layered loads.nodup_names]
    cases r.has .noHelpers <;> rfl
  case whole =>
    intro unasked
    exact ⟨_, hwhole unasked, prints_outputOf _ host source context hprograms⟩
  case missing =>
    intro name asked absent
    have hreport : (Trouble.noSection name).report =
        "error: no section named '" ++ name ++ "'\n" := by
      simp [Trouble.report, Trouble.report.line, ← String.toList_inj]
    rw [asked, scopeOf, Section.find?_eq, absent] at hrespond
    exact ⟨_, hrespond, rfl, hreport, rfl⟩
  case part =>
    intro name scope asked first
    have hpart : respond files log host arguments = pure ((opening (r.heard log) r.file doc).append
        (outputOf (r.heard log) host source context scope.values)) := by
      rw [hrespond, asked, scopeOf, Section.find?_eq, first]
    obtain ⟨above, below, hsplit⟩ := Section.values_infix (List.mem_of_find?_eq_some first)
    rw [← hsplit] at hprograms
    obtain ⟨hupper, hbelow⟩ := List.forall_mem_append.mp hprograms
    obtain ⟨habove, hscope⟩ := List.forall_mem_append.mp hupper
    refine ⟨_, hpart, prints_outputOf _ host source context hscope, above, below, _, _,
      hsplit.symm, prints_outputOf _ host source context habove,
      prints_outputOf _ host source context hbelow,
      fun arguments' r' hr' loads' hhelpers hverbose unasked ↦ ?_⟩
    have hheard : r'.heard log = r.heard log := by
      funext e
      rw [Request.heard, Request.heard, hverbose]
    rw [respond_whole log host hr' loads' unasked, hheard, hhelpers, hcontext, ← hsplit,
      outputOf_append, outputOf_append]

end Files

/-- A document whose second section has a value that fails when nothing binds `y`. -/
def plan : String := "# a\n\tx\n## b\n\tx\n\n\ty"

/-- The second section of `plan`. -/
def planPart : Section Program :=
  ⟨⟨"b", 2, 3, "## b"⟩, [.value (.expression ⟨⟨4, 1⟩, "\tx"⟩ "x"),
    .value (.expression ⟨⟨6, 1⟩, "\ty"⟩ "y")]⟩

def planDocument : Section Program :=
  ⟨⟨"a", 1, 1, "# a"⟩, [.value (.expression ⟨⟨2, 1⟩, "\tx"⟩ "x"),
    .subsection planPart.header planPart.children]⟩

/-- The second of two files binds `x` for the values of a section. -/
theorem evaluation_goes_by_value_plan :
    let log : Event → String := fun e ↦ e.text
    let host : Host Id := ⟨fun _ _ ↦ pure .null⟩
    let files : Files Id := fun path ↦ pure <| .ok <|
      if path = "plan" then plan
      else if path = "one" then "\x7b\"x\": null\x7d" else "\x7b\"x\": true\x7d"
    let arguments := ["plan", "-c", "one", "-c", "two", "-s", "b"]
    let r : Request :=
      ⟨.evaluate, "plan", [⟨.context, "one"⟩, ⟨.context, "two"⟩, ⟨.scope, "b"⟩]⟩
    let contexts : List Context := [⟨[("x", .null)]⟩, ⟨[("x", .boolean true)]⟩]
    Request.ofArguments arguments = .ok r ∧ Loads files r plan planDocument contexts ∧
      (layered true contexts).get? "x" = some (.boolean true) ∧
      ∃ o : Output, respond files log host arguments =
          pure ((opening (fun _ ↦ "") "plan" planDocument).append o) ∧
        Prints (fun _ ↦ "") host plan (layered true contexts) planPart.values o := by
  intro log host files arguments r contexts
  have hword : "plan".startsWith "-" = false := by
    rw [Bool.eq_false_iff, ne_eq, String.startsWith_string_iff]
    decide
  have hcommand : withCommand arguments = "eval" :: arguments := by
    rw [withCommand.eq_2, hword]
    rfl
  have hr : Request.ofArguments arguments = .ok r := by
    rw [Request.ofArguments, hcommand, readCommand.eq_def]
    rfl
  have hone : LoadsContext files "one" ⟨[("x", .null)]⟩ := ⟨_, rfl, by rfl⟩
  have htwo : LoadsContext files "two" ⟨[("x", .boolean true)]⟩ := ⟨_, rfl, by rfl⟩
  have loads : Loads files r plan planDocument contexts :=
    ⟨rfl, rfl, by rfl, .cons hone (.cons htwo .nil)⟩
  have hgoes := evaluation_goes_by_value log host hr loads
  have hheard : r.heard log = fun _ ↦ "" := funext (hgoes.silent rfl)
  have hfirst : planDocument.sections.find? (fun s ↦ s.header.name = "b") = some planPart := rfl
  obtain ⟨helper, -, hx⟩ := hgoes.names "x"
  obtain ⟨o, hrespond, hprints, -⟩ := hgoes.part rfl hfirst
  rw [hheard] at hrespond hprints
  exact ⟨hr, loads, hx, o, hrespond, hprints⟩

end DataOutline.CommandLine
