import DataOutline.CommandLine.Run
import DataOutline.Proofs.Entries
import DataOutline.Proofs.Generator.Outcome
import DataOutline.Proofs.Json.Sorting

/-!
# The context of an evaluation

The contexts of files are laid over each other and over the generators. No file binds a name twice,
whether it is TOML or JSON: the entries that come from it are sorted by name. So a name stands for
what the last file gives it, and if no file does, for the generator of that name or, if there is
none, for nothing; `empty` alone is a name of data.
-/

namespace DataOutline

theorem Entries.get?_foldl_insert {α : Type} {es : Entries α} (nodup : es.keys.Nodup)
    (name : String) (below : Entries α) :
    Entries.get? name (es.foldl (fun m (name, value) ↦ m.insert name value) below) =
      (es.get? name).or (below.get? name) := by
  induction es generalizing below with
  | nil => rfl
  | cons e es ih =>
    obtain ⟨hnew, hes⟩ := List.nodup_cons.mp nodup
    rw [List.foldl_cons, ih hes, get?]
    by_cases hname : e.1 = name
    · subst hname
      have hnone : get? e.1 es = none := by
        rw [← Option.not_isSome_iff_eq_none, ← mem_keys_iff]
        exact hnew
      rw [if_pos rfl, hnone, get?_insert_self]
      rfl
    · rw [if_neg hname, get?_insert_of_ne _ _ (Ne.symm hname)]

namespace Generator

/-- What a name stands for beside the files: the generator that has it, or the empty object, or
nothing. -/
inductive Offers (name : String) : Option Value → Prop
  | generator {g : Generator} {f : HostFunction} (named : g.name = name)
      (runs : ∀ arguments, host.call f arguments = g.call arguments) :
      Offers name (some (.function f))
  | empty (named : name = "empty") : Offers name (some (.object []))
  | nothing (unnamed : ∀ g : Generator, g.name ≠ name) (full : name ≠ "empty") : Offers name none

/-- Every generator is bound to its name, and beside them there is only the empty object. -/
theorem offers_context (name : String) : Offers name (context.get? name) := by
  by_cases hname : ∃ g : Generator, g.name = name
  · obtain ⟨g, rfl⟩ := hname
    have hbound : ∃ id, context.get? g.name = some (.function ⟨g.name, id⟩) := by
      cases g <;> exact ⟨_, rfl⟩
    obtain ⟨id, hid⟩ := hbound
    rw [hid]
    exact .generator rfl (host_call g id)
  · by_cases hempty : name = "empty"
    · subst hempty
      exact .empty rfl
    · have hnames : context.names = all.map Generator.name ++ ["empty"] := by decide
      have hnone : context.get? name = none := by
        rw [← Option.not_isSome_iff_eq_none]
        intro hsome
        have hmem : name ∈ context.names := Entries.mem_keys_iff.mpr hsome
        rw [hnames] at hmem
        rcases List.mem_append.mp hmem with hmem | hmem
        · obtain ⟨g, -, hg⟩ := List.mem_map.mp hmem
          exact hname ⟨g, hg⟩
        · exact hempty (List.mem_singleton.mp hmem)
      rw [hnone]
      exact .nothing (fun g hg ↦ hname ⟨g, hg⟩) hempty

end Generator

/-- What is laid over a context comes first. -/
theorem Context.get?_extend {upper : Context} (nodup : upper.names.Nodup) (c : Context)
    (name : String) : (c.extend upper).get? name = (upper.get? name).or (c.get? name) :=
  Entries.get?_foldl_insert nodup name c.bindings

namespace CommandLine

theorem nodup_keys_of_ofJson {j : Json} {entries : List (String × Value)}
    (h : Value.ofJson j = .object entries) : (Entries.keys entries).Nodup := by
  cases j with
  | object es =>
    rw [Value.ofJson] at h
    cases h
    exact Entries.nodup_keys_ofList _
  | _ =>
    rw [Value.ofJson] at h
    cases h

theorem nodup_names_of_readContext {path text : String} {c : Context}
    (h : readContext path text = .ok c) : c.names.Nodup := by
  rw [readContext] at h
  split at h
  · split at h
    · next values hvalues =>
      cases h
      rw [Toml.read] at hvalues
      split at hvalues
      · cases hvalues
        exact (Entries.isSorted_sorted _).nodup_keys
      · cases hvalues
    · cases h
  · split at h
    · next j hj =>
      split at h
      · next entries hentries =>
        cases h
        exact nodup_keys_of_ofJson hentries
      · cases h
    · cases h

/-- **A name stands for what the last file gives it**, and if none does, for what lies below. -/
theorem get?_layered {contexts : List Context} (nodup : ∀ c ∈ contexts, c.names.Nodup)
    (helpers : Bool) (name : String) :
    (layered helpers contexts).get? name =
      (contexts.reverse.findSome? fun c ↦ c.get? name).or
        (if helpers then Generator.context.get? name else none) := by
  rw [layered]
  induction contexts using List.reverseRecOn with
  | nil => cases helpers <;> rfl
  | append_singleton contexts c ih =>
    obtain ⟨hcontexts, hc⟩ := List.forall_mem_append.mp nodup
    rw [List.foldl_concat, Context.get?_extend (hc c List.mem_cons_self), ih hcontexts,
      List.reverse_concat, List.findSome?_cons]
    cases c.get? name <;> rfl

end CommandLine

end DataOutline
