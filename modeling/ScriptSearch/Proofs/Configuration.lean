import ScriptSearch.Configuration
import ScriptSearch.Proofs.Template
import ScriptSearch.Proofs.Trace
import ScriptSearch.Candidates

/-! Setting up a resolver, seen from its end. A set-up that succeeds has read all texts; its
search path is the base followed by the templates of the options, its chain is the old one
with a searcher for the directories of `PATH` if that is asked for, and all that it says on
an ordinary display is the warning about a `PATH` that is not set. -/

namespace ScriptSearch

/-- The notices that a set-up gives. -/
def Event.ofSetUp : Event → Bool
  | notice .listUsed | notice .pathUnset | notice (.searchPath _) | notice (.badTemplate _) => true
  | _ => false

theorem Event.passive_of_ofSetUp : ∀ {e : Event}, e.ofSetUp = true → e.passive = true
  | .notice _, _ => rfl

namespace Resolver

variable {lookup : Environment} {o : Options}

/-- The templates before those of the options, by what they are written in. -/
theorem basePath_value_ok {base : SearchPath} (h : (basePath lookup o).value = .ok base) :
    (o.defaultPath = false ∧ base = []) ∨
      (o.defaultPath = true ∧ ∃ list, lookup "SOURCE_PATH" = some list ∧
        SearchPath.Reads (Text.elements list) base) ∨
      (o.defaultPath = true ∧ lookup "SOURCE_PATH" = none ∧
        base = SearchPath.ofHome ((lookup "HOME").getD "")) := by
  unfold basePath at h
  split at h
  next hd =>
    cases hl : lookup "SOURCE_PATH" with
    | some list =>
      simp only [hl, Traced.value_bind, Traced.value_pure] at h
      exact .inr (.inl ⟨hd, list, rfl, SearchPath.reads_of_parse h⟩)
    | none =>
      simp only [hl, Traced.value_pure, Except.ok.injEq] at h
      exact .inr (.inr ⟨hd, rfl, h.symm⟩)
  next hd =>
    simp only [Traced.value_pure, Except.ok.injEq] at h
    exact .inl ⟨by simpa using hd, h.symm⟩

theorem eq_listUsed_of_mem_basePath {e : Event} (he : e ∈ (basePath lookup o).trace) :
    e = .notice .listUsed := by
  unfold basePath at he
  split at he
  · cases hl : lookup "SOURCE_PATH" with
    | some list => simpa [hl] using he
    | none => simp [hl] at he
  · cases he

theorem quiet_basePath : (basePath lookup o).trace.Quiet := by
  intro e he
  rw [eq_listUsed_of_mem_basePath he]
  rfl

/-- The searcher that the options add to a chain. -/
def addedSearchers (lookup : Environment) (o : Options) : List Searcher :=
  if o.pathSearch then [Searcher.ofList ((lookup "PATH").getD "")] else []

/-- The warning about a `PATH` that is asked for and not set. -/
def pathWarning (lookup : Environment) (o : Options) : Trace :=
  if o.pathSearch ∧ lookup "PATH" = none then [.notice .pathUnset] else []

theorem addPathSearcher_eq (h : o.pathSearch = true) (r : Resolver) :
    r.addPathSearcher lookup =
      ⟨{ r with chain := r.chain ++ addedSearchers lookup o }, pathWarning lookup o⟩ := by
  unfold addPathSearcher addedSearchers pathWarning
  cases lookup "PATH" <;> simp [h, add, pure, bind, Traced.note, Traced.emit]

/-- All that a set-up says when it succeeds with a search path. -/
def setupTrace (lookup : Environment) (o : Options) (path : SearchPath) : Trace :=
  (basePath lookup o).trace ++ pathWarning lookup o ++ path.map fun t => .notice (.searchPath t)

section Exits

variable {base path : SearchPath} {e : TemplateError} (r : Resolver)

/-- A malformed list leaves no search path. -/
theorem configure_of_base_error (hbase : (basePath lookup o).value = .error e) :
    r.configure lookup o =
      ⟨{ resolver := ⟨[], r.chain⟩, error? := some e },
        (basePath lookup o).trace ++ [.notice (.badTemplate e)]⟩ := by
  ext1 <;> simp [configure, hbase, refuse]

/-- A malformed template of the options leaves the search path that was built before it. -/
theorem configure_of_templates_error (hbase : (basePath lookup o).value = .ok base)
    (happ : base.appendTexts o.templates = (path, some e)) :
    r.configure lookup o =
      ⟨{ resolver := ⟨path, r.chain⟩, error? := some e },
        (basePath lookup o).trace ++ [.notice (.badTemplate e)]⟩ := by
  ext1 <;> simp [configure, hbase, happ, refuse]

theorem configure_of_templates_ok (hbase : (basePath lookup o).value = .ok base)
    (happ : base.appendTexts o.templates = (path, none)) :
    r.configure lookup o =
      ⟨{ resolver := ⟨path, r.chain ++ addedSearchers lookup o⟩ }, setupTrace lookup o path⟩ := by
  cases hp : o.pathSearch with
  | true =>
    ext1 <;> simp [configure, hbase, happ, hp, addPathSearcher_eq hp, setupTrace]
  | false =>
    ext1 <;> simp [configure, hbase, happ, hp, addedSearchers, pathWarning, setupTrace]

end Exits

/-- A set-up that succeeds, in full. -/
theorem configure_of_ok {r : Resolver} (h : (r.configure lookup o).value.error? = none) :
    ∃ base more, (basePath lookup o).value = .ok base ∧ SearchPath.Reads o.templates more ∧
      r.configure lookup o =
        ⟨{ resolver := ⟨base ++ more, r.chain ++ addedSearchers lookup o⟩ },
          setupTrace lookup o (base ++ more)⟩ := by
  cases hbase : (basePath lookup o).value with
  | error e => simp [configure_of_base_error r hbase] at h
  | ok base =>
    rcases happ : base.appendTexts o.templates with ⟨path, _ | e⟩
    · obtain ⟨more, hmore, hreads⟩ := SearchPath.appendTexts_of_none (congrArg Prod.snd happ)
      rw [happ] at hmore
      subst hmore
      exact ⟨base, more, rfl, hreads, configure_of_templates_ok r hbase happ⟩
    · simp [configure_of_templates_error r hbase happ] at h

/-- A set-up forgets the search path that it finds, and takes every chain alike: it adds the
same searchers at the end, or none if it fails. -/
theorem configure_uniform (lookup : Environment) (o : Options) :
    ∃ (path : SearchPath) (error? : Option TemplateError) (t : Trace), ∀ r : Resolver,
      r.configure lookup o =
        ⟨{ resolver :=
              ⟨path, r.chain ++ if error?.isSome then [] else addedSearchers lookup o⟩,
            error? }, t⟩ := by
  cases hbase : (basePath lookup o).value with
  | error e =>
    refine ⟨[], some e, (basePath lookup o).trace ++ [.notice (.badTemplate e)], fun r => ?_⟩
    rw [configure_of_base_error r hbase]
    simp
  | ok base =>
    rcases happ : base.appendTexts o.templates with ⟨path, _ | e⟩
    · exact ⟨path, none, _, fun r => configure_of_templates_ok r hbase happ⟩
    · refine ⟨path, some e, (basePath lookup o).trace ++ [.notice (.badTemplate e)], fun r => ?_⟩
      rw [configure_of_templates_error r hbase happ]
      simp

theorem builtin_addedSearchers : ∀ s ∈ addedSearchers lookup o, s.Builtin := by
  intro s hs
  unfold addedSearchers at hs
  split at hs
  · rw [List.mem_singleton.mp hs]
    trivial
  · cases hs

theorem quiet_searchPath (path : SearchPath) :
    Trace.Quiet (path.map fun t => .notice (.searchPath t)) := by
  intro e he
  obtain ⟨t, _, rfl⟩ := List.mem_map.mp he
  rfl

theorem ofSetUp_setupTrace (path : SearchPath) :
    ∀ e ∈ setupTrace lookup o path, e.ofSetUp = true := by
  intro e he
  rw [setupTrace, List.mem_append, List.mem_append] at he
  rcases he with (he | he) | he
  · rw [eq_listUsed_of_mem_basePath he]
    rfl
  · unfold pathWarning at he
    split at he
    · rw [List.mem_singleton.mp he]
      rfl
    · cases he
  · obtain ⟨t, _, rfl⟩ := List.mem_map.mp he
    rfl

/-- A set-up only gives its own notices, whatever comes of it. -/
theorem ofSetUp_configure (r : Resolver) :
    ∀ e ∈ (r.configure lookup o).trace, e.ofSetUp = true := by
  have herror (e : TemplateError) :
      ∀ e' ∈ (basePath lookup o).trace ++ [.notice (.badTemplate e)], e'.ofSetUp = true := by
    intro e' he'
    rcases List.mem_append.mp he' with he' | he'
    · rw [eq_listUsed_of_mem_basePath he']
      rfl
    · rw [List.mem_singleton.mp he']
      rfl
  cases hbase : (basePath lookup o).value with
  | error e =>
    rw [configure_of_base_error r hbase]
    exact herror e
  | ok base =>
    rcases happ : base.appendTexts o.templates with ⟨path, _ | e⟩
    · rw [configure_of_templates_ok r hbase happ]
      exact ofSetUp_setupTrace path
    · rw [configure_of_templates_error r hbase happ]
      exact herror e

theorem passive_setupTrace (path : SearchPath) : (setupTrace lookup o path).Passive :=
  fun e he => Event.passive_of_ofSetUp (ofSetUp_setupTrace path e he)

theorem passive_configure (r : Resolver) : (r.configure lookup o).trace.Passive :=
  fun e he => Event.passive_of_ofSetUp (ofSetUp_configure r e he)

/-- A set-up depends on three of the options. -/
theorem configure_congr {o o' : Options} (hd : o'.defaultPath = o.defaultPath)
    (ht : o'.templates = o.templates) (hp : o'.pathSearch = o.pathSearch) (r : Resolver) :
    r.configure lookup o' = r.configure lookup o := by
  simp only [configure, basePath, hd, ht, hp]

/-- An ordinary display shows nothing of a set-up but the warning. -/
theorem stderr_setupTrace {display : Display} (hd : display.verbose = false)
    (path : SearchPath) :
    (setupTrace lookup o path).stderr display =
      if o.pathSearch ∧ lookup "PATH" = none then
        Level.warning.line display "`PATH` is not set, `--path-search` finds nothing"
      else "" := by
  rw [setupTrace, Trace.stderr_append, Trace.stderr_append, quiet_basePath.stderr hd,
    (quiet_searchPath path).stderr hd, String.empty_append, String.append_empty]
  unfold pathWarning
  by_cases h : o.pathSearch ∧ lookup "PATH" = none
  · rw [if_pos h, if_pos h, Trace.stderr_cons, Trace.stderr_nil, String.append_empty]
    rfl
  · rw [if_neg h, if_neg h, Trace.stderr_nil]

end Resolver

end ScriptSearch
