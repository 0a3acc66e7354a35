import ScriptSearch.Program
import ScriptSearch.Proofs.Configuration
import ScriptSearch.Proofs.Dispatch
import ScriptSearch.Proofs.Loading

/-! A run cut at the point where its script is found. Up to there it sets up a resolver and
searches, and how scripts are loaded plays no part; behind it the loader has the path and the
arguments. The first part depends on what is searched for and where, and on the label only in
the reports. -/

namespace ScriptSearch.Program

variable {w : World} {o o' : Options}

/-! ### Up to the script -/

/-- The resolver of a run, set up from the variables and the options. -/
abbrev setUp (w : World) (o : Options) : Traced Configuration :=
  (Resolver.ofSearchPath []).configure w.lookup o

/-- The name of the script, empty if there is none. -/
def scriptName (o : Options) : String := o.args.head?.getD ""

theorem args_eq_cons (h : scriptName o ≠ "") : ∃ rest, o.args = scriptName o :: rest := by
  cases ha : o.args with
  | nil => simp [scriptName, ha] at h
  | cons name rest => exact ⟨rest, by simp [scriptName, ha]⟩

/-- The path that a run loads, or the status with which it ends without one. -/
def locate (w : World) (o : Options) : Traced (Except Int String) := do
  let c ← setUp w o
  if c.error?.isSome then return .error usageStatus
  if scriptName o = "" then
    Traced.emit (.report (.nameMissing o.label))
    return .error usageStatus
  match ← c.resolver.resolve w.present (scriptName o) with
  | .exhausted e =>
    Traced.emit (.report (.notFound o.label e))
    return .error notFoundStatus
  | .found path =>
    Traced.note (.loading path)
    return .ok path

/-- The set-up succeeds, and the resolver that it makes finds the path for the name. -/
structure Finds (w : World) (o : Options) (name path : String) : Prop where
  configured : (setUp w o).value.error? = none
  resolved : ((setUp w o).value.resolver.resolve w.present name).value = .found path

section Stages

variable (o)

theorem locate_of_error {e : TemplateError} (h : (setUp w o).value.error? = some e) :
    locate w o = ⟨.error usageStatus, (setUp w o).trace⟩ := by
  ext1 <;> simp [locate, h]

theorem locate_of_nameMissing (h : (setUp w o).value.error? = none) (hname : scriptName o = "") :
    locate w o = ⟨.error usageStatus, (setUp w o).trace ++ [.report (.nameMissing o.label)]⟩ := by
  ext1 <;> simp [locate, h, hname]

theorem locate_of_exhausted {e : Exhausted} (h : (setUp w o).value.error? = none)
    (hname : scriptName o ≠ "")
    (hr : ((setUp w o).value.resolver.resolve w.present (scriptName o)).value = .exhausted e) :
    locate w o =
      ⟨.error notFoundStatus, (setUp w o).trace ++
        (((setUp w o).value.resolver.resolve w.present (scriptName o)).trace ++
          [.report (.notFound o.label e)])⟩ := by
  ext1 <;> simp [locate, h, hname, hr]

theorem locate_of_finds {path : String} (h : Finds w o (scriptName o) path)
    (hname : scriptName o ≠ "") :
    locate w o =
      ⟨.ok path, (setUp w o).trace ++
        (((setUp w o).value.resolver.resolve w.present (scriptName o)).trace ++
          [.notice (.loading path)])⟩ := by
  ext1 <;> simp [locate, h.configured, hname, h.resolved]

/-- The four ways in which the search of a run can end. -/
theorem search_cases (w : World) (o : Options) :
    (∃ e, (setUp w o).value.error? = some e) ∨
      ((setUp w o).value.error? = none ∧
        (scriptName o = "" ∨
          (scriptName o ≠ "" ∧
            ((∃ e, ((setUp w o).value.resolver.resolve w.present (scriptName o)).value =
                .exhausted e) ∨
              ∃ path, Finds w o (scriptName o) path)))) := by
  cases hc : (setUp w o).value.error? with
  | some e => exact .inl ⟨e, rfl⟩
  | none =>
    refine .inr ⟨rfl, ?_⟩
    by_cases hname : scriptName o = ""
    · exact .inl hname
    · refine .inr ⟨hname, ?_⟩
      cases hr : ((setUp w o).value.resolver.resolve w.present (scriptName o)).value with
      | exhausted e => exact .inl ⟨e, rfl⟩
      | found path => exact .inr ⟨path, hc, hr⟩

end Stages

/-- A search that finds a path has been set up, and has a name to look for. -/
theorem finds_of_locate {path : String} (h : (locate w o).value = .ok path) :
    ∃ name rest, o.args = name :: rest ∧ name ≠ "" ∧ Finds w o name path := by
  rcases search_cases w o with ⟨e, hc⟩ | ⟨hc, hname | ⟨hname, ⟨e, hr⟩ | ⟨path', hfinds⟩⟩⟩
  · simp [locate_of_error o hc] at h
  · simp [locate_of_nameMissing o hc hname] at h
  · simp [locate_of_exhausted o hc hname hr] at h
  · obtain ⟨rest, hrest⟩ := args_eq_cons hname
    simp only [locate_of_finds o hfinds hname, Except.ok.injEq] at h
    exact ⟨scriptName o, rest, hrest, hname, h ▸ hfinds⟩

/-! ### The loading behind it -/

/-- A run is its search and, if that finds a path, the loading of the path. -/
theorem load_eq (w : World) (o : Options) :
    load w o =
      match (locate w o).value with
      | .error status => ⟨status, (locate w o).trace⟩
      | .ok path =>
        ⟨((loader o).load w.launch path o.args.tail).value,
          (locate w o).trace ++ .handed path o.args.tail ::
            ((loader o).load w.launch path o.args.tail).trace⟩ := by
  rcases search_cases w o with ⟨e, hc⟩ | ⟨hc, hname | ⟨hname, ⟨e, hr⟩ | ⟨path, hfinds⟩⟩⟩
  · rw [locate_of_error o hc]
    ext1 <;> simp [load, hc]
  · have hargs : o.args.headD "" = "" := by simpa [scriptName] using hname
    have hs := Resolver.source_of_nameMissing o.label
      (Resolver.dispatch_nameMissing w (setUp w o).value.resolver (loader o) hargs)
    rw [locate_of_nameMissing o hc hname]
    ext1 <;> simp [load, hc, hs, Finish.status]
  · obtain ⟨rest, hargs⟩ := args_eq_cons hname
    have hs := Resolver.source_of_exhausted o.label
      (Resolver.dispatch_of_exhausted w _ (loader o) hname (Traced.ext hr rfl) rest)
    rw [← hargs] at hs
    rw [locate_of_exhausted o hc hname hr]
    ext1 <;> simp [load, hc, hs, Finish.status]
  · obtain ⟨rest, hargs⟩ := args_eq_cons hname
    have hs := Resolver.source_of_loaded o.label
      (Resolver.dispatch_of_found w _ (loader o) hname (Traced.ext hfinds.resolved rfl) rest)
    have htail : o.args.tail = rest := by rw [hargs, List.tail_cons]
    rw [← hargs] at hs
    rw [locate_of_finds o hfinds hname, htail]
    ext1 <;> simp [load, hc, hs, Finish.status]

theorem load_of_stopped {status : Int} (h : (locate w o).value = .error status) :
    load w o = ⟨status, (locate w o).trace⟩ := by
  rw [load_eq, h]

theorem load_of_located {path : String} (h : (locate w o).value = .ok path) :
    load w o =
      ⟨((loader o).load w.launch path o.args.tail).value,
        (locate w o).trace ++ .handed path o.args.tail ::
          ((loader o).load w.launch path o.args.tail).trace⟩ := by
  rw [load_eq, h]

/-- A script is printed or interpreted, and nothing else. -/
theorem ofLoader_load (launch : Launcher) (o : Options) (path : String) (args : List String) :
    ∀ e ∈ ((loader o).load launch path args).trace, e.ofLoader = true := by
  unfold loader
  split
  · simp [Loader.load_print, Event.ofLoader]
  · rw [Loader.load_interpret]
    exact Command.ofLoader_run launch _

/-! ### What the search does, and on what it depends -/

theorem passive_resolve (w : World) (o : Options) (name : String) :
    ((setUp w o).value.resolver.resolve w.present name).trace.Passive :=
  Resolver.passive_ask _ _ _ _ _

/-- A search gives notices and asks searchers; at most it ends with a report. -/
theorem trace_locate (w : World) (o : Options) :
    ∃ before : Trace, before.Passive ∧
      ((locate w o).trace = before ∨ ∃ r, (locate w o).trace = before ++ [.report r]) := by
  have hsetup : (setUp w o).trace.Passive := Resolver.passive_configure _
  rcases search_cases w o with ⟨e, hc⟩ | ⟨hc, hname | ⟨hname, ⟨e, hr⟩ | ⟨path, hfinds⟩⟩⟩
  · exact ⟨_, hsetup, .inl (by rw [locate_of_error o hc])⟩
  · exact ⟨_, hsetup, .inr ⟨_, by rw [locate_of_nameMissing o hc hname]⟩⟩
  · refine ⟨_, hsetup.append (passive_resolve w o (scriptName o)), .inr ⟨.notFound o.label e, ?_⟩⟩
    rw [locate_of_exhausted o hc hname hr, List.append_assoc]
  · have hloading : Trace.Passive [.notice (.loading path)] := by
      simp [Trace.Passive, Event.passive]
    refine ⟨_, hsetup.append ((passive_resolve w o (scriptName o)).append hloading), .inl ?_⟩
    rw [locate_of_finds o hfinds hname]

/-- Before the script is found nothing is loaded, started or written to standard output. -/
theorem calls_locate (w : World) (o : Options) :
    (locate w o).trace.stdout = "" ∧ (locate w o).trace.commands = [] ∧
      (locate w o).trace.handovers = [] := by
  obtain ⟨before, hpassive, htrace | ⟨r, htrace⟩⟩ := trace_locate w o
  · rw [htrace]
    exact ⟨hpassive.stdout, hpassive.commands, hpassive.handovers⟩
  · rw [htrace, Trace.stdout_append, Trace.commands_append, Trace.handovers_append,
      hpassive.stdout, hpassive.commands, hpassive.handovers]
    exact ⟨rfl, rfl, rfl⟩

/-- A search with a printed script behind it writes the path and nothing else. -/
theorem calls_printed (w : World) (o : Options) (path : String) (args : List String) :
    let t := (locate w o).trace ++ [.handed path args, .out (path ++ "\n")]
    t.stdout = path ++ "\n" ∧ t.commands = [] ∧ t.handovers = [(path, args)] := by
  intro t
  obtain ⟨hstdout, hcommands, hhandovers⟩ := calls_locate w o
  refine ⟨?_, ?_, ?_⟩
  · rw [Trace.stdout_append, hstdout]
    rfl
  · rw [Trace.commands_append, hcommands]
    rfl
  · rw [Trace.handovers_append, hhandovers]
    rfl

/-- A search with an interpreted script behind it runs the interpreter and nothing else. -/
theorem calls_interpreted (w : World) (o : Options) (path : String) (args : List String)
    (c : Command) :
    let t := (locate w o).trace ++ .handed path args :: (c.run w.launch).trace
    t.commands = [c] ∧ t.handovers = [(path, args)] := by
  intro t
  obtain ⟨_, hcommands, hhandovers⟩ := calls_locate w o
  constructor
  · rw [Trace.commands_append, hcommands, Trace.commands_cons, Command.commands_run]
    rfl
  · rw [Trace.handovers_append, hhandovers, Trace.handovers_cons, Command.handovers_run]
    rfl

/-- Two sets of options that agree on the script's name and on where it is searched for. -/
structure SearchesAlike (o o' : Options) : Prop where
  defaultPath : o'.defaultPath = o.defaultPath
  templates : o'.templates = o.templates
  pathSearch : o'.pathSearch = o.pathSearch
  name : o'.args.head? = o.args.head?

theorem SearchesAlike.refl (o : Options) : SearchesAlike o o := ⟨rfl, rfl, rfl, rfl⟩

/-- Of options that search alike only the label shows, and only in a report. -/
theorem locate_of_searchesAlike (h : SearchesAlike o o') (w : World) :
    locate w o' = ⟨(locate w o).value, (locate w o).trace.withLabel o'.label⟩ := by
  have hsetup : setUp w o' = setUp w o :=
    Resolver.configure_congr h.defaultPath h.templates h.pathSearch _
  have hname' : scriptName o' = scriptName o := by rw [scriptName, scriptName, h.name]
  have hpassive : (setUp w o).trace.Passive := Resolver.passive_configure _
  have hresolve := passive_resolve w o (scriptName o)
  -- Events in front of a report are passive, so a label changes none of them.
  rcases search_cases w o with ⟨e, hc⟩ | ⟨hc, hname | ⟨hname, ⟨e, hr⟩ | ⟨path, hfinds⟩⟩⟩
  · rw [locate_of_error o hc, locate_of_error o' (e := e) (by rw [hsetup, hc]), hsetup]
    simp only [hpassive.withLabel]
  · rw [locate_of_nameMissing o hc hname,
      locate_of_nameMissing o' (by rw [hsetup, hc]) (by rw [hname', hname]), hsetup]
    simp only [Trace.withLabel_append, hpassive.withLabel]
    rfl
  · rw [locate_of_exhausted o hc hname hr, locate_of_exhausted o' (e := e) (by rw [hsetup, hc])
      (by rwa [hname']) (by rw [hsetup, hname', hr]), hsetup, hname']
    simp only [Trace.withLabel_append, hpassive.withLabel, hresolve.withLabel]
    rfl
  · have hfinds' : Finds w o' (scriptName o') path := by
      rw [hname']
      exact ⟨by rw [hsetup, hfinds.configured], by rw [hsetup, hfinds.resolved]⟩
    rw [locate_of_finds o hfinds hname, locate_of_finds o' hfinds' (by rwa [hname']), hsetup,
      hname']
    simp only [Trace.withLabel_append, hpassive.withLabel, hresolve.withLabel]
    rfl

/-- Under one label such options cannot be told apart. -/
theorem locate_congr (h : SearchesAlike o o') (hl : o'.label = o.label) (w : World) :
    locate w o' = locate w o := by
  rw [locate_of_searchesAlike h, hl, ← locate_of_searchesAlike (.refl o)]

end ScriptSearch.Program
