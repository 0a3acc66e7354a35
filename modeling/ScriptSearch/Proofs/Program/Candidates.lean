import ScriptSearch.Proofs.Program.Stages
import ScriptSearch.Proofs.Configuration
import ScriptSearch.Proofs.Dispatch
import ScriptSearch.Proofs.Search.Resolution

/-! The whole program as a search of one list. The command line, the variables and the
searchers behind them come together in the candidates of the run: if one of them exists,
the first that does is loaded; if none exists, the report names all of them. -/

namespace ScriptSearch.Program

variable (lookup : Environment) (o : Options) (name : String)

/-! ### Candidates of the resolver that is set up -/

theorem map_expand_ofHome (home : String) :
    ((SearchPath.ofHome home).map fun t => t.before ++ name ++ t.after) =
      [home ++ "/.local/share/bash/" ++ name, home ++ "/.local/share/bash/" ++ name ++ ".sh",
        home ++ "/.local/share/bash/" ++ name ++ ".bash",
        "./" ++ name, "./" ++ name ++ ".sh", "./" ++ name ++ ".bash"] := by
  simp [SearchPath.ofHome, SearchPath.extensions]

theorem map_expand_base {base : SearchPath}
    (h : (Resolver.basePath lookup o).value = .ok base) :
    (base.map fun t => t.before ++ name ++ t.after) =
      if o.defaultPath then baseCandidates lookup name else [] := by
  rcases Resolver.basePath_value_ok h with ⟨hd, rfl⟩ | ⟨hd, list, hl, hreads⟩ | ⟨hd, hl, rfl⟩
  · simp [hd]
  · simp [hd, baseCandidates, hl, SearchPath.map_fill_of_reads hreads]
  · simp [hd, baseCandidates, hl, map_expand_ofHome]

theorem candidates_addedSearchers (path : SearchPath) :
    (Resolver.addedSearchers lookup o).flatMap (·.candidates path name) =
      if o.pathSearch then
        Searcher.directoryCandidates (Text.elements ((lookup "PATH").getD "")) name
      else [] := by
  unfold Resolver.addedSearchers
  split_ifs <;> simp [Searcher.candidates, Searcher.ofList]

/-- What a new resolver tries after its set-up are the candidates of the run. -/
theorem candidates_of_configured {base more : SearchPath}
    (hbase : (Resolver.basePath lookup o).value = .ok base)
    (hmore : SearchPath.Reads o.templates more) :
    (⟨base ++ more, [.templates] ++ Resolver.addedSearchers lookup o⟩ : Resolver).candidates name =
      candidates lookup o name := by
  unfold Resolver.candidates candidates
  rw [List.flatMap_append, candidates_addedSearchers, List.flatMap_singleton,
    Searcher.candidates, Searcher.templateCandidates, List.map_append,
    map_expand_base lookup o name hbase, ← SearchPath.map_fill_of_reads hmore]
  simp only [List.append_assoc]

/-! ### Runs -/

/-- A set-up that succeeds gives a resolver of built-in searchers that tries the candidates
of the run, and on the way nothing is loaded. -/
theorem configure_candidates
    (h : ((Resolver.ofSearchPath []).configure lookup o).value.error? = none) :
    ∃ (r : Resolver) (path : SearchPath),
      (Resolver.ofSearchPath []).configure lookup o =
          ⟨{ resolver := r }, Resolver.setupTrace lookup o path⟩ ∧
        (∀ s ∈ r.chain, s.Builtin) ∧ ∀ name, r.candidates name = candidates lookup o name := by
  obtain ⟨base, more, hbase, hmore, hconfigure⟩ := Resolver.configure_of_ok h
  refine ⟨_, base ++ more, hconfigure, ?_, fun name => ?_⟩
  · intro s hs
    rcases List.mem_append.mp hs with hs | hs
    · rw [List.mem_singleton.mp hs]
      trivial
    · exact Resolver.builtin_addedSearchers s hs
  · exact candidates_of_configured lookup o name hbase hmore

variable {w : World} {o name} {r : Resolver}

/-- The report on a failure has a line for each candidate. -/
theorem text_notFound (r : Resolver) (label name : String) :
    (Report.notFound label ⟨name, r.attempts name⟩).text =
      label ++ ": error: no script called '" ++ name ++ "'\n" ++
        String.join ((r.candidates name).map fun p => "\tno file '" ++ p ++ "'\n") := by
  rw [← Resolver.map_path_attempts, List.map_map]
  rfl

/-- If no candidate exists, the report lists the candidates. -/
theorem source_of_absent (hr : ∀ s ∈ r.chain, s.Builtin) (hname : name ≠ "")
    (h : ∀ p ∈ r.candidates name, w.present p = false) (loader : Loader) (label : String)
    (rest : List String) :
    ∃ t : Trace, t.Quiet ∧ t.Passive ∧
      r.source w loader label (name :: rest) =
        ⟨.exited notFoundStatus, t ++ [.report (.notFound label ⟨name, r.attempts name⟩)]⟩ := by
  have hfind : (r.candidates name).find? w.present = none := by
    rw [List.find?_eq_none]
    intro p hp
    simp [h p hp]
  have hvalue := Resolver.resolve_builtin_value w.present name r hr
  rw [hfind] at hvalue
  refine ⟨(r.resolve w.present name).trace, Resolver.quiet_ask _ _ _ _ _,
    Resolver.passive_ask _ _ _ _ _, ?_⟩
  exact Resolver.source_of_exhausted label
    (Resolver.dispatch_of_exhausted w r loader hname (Traced.ext hvalue rfl) rest)

/-- The first candidate that exists is handed to the loader with the script's arguments. -/
theorem source_of_present (hr : ∀ s ∈ r.chain, s.Builtin) (hname : name ≠ "") {p : String}
    (h : (r.candidates name).find? w.present = some p) (loader : Loader) (label : String)
    (rest : List String) :
    ∃ t : Trace, t.Quiet ∧ t.Passive ∧
      r.source w loader label (name :: rest) =
        ⟨.returned (loader.load w.launch p rest).value,
          t ++ .handed p rest :: (loader.load w.launch p rest).trace⟩ := by
  have hvalue := Resolver.resolve_builtin_value w.present name r hr
  rw [h] at hvalue
  refine ⟨(r.resolve w.present name).trace ++ [.notice (.loading p)], ?_, ?_, ?_⟩
  · exact (Resolver.quiet_ask _ _ _ _ _).append (by simp [Trace.Quiet, Event.quiet, Notice.level])
  · exact (Resolver.passive_ask _ _ _ _ _).append (by simp [Trace.Passive, Event.passive])
  · rw [Resolver.source_of_loaded label
      (Resolver.dispatch_of_found w r loader hname (Traced.ext hvalue rfl) rest)]
    simp [List.append_assoc]

/-- The options of an accepted command line that names a script: the items set them, and
the name and its arguments are what the options end with. -/
theorem options_of_accepted {words rest : List String} {o₀ : Options} (h₀ : o₀.args = [])
    (hparse : (CommandLine.parse o₀ words).value = (none, o)) (hargs : o.args = name :: rest) :
    ∃ c : CommandLine, c.Writes words ∧ c.ending.args = name :: rest ∧
      o = { CommandLine.settle c.items o₀ with args := name :: rest } := by
  have hwrites := CommandLine.writes_ofWords words
  rw [CommandLine.parse_of_writes hwrites] at hparse
  have ho : (CommandLine.ofWords words).options o₀ = o := congrArg Prod.snd hparse
  rw [CommandLine.options_eq, h₀, List.nil_append] at ho
  have hending : (CommandLine.ofWords words).ending.args = name :: rest := by
    rw [← hargs, ← ho]
  exact ⟨CommandLine.ofWords words, hwrites, hending, by rw [← ho, hending]⟩

/-- A run with a script's name works through its candidates alone. If none of them exists
it fails with the report that lists them, and has started nothing; otherwise the first that
exists is what the loader gets. -/
theorem run_candidates (w : World) (words : List String) (o : Options) (name : String)
    (rest : List String) (hparse : (CommandLine.parse (initial w) words).value = (none, o))
    (hargs : o.args = name :: rest) (hname : name ≠ "")
    (hok : ((Resolver.ofSearchPath []).configure w.lookup o).value.error? = none) :
    (∃ c : CommandLine, c.Writes words ∧ c.ending.args = name :: rest ∧
      o = { CommandLine.settle c.items (initial w) with args := name :: rest }) ∧
    ((∀ p ∈ candidates w.lookup o name, w.present p = false) →
      (run w words).status = 1 ∧ (run w words).stdout = "" ∧
      (∀ c, .started c ∉ (run w words).trace) ∧
      (o.verbose = false →
        (run w words).stderr =
          (if o.pathSearch ∧ w.lookup "PATH" = none then
            Level.warning.line o.toDisplay "`PATH` is not set, `--path-search` finds nothing"
          else "") ++
            (o.label ++ ": error: no script called '" ++ name ++ "'\n" ++
              String.join
                ((candidates w.lookup o name).map fun p => "\tno file '" ++ p ++ "'\n")))) ∧
    ∀ p, (candidates w.lookup o name).find? w.present = some p →
      let loaded := (loader o).load w.launch p rest
      (run w words).status = exitStatus loaded.value ∧
      ∃ before : Trace, before.Passive ∧
        (run w words).trace = before ++ .handed p rest :: loaded.trace := by
  obtain ⟨r, path, hconfigure, hbuiltin, hcandidates⟩ := configure_candidates w.lookup o hok
  have hload := load_of_configured hconfigure
  have hsetup : (Resolver.setupTrace w.lookup o path).Passive := Resolver.passive_setupTrace path
  rw [hargs] at hload
  refine ⟨options_of_accepted rfl hparse hargs, ?_, ?_⟩
  · intro habsent
    rw [← hcandidates] at habsent
    obtain ⟨t, hquiet, hpassive, hsource⟩ :=
      source_of_absent hbuiltin hname habsent (loader o) o.label rest
    rw [hsource] at hload
    -- All events but the report are of the set-up and the search, which start nothing.
    have hbefore : (Resolver.setupTrace w.lookup o path ++ t).Passive := hsetup.append hpassive
    rw [run_of_accepted hparse, hload, ← List.append_assoc, ← hcandidates]
    refine ⟨rfl, ?_, ?_, ?_⟩
    · rw [Outcome.stdout, Trace.stdout_append, hbefore.stdout]
      rfl
    · intro c hc
      rcases List.mem_append.mp hc with hc | hc
      · exact hbefore.not_started c hc
      · simp at hc
    · intro hverbose
      rw [Outcome.stderr, Trace.stderr_append, Trace.stderr_append,
        Resolver.stderr_setupTrace hverbose, hquiet.stderr hverbose, String.append_empty,
        Trace.stderr_cons, Trace.stderr_nil, String.append_empty, ← text_notFound]
      rfl
  · intro p hp loaded
    rw [← hcandidates] at hp
    obtain ⟨t, hquiet, hpassive, hsource⟩ :=
      source_of_present hbuiltin hname hp (loader o) o.label rest
    rw [hsource] at hload
    rw [run_of_accepted hparse, hload]
    refine ⟨rfl, Resolver.setupTrace w.lookup o path ++ t, hsetup.append hpassive, ?_⟩
    simp [loaded, List.append_assoc]

/-- A list with an empty element, a template and `PATH` together: without a script the run
reports the five candidates, and with one of them it hands that one over. -/
theorem run_candidates_of_all_kinds :
    let lookup : Environment := fun v =>
      if v = "SOURCE_PATH" then some "a/%s::b/%s" else if v = "PATH" then some "/bin:/opt" else none
    let words := ["-p", "-I", "lib/%s.sh", "--path-search", "mod", "x"]
    let absent : World := ⟨fun _ => false, lookup, fun _ => .ok ⟨.error .noEntry, none⟩, false⟩
    let present : World := ⟨(· == "/bin/mod"), lookup, fun _ => .ok ⟨.error .noEntry, none⟩, false⟩
    (run absent words).stderr =
        "source: error: no script called 'mod'\n\tno file 'a/mod'\n\tno file 'b/mod'\n" ++
          "\tno file 'lib/mod.sh'\n\tno file '/bin/mod'\n\tno file '/opt/mod'\n" ∧
      ∃ before : Trace, before.Passive ∧
        (run present words).trace = before ++ [.handed "/bin/mod" ["x"], .out "/bin/mod\n"] := by
  intro lookup words absent present
  let o : Options :=
    { templates := ["lib/%s.sh"], pathSearch := true, print := true, args := ["mod", "x"] }
  obtain ⟨_, habsent, _⟩ := run_candidates absent words o "mod" ["x"] rfl rfl (by decide) rfl
  obtain ⟨_, _, hpresent⟩ := run_candidates present words o "mod" ["x"] rfl rfl (by decide) rfl
  obtain ⟨_, _, _, hreport⟩ := habsent fun _ _ => rfl
  exact ⟨(hreport rfl).trans (by decide), (hpresent "/bin/mod" (by decide)).2⟩

end ScriptSearch.Program
