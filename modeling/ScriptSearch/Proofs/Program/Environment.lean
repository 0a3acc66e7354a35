import ScriptSearch.Proofs.Configuration.Variables
import ScriptSearch.Proofs.Program.Complaints
import ScriptSearch.Proofs.Program.Printing

/-! Runs in several environments. Of the variables a run sees `SOURCE_PATH`, `HOME` and `PATH`,
each of them only if its options ask for it, and of the launcher a run that prints sees nothing:
in environments that agree on the rest it is the same run. A variable that is not set can be
told from an empty one by the warning about `PATH`, and by the search path that an empty
`SOURCE_PATH` takes away. -/

namespace ScriptSearch

theorem Event.not_ofSetUp_of_ofLoader : ∀ {e : Event}, e.ofLoader = true → e.ofSetUp = false
  | .started _, _ | .out _, _ | .err _, _ => rfl
  | .notice n, h => by cases n <;> first | rfl | cases h

namespace CommandLine

/-- `--no-default-path` in front of a command line is an option that its options start from. -/
theorem parse_noDefaultPath (o : Options) (words : List String) :
    parse o ("--no-default-path" :: words) =
      ⟨((ofWords words).ending.status?, { (ofWords words).options o with defaultPath := false }),
        (ofWords words).ending.trace⟩ := by
  have hitem : (Item.flag .noDefaultPath).Written ["--no-default-path"] :=
    ⟨"--no-default-path", by decide, rfl⟩
  rw [← List.singleton_append, parse_append_item hitem, options_eq, options_eq]
  simp [settle, Item.apply, Flag.apply]

end CommandLine

namespace Outcome

/-- One outcome is another with a notice more, and the same otherwise. -/
def Adds (n : Notice) (plain outcome : Outcome) : Prop :=
  outcome.status = plain.status ∧ outcome.display = plain.display ∧
    ∃ before after, plain.trace = before ++ after ∧ outcome.trace = before ++ .notice n :: after

variable {n : Notice} {plain outcome : Outcome}

theorem Adds.stdout_eq (h : Adds n plain outcome) : outcome.stdout = plain.stdout := by
  obtain ⟨_, _, before, after, hplain, houtcome⟩ := h
  have hn : (Event.notice n).stdout = "" := rfl
  rw [stdout, stdout, hplain, houtcome, Trace.stdout_append, Trace.stdout_append,
    Trace.stdout_cons, hn, String.empty_append]

theorem Adds.stderr_eq (h : Adds n plain outcome) :
    ∃ before after, plain.stderr = before ++ after ∧
      outcome.stderr = before ++ n.line plain.display ++ after := by
  obtain ⟨_, hdisplay, before, after, hplain, houtcome⟩ := h
  refine ⟨before.stderr plain.display, after.stderr plain.display, ?_, ?_⟩
  · rw [stderr, hplain, Trace.stderr_append]
  · rw [stderr, houtcome, hdisplay, Trace.stderr_append, Trace.stderr_cons, String.append_assoc]
    rfl

end Outcome

namespace Program

open CommandLine (ofWords)

variable {w w' : World} {o o' : Options} {words : List String}

/-! ### Options from the command line -/

section OptionsOf

variable (w words)

theorem defaultPath_optionsOf :
    (optionsOf w words).defaultPath = true ↔ .flag .noDefaultPath ∉ (ofWords words).items := by
  simp [optionsOf, CommandLine.options_eq, CommandLine.settle, initial]

theorem pathSearch_optionsOf :
    (optionsOf w words).pathSearch = true ↔ .flag .pathSearch ∈ (ofWords words).items := by
  simp [optionsOf, CommandLine.options_eq, CommandLine.settle, initial]

theorem print_optionsOf :
    (optionsOf w words).print = true ↔ .flag .print ∈ (ofWords words).items := by
  simp [optionsOf, CommandLine.options_eq, CommandLine.settle, initial]

end OptionsOf

/-- The surroundings matter to the options by the terminal alone. -/
theorem optionsOf_congr (h : w'.terminal = w.terminal) :
    optionsOf w' words = optionsOf w words := by
  rw [optionsOf, optionsOf, initial, initial, h]

theorem status?_of_accepted (h : (CommandLine.parse (initial w) words).value.1 = none) :
    (ofWords words).ending.status? = none := by
  rwa [CommandLine.parse_of_writes (CommandLine.writes_ofWords words)] at h

theorem run_of_ending (h : (ofWords words).ending.status? = none) :
    run w words =
      { status := exitStatus (load w (optionsOf w words)).value
        display := (optionsOf w words).toDisplay
        trace := (load w (optionsOf w words)).trace } :=
  run_of_accepted (by rw [parse_optionsOf h])

/-! ### Environments that agree -/

/-- Two environments agree on the variables that some options make relevant: on `SOURCE_PATH`
unless the default path is off, on `HOME` if `SOURCE_PATH` is then not set, and on `PATH` if
its directories are searched. A `HOME` that is not set agrees with an empty one. -/
structure AgreeFor (items : List CommandLine.Item) (lookup other : Environment) : Prop where
  sourcePath : .flag .noDefaultPath ∉ items → other "SOURCE_PATH" = lookup "SOURCE_PATH"
  home : .flag .noDefaultPath ∉ items → lookup "SOURCE_PATH" = none →
    (other "HOME").getD "" = (lookup "HOME").getD ""
  path : .flag .pathSearch ∈ items → other "PATH" = lookup "PATH"

theorem setUp_congr (h : AgreeFor (ofWords words).items w.lookup w'.lookup) :
    setUp w' (optionsOf w words) = setUp w (optionsOf w words) := by
  refine Resolver.configure_congr_lookup (Resolver.basePath_congr_lookup ?_ ?_) ?_ _
  · exact fun hd => h.sourcePath ((defaultPath_optionsOf w words).mp hd)
  · exact fun hd => h.home ((defaultPath_optionsOf w words).mp hd)
  · exact fun hp => h.path ((pathSearch_optionsOf w words).mp hp)

/-- A loader that prints starts nothing, so the launcher does not matter to it. -/
theorem load_print_congr (hprint : o.print = true) (hpresent : w'.present = w.present)
    (hsetup : setUp w' o = setUp w o) : load w' o = load w o := by
  have hlocate : locate w' o = locate w o := by simp only [locate, hsetup, hpresent]
  have hloader : loader o = .print := if_pos hprint
  simp only [load_eq, hlocate, hloader, Loader.load_print]

/-- A run that prints is the same in all environments that agree. -/
theorem run_of_agreeFor (hending : (ofWords words).ending.status? = none)
    (hprint : .flag .print ∈ (ofWords words).items) (hpresent : w'.present = w.present)
    (hterminal : w'.terminal = w.terminal)
    (h : AgreeFor (ofWords words).items w.lookup w'.lookup) : run w' words = run w words := by
  rw [run_of_ending hending, run_of_ending hending, optionsOf_congr hterminal,
    load_print_congr ((print_optionsOf w words).mpr hprint) hpresent (setUp_congr h)]

/-! ### What comes behind the set-up -/

/-- Two runs with the same resolver, the same request and the same loader differ in what their
set-ups say. -/
theorem load_of_value (h : (setUp w' o').value = (setUp w o).value)
    (hpresent : w'.present = w.present) (hlaunch : w'.launch = w.launch)
    (hloader : loader o' = loader o) (hlabel : o'.label = o.label) (hargs : o'.args = o.args) :
    ∃ status later, load w o = ⟨status, (setUp w o).trace ++ later⟩ ∧
      load w' o' = ⟨status, (setUp w' o').trace ++ later⟩ := by
  refine ⟨_, _, rfl, ?_⟩
  simp only [load, Resolver.source, Resolver.dispatch, hpresent, hlaunch, hloader, hlabel, hargs]
  rw [← h]
  rfl

theorem not_ofSetUp_resolve (w : World) (o : Options) (name : String) :
    ∀ e ∈ ((setUp w o).value.resolver.resolve w.present name).trace, e.ofSetUp = false := by
  intro e he
  rcases Resolver.mem_ask _ _ _ he with ⟨s, rfl⟩ | ⟨c, rfl⟩ | ⟨s, _, found, rfl⟩ <;> rfl

theorem not_ofSetUp_loader (launch : Launcher) (path : String) (args : List String) :
    ∀ e ∈ ((loader o).load launch path args).trace, e.ofSetUp = false :=
  fun e he => Event.not_ofSetUp_of_ofLoader (ofLoader_load launch o path args e he)

/-- The notices of a set-up are given by the set-up alone. -/
theorem trace_load_later (w : World) (o : Options) :
    ∃ later, (load w o).trace = (setUp w o).trace ++ later ∧ ∀ e ∈ later, e.ofSetUp = false := by
  rcases search_cases w o with ⟨e, hc⟩ | ⟨hc, hname | ⟨hname, ⟨e, hr⟩ | ⟨path, hfinds⟩⟩⟩
  · have hlocate := locate_of_error o hc
    refine ⟨[], ?_, nofun⟩
    rw [load_of_stopped (congrArg Traced.value hlocate), hlocate, List.append_nil]
  · have hlocate := locate_of_nameMissing o hc hname
    refine ⟨[.report (.nameMissing o.label)], ?_, by simp [Event.ofSetUp]⟩
    rw [load_of_stopped (congrArg Traced.value hlocate), hlocate]
  · have hlocate := locate_of_exhausted o hc hname hr
    refine ⟨_, by rw [load_of_stopped (congrArg Traced.value hlocate), hlocate], ?_⟩
    rw [List.forall_mem_append]
    exact ⟨not_ofSetUp_resolve w o _, by simp [Event.ofSetUp]⟩
  · have hlocate := locate_of_finds o hfinds hname
    refine ⟨_, by
      rw [load_of_located (congrArg Traced.value hlocate), hlocate, List.append_assoc], ?_⟩
    simp only [List.forall_mem_append, List.forall_mem_cons]
    exact ⟨⟨not_ofSetUp_resolve w o _, rfl, nofun⟩, rfl, not_ofSetUp_loader _ _ _⟩

/-! ### The warning about `PATH` -/

/-- A set-up warns at most once, and exactly if it gets as far as a `PATH` that is not set. -/
theorem count_pathUnset_setUp (w : World) (o : Options) :
    (setUp w o).trace.count (.notice .pathUnset) =
      if o.pathSearch = true ∧ w.lookup "PATH" = none ∧ (setUp w o).value.error? = none then 1
      else 0 := by
  have hbase : (Resolver.basePath w.lookup o).trace.count (.notice .pathUnset) = 0 := by
    rw [List.count_eq_zero]
    intro hmem
    cases Resolver.eq_listUsed_of_mem_basePath hmem
  by_cases herror : (setUp w o).value.error? = none
  · obtain ⟨path, hsetup⟩ := setUp_of_ok herror
    have hpath :
        (path.map fun t => Event.notice (.searchPath t)).count (.notice .pathUnset) = 0 := by
      rw [List.count_eq_zero]
      simp
    simp only [herror, and_true]
    rw [hsetup, Resolver.setupTrace, List.count_append, List.count_append, hbase, hpath,
      Resolver.pathWarning]
    split <;> simp
  · obtain ⟨_, e, _, path, _, _, _, _, hconfigure⟩ :=
      Resolver.configure_of_malformed (mt error?_setUp_iff.mpr herror) (Resolver.ofSearchPath [])
    rw [if_neg fun h => herror h.2.2, setUp, hconfigure, List.count_append, hbase]
    simp

theorem count_pathUnset_run (hending : (ofWords words).ending.status? = none) :
    (run w words).trace.count (.notice .pathUnset) =
      if (optionsOf w words).pathSearch = true ∧ w.lookup "PATH" = none ∧
        (setUp w (optionsOf w words)).value.error? = none then 1 else 0 := by
  obtain ⟨later, htrace, hlater⟩ := trace_load_later w (optionsOf w words)
  have hnone : later.count (.notice .pathUnset) = 0 := by
    rw [List.count_eq_zero]
    intro hmem
    cases hlater _ hmem
  rw [run_of_ending hending, htrace, List.count_append, hnone, count_pathUnset_setUp]
  rfl

section PathUnset

variable (hending : (ofWords words).ending.status? = none)
  (hpresent : w'.present = w.present) (hlaunch : w'.launch = w.launch)
  (hterminal : w'.terminal = w.terminal)

include hending hpresent hlaunch hterminal

/-- If the set-ups are the same, so are the runs. -/
theorem run_of_setUp (h : setUp w' (optionsOf w words) = setUp w (optionsOf w words)) :
    run w' words = run w words := by
  obtain ⟨status, later, hload, hload'⟩ :=
    load_of_value (congrArg Traced.value h) hpresent hlaunch rfl rfl rfl
  rw [run_of_ending hending, run_of_ending hending, optionsOf_congr hterminal, hload, hload', h]

variable (hbase : Resolver.basePath w'.lookup (optionsOf w words) =
    Resolver.basePath w.lookup (optionsOf w words))
  (hunset : w.lookup "PATH" = none) (hempty : w'.lookup "PATH" = some "")

include hbase hunset hempty

/-- Where the warning is given, it is all that a `PATH` that is not set makes of an empty one. -/
theorem run_of_pathUnset (hp : (optionsOf w words).pathSearch = true)
    (h : (setUp w (optionsOf w words)).value.error? = none) :
    Outcome.Adds .pathUnset (run w' words) (run w words) := by
  obtain ⟨hvalue, before, after, htrace, htrace'⟩ :=
    Resolver.configure_of_pathUnset hbase hunset hempty hp h
  obtain ⟨status, later, hload, hload'⟩ :=
    load_of_value hvalue.symm hpresent hlaunch rfl rfl rfl
  rw [run_of_ending hending, run_of_ending hending, optionsOf_congr hterminal, hload, hload']
  refine ⟨rfl, rfl, before, after ++ later, ?_, ?_⟩
  · rw [setUp, htrace', List.append_assoc]
  · rw [setUp, htrace, List.append_assoc, List.cons_append]

omit hunset hempty in
/-- Where it is not, `PATH` does not matter. -/
theorem run_of_pathUnread (h : ¬ ((optionsOf w words).pathSearch = true ∧
      (setUp w (optionsOf w words)).value.error? = none)) : run w' words = run w words := by
  refine run_of_setUp hending hpresent hlaunch hterminal ?_
  by_cases herror : (setUp w (optionsOf w words)).value.error? = none
  · exact Resolver.configure_congr_lookup hbase (fun hp => absurd ⟨hp, herror⟩ h) _
  · exact Resolver.configure_of_error_congr hbase herror

end PathUnset

/-! ### An empty list -/

/-- An empty `SOURCE_PATH` is `--no-default-path` with a word about it. -/
theorem run_of_emptyList (hending : (ofWords words).ending.status? = none)
    (hd : .flag .noDefaultPath ∉ (ofWords words).items) :
    Outcome.Adds .listUsed (run w ("--no-default-path" :: words))
      (run (w.withVariable "SOURCE_PATH" (some "")) words) := by
  set emptied := w.withVariable "SOURCE_PATH" (some "")
  set o := optionsOf w words
  have hoptions : optionsOf emptied words = o := optionsOf_congr rfl
  have hparse : CommandLine.parse (initial w) ("--no-default-path" :: words) =
      ⟨(none, { o with defaultPath := false }), []⟩ := by
    rw [CommandLine.parse_noDefaultPath, hending, CommandLine.Ending.trace_of_status?_none hending]
    rfl
  have hoff : setUp emptied { o with defaultPath := false } =
      setUp w { o with defaultPath := false } :=
    Resolver.configure_congr_lookup (Resolver.basePath_congr_lookup (by simp) (by simp))
      (fun _ => w.lookup_withVariable_of_ne (by decide) _) _
  have hsetup : setUp emptied o =
      ⟨(setUp w { o with defaultPath := false }).value,
        .notice .listUsed :: (setUp w { o with defaultPath := false }).trace⟩ := by
    rw [← hoff]
    exact Resolver.configure_of_emptyList ((defaultPath_optionsOf w words).mpr hd)
      (w.lookup_withVariable "SOURCE_PATH" (some "")) _
  have hvalue : (setUp emptied o).value = (setUp w { o with defaultPath := false }).value := by
    rw [hsetup]
  obtain ⟨status, later, hload, hload'⟩ := load_of_value hvalue rfl rfl rfl rfl rfl
  rw [run_of_ending hending, hoptions, run_of_parse hparse, hload, hload', hsetup]
  exact ⟨rfl, rfl, [], _, rfl, rfl⟩

theorem searchPath_setUp {base more : SearchPath}
    (hbase : (Resolver.basePath w.lookup o).value = .ok base)
    (hmore : SearchPath.Reads o.templates more) :
    (setUp w o).value.resolver.searchPath = base ++ more := by
  rw [setUp,
    Resolver.configure_of_templates_ok _ hbase (SearchPath.appendTexts_of_reads hmore base)]

/-! ### Variables that are set, empty or not set -/

section Variables

variable (w)

theorem basePath_withPath (value value' : Option String) :
    Resolver.basePath (w.withVariable "PATH" value').lookup o =
      Resolver.basePath (w.withVariable "PATH" value).lookup o :=
  Resolver.basePath_congr_lookup (by simp) (by simp)

/-- The templates do not depend on `PATH`. -/
theorem error?_setUp_withPath (value : Option String) :
    (setUp (w.withVariable "PATH" value) o).value.error? = none ↔
      ∀ text ∈ Resolver.listedTexts w.lookup o ++ o.templates, Template.WellFormed text := by
  rw [error?_setUp_iff, Resolver.listedTexts, World.lookup_withVariable_of_ne _ (by decide)]
  rfl

theorem run_home_unset (hending : (ofWords words).ending.status? = none)
    (hprint : .flag .print ∈ (ofWords words).items) :
    run (w.withVariable "HOME" none) words = run (w.withVariable "HOME" (some "")) words := by
  have hagree : AgreeFor (ofWords words).items (w.withVariable "HOME" (some "")).lookup
      (w.withVariable "HOME" none).lookup := ⟨by simp, by simp, by simp⟩
  exact run_of_agreeFor hending hprint rfl rfl hagree

end Variables

/-- Runs that print see of the variables what their options make relevant. In environments that
agree on that they are the same run, whatever the launcher does. A `HOME` that is not set is the
same as an empty one. A `PATH` that is not set differs from an empty one by a warning, which is
given once if `--path-search` is given and all templates are well formed, and else not at all.
An empty `SOURCE_PATH` leaves a search path with the templates of the options alone, as
`--no-default-path` does, where one that is not set has the default search path in front. -/
theorem run_print_environment (w : World) (words : List String)
    (haccepted : (CommandLine.parse (initial w) words).value.1 = none)
    (hprint : .flag .print ∈ (ofWords words).items) :
    let items := (ofWords words).items
    let o := optionsOf w words
    let wellFormed :=
      ∀ text ∈ Resolver.listedTexts w.lookup o ++ o.templates, Template.WellFormed text
    (∀ w' : World, w'.present = w.present → w'.terminal = w.terminal →
      AgreeFor items w.lookup w'.lookup → run w' words = run w words) ∧
    run (w.withVariable "HOME" none) words = run (w.withVariable "HOME" (some "")) words ∧
    ((.flag .pathSearch ∈ items ∧ w.lookup "PATH" = none ∧ wellFormed →
        (run w words).trace.count (.notice .pathUnset) = 1) ∧
      (¬ (.flag .pathSearch ∈ items ∧ w.lookup "PATH" = none ∧ wellFormed) →
        .notice .pathUnset ∉ (run w words).trace)) ∧
    (let unset := run (w.withVariable "PATH" none) words
      let empty := run (w.withVariable "PATH" (some "")) words
      (.flag .pathSearch ∈ items ∧ wellFormed →
        Outcome.Adds .pathUnset empty unset ∧ .notice .pathUnset ∉ empty.trace ∧
        unset.status = empty.status ∧ unset.stdout = empty.stdout ∧
        ∃ before after, empty.stderr = before ++ after ∧
          unset.stderr = before ++
            Level.warning.line empty.display
              "`PATH` is not set, `--path-search` finds nothing" ++ after) ∧
      (¬ (.flag .pathSearch ∈ items ∧ wellFormed) → unset = empty)) ∧
    (.flag .noDefaultPath ∉ items →
      let unset := w.withVariable "SOURCE_PATH" none
      let empty := w.withVariable "SOURCE_PATH" (some "")
      let home := SearchPath.ofHome ((w.lookup "HOME").getD "")
      (Resolver.basePath empty.lookup o).value = .ok [] ∧
      (Resolver.basePath unset.lookup o).value = .ok home ∧ home ≠ [] ∧
      (∀ more, SearchPath.Reads o.templates more →
        (setUp empty o).value.resolver.searchPath = more ∧
        (setUp unset o).value.resolver.searchPath = home ++ more) ∧
      Outcome.Adds .listUsed (run w ("--no-default-path" :: words)) (run empty words)) := by
  intro items o wellFormed
  have hending := status?_of_accepted haccepted
  have hpathSearch : o.pathSearch = true ↔ .flag .pathSearch ∈ items := pathSearch_optionsOf w words
  have hempty : (w.withVariable "PATH" (some "")).lookup "PATH" = some "" :=
    w.lookup_withVariable "PATH" (some "")
  refine ⟨?_, run_home_unset w hending hprint, ⟨?_, ?_⟩, ⟨?_, ?_⟩, ?_⟩
  · intro w' hpresent hterminal hagree
    exact run_of_agreeFor hending hprint hpresent hterminal hagree
  · rintro ⟨hp, hunset, hw⟩
    rw [count_pathUnset_run hending, if_pos ⟨hpathSearch.mpr hp, hunset, error?_setUp_iff.mpr hw⟩]
  · intro h
    rw [← List.count_eq_zero, count_pathUnset_run hending, if_neg]
    rintro ⟨hp, hunset, hw⟩
    exact h ⟨hpathSearch.mp hp, hunset, error?_setUp_iff.mp hw⟩
  · rintro ⟨hp, hw⟩
    have hadds : Outcome.Adds .pathUnset (run (w.withVariable "PATH" (some "")) words)
        (run (w.withVariable "PATH" none) words) :=
      run_of_pathUnset hending rfl rfl rfl (basePath_withPath w none (some ""))
        (w.lookup_withVariable "PATH" none) hempty (hpathSearch.mpr hp)
        ((error?_setUp_withPath w none).mpr hw)
    refine ⟨hadds, ?_, hadds.1, hadds.stdout_eq, hadds.stderr_eq⟩
    rw [← List.count_eq_zero, count_pathUnset_run hending, if_neg]
    rintro ⟨_, hunset, _⟩
    cases hempty.symm.trans hunset
  · intro h
    symm
    refine run_of_pathUnread hending rfl rfl rfl (basePath_withPath w none (some "")) ?_
    rintro ⟨hp, hw⟩
    exact h ⟨hpathSearch.mp hp, (error?_setUp_withPath w none).mp hw⟩
  · intro hd
    have hdefault : o.defaultPath = true := (defaultPath_optionsOf w words).mpr hd
    have hempty := congrArg Traced.value
      (Resolver.basePath_of_listSet hdefault (w.lookup_withVariable "SOURCE_PATH" (some "")))
    have hunset := congrArg Traced.value
      (Resolver.basePath_of_listUnset hdefault (w.lookup_withVariable "SOURCE_PATH" none))
    rw [World.lookup_withVariable_of_ne _ (by decide)] at hunset
    refine ⟨hempty, hunset, by simp [SearchPath.ofHome, SearchPath.extensions], ?_,
      run_of_emptyList hending hd⟩
    intro more hmore
    exact ⟨searchPath_setUp hempty hmore, searchPath_setUp hunset hmore⟩

/-- Without `PATH`, `LANG` and the launcher change nothing and the warning is given once; an empty
`SOURCE_PATH` leaves the template of the command line. -/
theorem run_print_environment_unset :
    let w : World := ⟨(· == "/h/.local/share/bash/m"),
      fun v => if v = "HOME" then some "/h" else none, fun _ => .ok ⟨.error .noEntry, none⟩, false⟩
    let w' : World := ⟨(· == "/h/.local/share/bash/m"),
      fun v => if v = "HOME" then some "/h" else if v = "LANG" then some "C" else none,
      fun _ => .error .accessDenied, false⟩
    let words := ["-I", "a/%s", "--path-search", "-p", "m"]
    (CommandLine.parse (initial w) words).value.1 = none ∧
      .flag .print ∈ (ofWords words).items ∧
      run w' words = run w words ∧
      (run w words).trace.count (.notice .pathUnset) = 1 ∧
      (setUp (w.withVariable "SOURCE_PATH" (some ""))
        (optionsOf w words)).value.resolver.searchPath = [⟨"a/", ""⟩] := by
  intro w w' words
  have haccepted : (CommandLine.parse (initial w) words).value.1 = none := by rfl
  have hprint : .flag .print ∈ (ofWords words).items := by decide
  have hreads : SearchPath.Reads (optionsOf w words).templates [⟨"a/", ""⟩] := .cons rfl .nil
  obtain ⟨hagree, _, ⟨hwarned, _⟩, _, hlist⟩ := run_print_environment w words haccepted hprint
  obtain ⟨_, _, _, hpath, _⟩ := hlist (by decide)
  refine ⟨haccepted, hprint, hagree w' rfl rfl ⟨fun _ => rfl, fun _ _ => rfl, fun _ => rfl⟩,
    hwarned ⟨by decide, rfl, ?_⟩, (hpath _ hreads).1⟩
  exact SearchPath.wellFormed_of_reads hreads

end Program

end ScriptSearch
