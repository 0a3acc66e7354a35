import ScriptSearch.Proofs.Program.Stages
import ScriptSearch.Proofs.Program.Locate

/-! Printing the path of a script instead of loading the script. A run that prints searches
just as one that loads: both stop at the same place with the same output, or both find the
same path. The one then writes the path, and no interpreter and no arguments of the script
matter to it; the other hands the path to the interpreter. -/

namespace ScriptSearch

namespace CommandLine

/-- `-p` in front of a command line is an option that its options start from. -/
theorem parse_print (o : Options) (words : List String) :
    parse o ("-p" :: words) =
      ⟨((ofWords words).ending.status?, { (ofWords words).options o with print := true }),
        (ofWords words).ending.trace⟩ := by
  have hitem : (Item.flag .print).Written ["-p"] := ⟨"-p", by decide, rfl⟩
  rw [← List.singleton_append, parse_append_item hitem, options_eq, options_eq]
  simp [settle, Item.apply, Flag.apply]

theorem print_options {c : CommandLine} (h : .flag .print ∉ c.items) (o : Options) :
    (c.options o).print = o.print := by
  simp [options_eq, settle, h]

theorem args_options (c : CommandLine) (o : Options) :
    (c.options o).args = o.args ++ c.ending.args := by
  rw [options_eq]

/-- The items of a command line other than interpreters. -/
def otherItems (c : CommandLine) : List Item := c.items.filter (·.interpreter? = none)

/-- An interpreter leaves all other options alone. -/
theorem settle_filter (items : List Item) (o : Options) :
    settle (items.filter (·.interpreter? = none)) o =
      { settle items o with interpreter := o.interpreter } := by
  induction items generalizing o with
  | nil => simp [settle]
  | cons item items ih =>
    cases item with
    | flag f =>
      rw [List.filter_cons_of_pos (by rfl), settle_cons, settle_cons, ih]
      cases f <;> rfl
    | template text =>
      rw [List.filter_cons_of_pos (by rfl), settle_cons, settle_cons, ih]
      rfl
    | interpreter program =>
      rw [List.filter_cons_of_neg (by simp [Item.interpreter?]), settle_cons, ih]
      rfl

/-- The options that two command lines leave if they differ only in interpreters and in the
arguments behind the script's name. -/
theorem options_of_otherItems {c c' : CommandLine} (hitems : c'.otherItems = c.otherItems)
    (hname : c'.ending.args.head? = c.ending.args.head?) {o : Options} (ho : o.args = []) :
    Program.SearchesAlike (c.options o) (c'.options o) ∧
      (c'.options o).label = (c.options o).label ∧
      (c'.options o).toDisplay = (c.options o).toDisplay := by
  have hsettle : { settle c'.items o with interpreter := o.interpreter } =
      { settle c.items o with interpreter := o.interpreter } := by
    rw [← settle_filter, ← settle_filter]
    exact congrArg (settle · o) hitems
  have hdefaultPath := congrArg Options.defaultPath hsettle
  have htemplates := congrArg Options.templates hsettle
  have hpathSearch := congrArg Options.pathSearch hsettle
  have hlabel := congrArg Options.label hsettle
  have hdisplay := congrArg Options.toDisplay hsettle
  rw [options_eq, options_eq]
  exact ⟨⟨hdefaultPath, htemplates, hpathSearch, by simpa [ho] using hname⟩, hlabel, hdisplay⟩

theorem Ending.handovers_trace (e : Ending) : e.trace.handovers = [] := by
  cases e <;> rfl

/-- An ending with a script's name is no reason to stop. -/
theorem Ending.status?_of_args {e : Ending} {name : String} (h : e.args.head? = some name) :
    e.status? = none := by
  cases e with
  | noMore | separator _ | script _ _ => rfl
  | help | version | refused _ => simp [Ending.args] at h

end CommandLine

namespace Program

open CommandLine (ofWords)

variable {w : World} {words : List String}

/-- The options of a run with the words. -/
def optionsOf (w : World) (words : List String) : Options := (ofWords words).options (initial w)

theorem locate_print (w : World) (o : Options) : locate w { o with print := true } = locate w o :=
  locate_congr ⟨rfl, rfl, rfl, rfl⟩ rfl w

theorem parse_optionsOf (h : (ofWords words).ending.status? = none) :
    CommandLine.parse (initial w) words = ⟨(none, optionsOf w words), []⟩ := by
  rw [CommandLine.parse_of_writes (CommandLine.writes_ofWords words), h,
    CommandLine.Ending.trace_of_status?_none h]
  rfl

theorem parse_print_optionsOf (h : (ofWords words).ending.status? = none) :
    CommandLine.parse (initial w) ("-p" :: words) =
      ⟨(none, { optionsOf w words with print := true }), []⟩ := by
  rw [CommandLine.parse_print, h, CommandLine.Ending.trace_of_status?_none h]
  rfl

/-- A run that prints and finds its script. -/
theorem run_print_of_located (hending : (ofWords words).ending.status? = none) {path : String}
    (h : (locate w (optionsOf w words)).value = .ok path) :
    run w ("-p" :: words) =
      { status := 0, display := (optionsOf w words).toDisplay
        trace := (locate w (optionsOf w words)).trace ++
          [.handed path (optionsOf w words).args.tail, .out (path ++ "\n")] } := by
  rw [← locate_print] at h
  rw [run_of_parse (parse_print_optionsOf hending), load_of_located h, locate_print]
  rfl

/-- A run that loads and finds its script. -/
theorem run_load_of_located (hprint : .flag .print ∉ (ofWords words).items)
    (hending : (ofWords words).ending.status? = none) {path : String}
    (h : (locate w (optionsOf w words)).value = .ok path) :
    let c := Loader.command (optionsOf w words).interpreter path (optionsOf w words).args.tail
    run w words =
      { status := exitStatus (c.status w.launch), display := (optionsOf w words).toDisplay
        trace := (locate w (optionsOf w words)).trace ++
          .handed path (optionsOf w words).args.tail :: (c.run w.launch).trace } := by
  have hloader : loader (optionsOf w words) = .interpret (optionsOf w words).interpreter := by
    rw [loader, optionsOf, CommandLine.print_options hprint]
    rfl
  rw [run_of_parse (parse_optionsOf hending), load_of_located h, hloader, Loader.load_interpret]
  rfl

/-- Such a run does the same with other interpreters and with other arguments behind the name;
only what it hands to its loader shows them. -/
theorem run_print_of_otherItems {words' : List String} {name path : String}
    (hitems : (ofWords words').otherItems = (ofWords words).otherItems)
    (hname' : (ofWords words').ending.args.head? = some name)
    (hname : (ofWords words).ending.args.head? = some name)
    (h : (locate w (optionsOf w words)).value = .ok path) :
    run w ("-p" :: words') =
      { status := 0, display := (optionsOf w words).toDisplay
        trace := (locate w (optionsOf w words)).trace ++
          [.handed path (optionsOf w words').args.tail, .out (path ++ "\n")] } := by
  obtain ⟨halike, hlabel, hdisplay⟩ :=
    CommandLine.options_of_otherItems hitems (hname'.trans hname.symm) (o := initial w) rfl
  have hlocate : locate w (optionsOf w words') = locate w (optionsOf w words) :=
    locate_congr halike hlabel w
  have hending := CommandLine.Ending.status?_of_args hname'
  rw [run_print_of_located hending (by rw [hlocate, h]), hlocate]
  simp only [optionsOf, hdisplay]

/-- A run that stops at its command line or in its search does so whether it prints or not. -/
theorem run_print_of_stopped
    (h : (ofWords words).ending.status? = none →
      ∃ status, (locate w (optionsOf w words)).value = .error status) :
    run w ("-p" :: words) = run w words ∧ (run w words).trace.handovers = [] := by
  cases hending : (ofWords words).ending.status? with
  | some status =>
    have hparse := CommandLine.parse_of_writes (CommandLine.writes_ofWords words) (initial w)
    have hprints := CommandLine.parse_print (initial w) words
    rw [hending] at hparse hprints
    rw [run_of_parse hparse, run_of_parse hprints]
    exact ⟨rfl, (ofWords words).ending.handovers_trace⟩
  | none =>
    obtain ⟨status, hstatus⟩ := h hending
    have hstatus' := hstatus
    rw [← locate_print] at hstatus'
    rw [run_of_parse (parse_optionsOf hending), run_of_parse (parse_print_optionsOf hending),
      load_of_stopped hstatus, load_of_stopped hstatus', locate_print]
    exact ⟨rfl, (calls_locate w _).2.2⟩

/-- Runs that print and runs that load agree. If no loader is called in one of them, they are
the same run. Otherwise both hand the same path to their loader: the one writes it and ends
with success, whatever interpreter and arguments there are, and starts nothing; the other
runs the interpreter with `--`, the path and the arguments. -/
theorem run_print_agrees (w : World) (words : List String)
    (hprint : .flag .print ∉ (ofWords words).items) :
    let loads := run w words
    let prints := run w ("-p" :: words)
    (loads.trace.handovers = [] ∨ prints.trace.handovers = [] →
      loads.trace.handovers = [] ∧ prints.trace.handovers = [] ∧
      prints.status = loads.status ∧ prints.stdout = loads.stdout ∧
      prints.stderr = loads.stderr ∧ prints.trace = loads.trace) ∧
    (¬ (loads.trace.handovers = [] ∨ prints.trace.handovers = []) →
      ∃ o name rest path,
        (CommandLine.parse (initial w) words).value = (none, o) ∧ o.args = name :: rest ∧
        Finds w o name path ∧
        loads.trace.handovers = [(path, rest)] ∧ prints.trace.handovers = [(path, rest)] ∧
        loads.trace.commands = [⟨o.interpreter, "--" :: path :: rest⟩] ∧
        prints.stdout = path ++ "\n" ∧ prints.status = 0 ∧ prints.trace.commands = [] ∧
        ∀ words' : List String, (ofWords words').otherItems = (ofWords words).otherItems →
          (ofWords words').ending.args.head? = some name →
          let prints' := run w ("-p" :: words')
          prints'.status = 0 ∧ prints'.stdout = prints.stdout ∧
          prints'.stderr = prints.stderr ∧ prints'.trace.commands = []) := by
  intro loads prints
  by_cases hlocated : (ofWords words).ending.status? = none ∧
      ∃ path, (locate w (optionsOf w words)).value = .ok path
  · obtain ⟨hending, path, hpath⟩ := hlocated
    have hloads : loads = _ := run_load_of_located hprint hending hpath
    have hprints : prints = _ := run_print_of_located hending hpath
    obtain ⟨name, rest, hargs, _, hfinds⟩ := finds_of_locate hpath
    have htail : (optionsOf w words).args.tail = rest := by rw [hargs, List.tail_cons]
    rw [htail] at hloads hprints
    obtain ⟨hstarted, hhanded⟩ := calls_interpreted w (optionsOf w words) path rest
      (Loader.command (optionsOf w words).interpreter path rest)
    obtain ⟨hstdout, hnone, hprinted⟩ := calls_printed w (optionsOf w words) path rest
    rw [hloads, hprints]
    refine ⟨fun h => by simp [hhanded, hprinted] at h, fun _ => ?_⟩
    refine ⟨optionsOf w words, name, rest, path, ?_, hargs, hfinds, hhanded, hprinted, hstarted,
      hstdout, rfl, hnone, ?_⟩
    · rw [parse_optionsOf hending]
    · intro words' hitems hname' prints'
      have hname : (ofWords words).ending.args.head? = some name := by
        have hoptions := CommandLine.args_options (ofWords words) (initial w)
        rw [← List.nil_append (ofWords words).ending.args]
        exact congrArg List.head? (hoptions.symm.trans hargs)
      have hprints' : prints' = _ := run_print_of_otherItems hitems hname' hname hpath
      obtain ⟨hstdout', hnone', _⟩ :=
        calls_printed w (optionsOf w words) path (optionsOf w words').args.tail
      rw [hprints']
      refine ⟨rfl, hstdout'.trans hstdout.symm, ?_, hnone'⟩
      -- The traces differ in what the loader gets, and that writes nothing.
      simp only [Outcome.stderr, Trace.stderr_append]
      rfl
  · have hstopped : (ofWords words).ending.status? = none →
        ∃ status, (locate w (optionsOf w words)).value = .error status := by
      intro hending
      cases hvalue : (locate w (optionsOf w words)).value with
      | error status => exact ⟨status, rfl⟩
      | ok path => exact absurd ⟨hending, path, hvalue⟩ hlocated
    obtain ⟨hsame, hnone⟩ := run_print_of_stopped hstopped
    have heq : prints = loads := hsame
    refine ⟨fun _ => ⟨hnone, by rw [heq, hnone], ?_⟩, fun h => absurd (.inl hnone) h⟩
    rw [heq]
    exact ⟨rfl, rfl, rfl, rfl⟩

/-- A script in the second directory of `PATH`: loaded with `zsh` and printed. Without it both
runs report the same candidates. -/
theorem run_print_agrees_on_path :
    let lookup : Environment := fun v => if v = "PATH" then some "/bin::/opt/" else none
    let w : World := ⟨(· == "/opt/m"), lookup, fun _ => .ok ⟨.error .noEntry, none⟩, false⟩
    let absent : World := ⟨fun _ => false, lookup, fun _ => .ok ⟨.error .noEntry, none⟩, false⟩
    let words := ["-x", "zsh", "--no-default-path", "--path-search", "m", "-p"]
    (.flag .print ∉ (ofWords words).items) ∧
      (run w words).trace.commands = [⟨"zsh", ["--", "/opt/m", "-p"]⟩] ∧
      (run w ("-p" :: words)).stdout = "/opt/m\n" ∧
      (run absent ("-p" :: words)).stderr = (run absent words).stderr := by
  intro lookup w absent words
  have hprint : .flag .print ∉ (ofWords words).items := by decide
  obtain ⟨_, hfound⟩ := run_print_agrees w words hprint
  obtain ⟨hstopped, _⟩ := run_print_agrees absent words hprint
  obtain ⟨o, name, rest, path, hparse, _, _, hhanded, _, hcommands, hstdout, _⟩ :=
    hfound (by decide)
  obtain ⟨_, _, _, _, hstderr, _⟩ := hstopped (by decide)
  have ho : o = (CommandLine.parse (initial w) words).value.2 := by rw [hparse]
  have hpath : [(path, rest)] = [("/opt/m", ["-p"])] := hhanded.symm.trans (by decide)
  obtain ⟨rfl, rfl⟩ := Prod.mk.inj (List.cons.inj hpath).1
  exact ⟨hprint, hcommands.trans (by rw [ho]; rfl), hstdout, hstderr⟩

end Program

end ScriptSearch
