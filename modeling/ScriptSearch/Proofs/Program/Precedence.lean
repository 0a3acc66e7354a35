import ScriptSearch.Proofs.Program.Complaints

/-! The order of the stages of a run. The command line comes first, then the templates, then
the name, then the search and at last the loading. A run stops at the first stage that has a
reason to; it complains about nothing else, and what a later stage would have looked at makes
no difference to it. -/

namespace ScriptSearch

/-! ### Runs that do not get far -/

/-- Events of a search: a searcher is asked, a path is checked, a name is found. -/
def Event.searching : Event → Bool
  | asked _ _ | notice (.checked _ _) | notice (.resolved _ _ _) => true
  | _ => false

theorem Event.searching_of_ofSetUp : ∀ {e : Event}, e.ofSetUp = true → e.searching = false
  | .notice .listUsed, _ | .notice .pathUnset, _ | .notice (.searchPath _), _
  | .notice (.badTemplate _), _ => rfl

namespace Outcome

/-- Nothing is searched for. -/
def Unsearched (outcome : Outcome) : Prop := ∀ e ∈ outcome.trace, e.searching = false

/-- No script is handed to a loader, and no process is started. -/
def Idle (outcome : Outcome) : Prop :=
  outcome.trace.handovers = [] ∧ outcome.trace.commands = []

end Outcome

namespace CommandLine

/-- What is said of a command line is said before anything is searched for or loaded. -/
theorem Ending.calls_trace (e : Ending) :
    (∀ event ∈ e.trace, event.searching = false) ∧ e.trace.handovers = [] ∧
      e.trace.commands = [] ∧ e.trace.stdout ∈ ["", usageText, versionText] := by
  cases e with
  | help =>
    refine ⟨by simp [trace, Event.searching], rfl, rfl, ?_⟩
    simp [trace, Event.stdout]
  | version =>
    refine ⟨by simp [trace, Event.searching], rfl, rfl, ?_⟩
    simp [trace, Event.stdout]
  | noMore | separator _ | script _ _ | refused _ =>
    exact ⟨by simp [trace, Event.searching], rfl, rfl, by simp [trace, Event.stdout]⟩

theorem Ending.status?_cases {e : Ending} {status : Nat} (h : e.status? = some status) :
    status = 0 ∨ status = 2 := by
  cases e with
  | help | version => exact .inl (Option.some.inj h).symm
  | refused _ => exact .inr (Option.some.inj h).symm
  | noMore | separator _ | script _ _ => cases h

end CommandLine

namespace Program

variable {w w' : World} {o : Options} {words : List String}

/-- Where the command line ends a run, of the surroundings only the terminal matters. -/
theorem run_of_status {status : Nat}
    (h : (CommandLine.parse (initial w) words).value.1 = some status)
    (hterminal : w'.terminal = w.terminal) : run w' words = run w words := by
  have hinitial : initial w' = initial w := by rw [initial, initial, hterminal]
  simp only [run, hinitial, h]

/-- A command line that is refused or asks for information ends the run. -/
theorem run_of_ended {status : Nat}
    (h : (CommandLine.parse (initial w) words).value.1 = some status) :
    (status = 0 ∨ status = 2) ∧ (run w words).status = status ∧
      (run w words).trace = (CommandLine.parse (initial w) words).trace ∧
      (run w words).stdout ∈ ["", CommandLine.usageText, CommandLine.versionText] ∧
      (run w words).Unsearched ∧ (run w words).Idle ∧
      ∀ w' : World, w'.terminal = w.terminal → run w' words = run w words := by
  have hparse := CommandLine.parse_of_writes (CommandLine.writes_ofWords words) (initial w)
  have hending : (CommandLine.ofWords words).ending.status? = some status := by
    rw [← h, hparse]
  obtain ⟨hunsearched, hhandovers, hcommands, hstdout⟩ :=
    (CommandLine.ofWords words).ending.calls_trace
  have hrun := run_of_parse (hparse.trans (by rw [hending]))
  have htrace : (run w words).trace = (CommandLine.ofWords words).ending.trace := by rw [hrun]
  refine ⟨CommandLine.Ending.status?_cases hending, by rw [hrun], by rw [htrace, hparse], ?_, ?_,
    ?_, fun w' hterminal => run_of_status h hterminal⟩
  · rw [Outcome.stdout, htrace]
    exact hstdout
  · rw [Outcome.Unsearched, htrace]
    exact hunsearched
  · rw [Outcome.Idle, htrace]
    exact ⟨hhandovers, hcommands⟩

theorem unsearched_setUp (w : World) (o : Options) :
    ∀ e ∈ (setUp w o).trace, e.searching = false :=
  fun e he => Event.searching_of_ofSetUp (Resolver.ofSetUp_configure _ e he)

/-- Up to the script only the variables and the files matter. -/
theorem locate_world (hpresent : w'.present = w.present) (hlookup : w'.lookup = w.lookup)
    (o : Options) : locate w' o = locate w o := by
  simp only [locate, setUp, hpresent, hlookup]

section Stopped

variable (hparse : (CommandLine.parse (initial w) words).value = (none, o))

include hparse

/-- A run that stops in its search is idle, and depends on what its search depends on. -/
theorem run_stopped {status : Nat} {t : Trace} (hstatus : status < 256)
    (h : locate w o = ⟨.error status, t⟩) :
    (run w words).status = status ∧ (run w words).stdout = "" ∧ (run w words).trace = t ∧
      (run w words).Idle ∧ (run w words).complaints = t.messages false ∧
      ∀ w' : World, w'.terminal = w.terminal → locate w' o = locate w o →
        run w' words = run w words := by
  have hrun := run_of_stopped hparse hstatus (by rw [h])
  obtain ⟨hstdout, hcommands, hhandovers⟩ := calls_locate w o
  have hcongr (w' : World) (hterminal : w'.terminal = w.terminal)
      (hlocate : locate w' o = locate w o) : run w' words = run w words := by
    have hinitial : initial w' = initial w := by rw [initial, initial, hterminal]
    have hparse' : (CommandLine.parse (initial w') words).value = (none, o) := by
      rw [hinitial, hparse]
    rw [run_of_stopped hparse' hstatus (by rw [hlocate, h]), hrun, hlocate]
  refine ⟨?_, ?_, ?_, ?_, ?_, hcongr⟩
  · rw [hrun]
  · rw [hrun]
    exact hstdout
  · rw [hrun, h]
  · rw [hrun]
    exact ⟨hhandovers, hcommands⟩
  · rw [Outcome.complaints_eq, hrun, h]

/-- A malformed template ends the run. -/
theorem run_of_malformed {e : TemplateError} (h : (setUp w o).value.error? = some e) :
    (run w words).status = 2 ∧ (run w words).stdout = "" ∧ (run w words).Unsearched ∧
      (run w words).Idle ∧ (run w words).complaints = (setUp w o).trace.messages false ∧
      ∀ w' : World, w'.lookup = w.lookup → w'.terminal = w.terminal →
        run w' words = run w words := by
  have hlocate := locate_of_error o h
  obtain ⟨hstatus, hstdout, htrace, hidle, hcomplaints, hcongr⟩ :=
    run_stopped hparse (by decide : usageStatus < 256) hlocate
  refine ⟨hstatus, hstdout, ?_, hidle, hcomplaints, fun w' hlookup hterminal => ?_⟩
  · intro event hevent
    rw [htrace] at hevent
    exact unsearched_setUp w o event hevent
  · have hsetup : setUp w' o = setUp w o := by rw [setUp, setUp, hlookup]
    refine hcongr w' hterminal ?_
    rw [hlocate, locate_of_error o (by rw [hsetup, h]), hsetup]

/-- So does a name that is missing, if the templates are well formed. -/
theorem run_of_nameMissing (h : (setUp w o).value.error? = none) (hname : scriptName o = "") :
    (run w words).status = 2 ∧ (run w words).stdout = "" ∧ (run w words).Unsearched ∧
      (run w words).Idle ∧
      (run w words).complaints = pathComplaint w o ++ [.report (.nameMissing o.label)] ∧
      ∀ w' : World, w'.lookup = w.lookup → w'.terminal = w.terminal →
        run w' words = run w words := by
  have hlocate := locate_of_nameMissing o h hname
  obtain ⟨hstatus, hstdout, htrace, hidle, hcomplaints, hcongr⟩ :=
    run_stopped hparse (by decide : usageStatus < 256) hlocate
  refine ⟨hstatus, hstdout, ?_, hidle, ?_, fun w' hlookup hterminal => ?_⟩
  · intro event hevent
    rw [htrace] at hevent
    rcases List.mem_append.mp hevent with hevent | hevent
    · exact unsearched_setUp w o event hevent
    · rw [List.mem_singleton.mp hevent]
      rfl
  · rw [hcomplaints, Trace.messages_append, messages_setUp h]
    rfl
  · have hsetup : setUp w' o = setUp w o := by rw [setUp, setUp, hlookup]
    refine hcongr w' hterminal ?_
    rw [hlocate, locate_of_nameMissing o (by rw [hsetup, h]) hname, hsetup]

/-- So does a search that finds nothing, with the report of all that was tried. -/
theorem run_of_absent (h : (setUp w o).value.error? = none) (hname : scriptName o ≠ "")
    (habsent : (candidates w.lookup o (scriptName o)).find? w.present = none) :
    (run w words).status = 1 ∧ (run w words).stdout = "" ∧ (run w words).Idle ∧
      (run w words).complaints = pathComplaint w o ++
        [.report (.notFound o.label
          ⟨scriptName o, (setUp w o).value.resolver.attempts (scriptName o)⟩)] ∧
      ∀ w' : World, w'.present = w.present → w'.lookup = w.lookup →
        w'.terminal = w.terminal → run w' words = run w words := by
  have hresolve := (resolve_setUp h (scriptName o)).1
  simp only [habsent] at hresolve
  obtain ⟨hstatus, hstdout, _, hidle, hcomplaints, hcongr⟩ :=
    run_stopped hparse (by decide : notFoundStatus < 256)
      (locate_of_exhausted o h hname hresolve)
  refine ⟨hstatus, hstdout, hidle, ?_,
    fun w' hpresent hlookup hterminal => hcongr w' hterminal (locate_world hpresent hlookup o)⟩
  rw [hcomplaints, Trace.messages_append, Trace.messages_append, messages_setUp h,
    messages_resolve]
  rfl

/-- A candidate that exists is loaded. -/
theorem run_of_present (h : (setUp w o).value.error? = none) (hname : scriptName o ≠ "")
    {path : String} (hpath : (candidates w.lookup o (scriptName o)).find? w.present = some path) :
    let loaded := (loader o).load w.launch path o.args.tail
    ((run w words).status : Int) = loaded.value ∧
      ∃ before : Trace, before.Passive ∧ before.messages false = pathComplaint w o ∧
        (run w words).trace = before ++ .handed path o.args.tail :: loaded.trace := by
  intro loaded
  have hfinds : Finds w o (scriptName o) path := by
    obtain ⟨hresolve, _⟩ := resolve_setUp h (scriptName o)
    rw [hpath] at hresolve
    exact ⟨h, hresolve⟩
  have hlocate := locate_of_finds o hfinds hname
  rw [run_of_located hparse (by rw [hlocate]), hlocate]
  refine ⟨exitStatus_load w o path o.args.tail, _, ?_, ?_, rfl⟩
  · have hloading : Trace.Passive [.notice (.loading path)] := by
      simp [Trace.Passive, Event.passive]
    exact (Resolver.passive_configure _).append
      ((passive_resolve w o (scriptName o)).append hloading)
  · rw [Trace.messages_append, Trace.messages_append, messages_setUp h, messages_resolve]
    exact List.append_nil _

end Stopped

/-- What the set-up does comes before all that the later stages do. -/
theorem trace_run_setUp (hparse : (CommandLine.parse (initial w) words).value = (none, o)) :
    ∃ later, (run w words).trace = (setUp w o).trace ++ later := by
  rw [run_of_accepted hparse]
  exact ⟨_, rfl⟩

/-! ### All stages -/

/-- A run stops at the first of its stages that applies. A command line that is refused or
only asks for information decides the status whatever the variables and the files are. A
malformed template ends the run with one complaint, about the first of them. A name that is
missing or empty ends it with the usage line. If no candidate exists, the report of all
candidates ends it. Only a candidate that exists is loaded, and the status is the loader's.
Nothing is searched for before the name is known, nothing is started or printed before a
candidate is found, and a run that stops is the same in all surroundings that agree on what
its stages have looked at. -/
theorem run_stages (w : World) (words : List String) :
    let outcome := run w words
    let parsed := CommandLine.parse (initial w) words
    let o := parsed.value.2
    let texts := Resolver.listedTexts w.lookup o ++ o.templates
    (∀ status, parsed.value.1 = some status →
      (status = 0 ∨ status = 2) ∧ outcome.status = status ∧ outcome.trace = parsed.trace ∧
      outcome.stdout ∈ ["", CommandLine.usageText, CommandLine.versionText] ∧
      outcome.Unsearched ∧ outcome.Idle ∧
      ∀ w' : World, w'.terminal = w.terminal → run w' words = outcome) ∧
    (parsed.value.1 = none →
      (∃ later, outcome.trace = (setUp w o).trace ++ later ∧
        ∀ e ∈ (setUp w o).trace, e.searching = false) ∧
      ((¬ ∀ text ∈ texts, Template.WellFormed text) →
        (∃ front e back, texts = front ++ e.text :: back ∧
          (∀ text ∈ front, Template.WellFormed text) ∧ ¬ Template.WellFormed e.text ∧
          Template.parse e.text = .error e ∧
          outcome.complaints = [.noted .error e.message]) ∧
        outcome.status = 2 ∧ outcome.stdout = "" ∧ outcome.Unsearched ∧ outcome.Idle ∧
        ∀ w' : World, w'.lookup = w.lookup → w'.terminal = w.terminal →
          run w' words = outcome) ∧
      ((∀ text ∈ texts, Template.WellFormed text) →
        (o.args = [] ∨ o.args.head? = some "" →
          outcome.complaints = pathComplaint w o ++ [.report (.nameMissing o.label)] ∧
          outcome.status = 2 ∧ outcome.stdout = "" ∧ outcome.Unsearched ∧ outcome.Idle ∧
          ∀ w' : World, w'.lookup = w.lookup → w'.terminal = w.terminal →
            run w' words = outcome) ∧
        ∀ name rest, o.args = name :: rest → name ≠ "" →
          ((∀ path ∈ candidates w.lookup o name, w.present path = false) →
            (∃ attempts : List Attempt,
              attempts.map Attempt.path = candidates w.lookup o name ∧
              outcome.complaints =
                pathComplaint w o ++ [.report (.notFound o.label ⟨name, attempts⟩)]) ∧
            outcome.status = 1 ∧ outcome.stdout = "" ∧ outcome.Idle ∧
            ∀ w' : World, w'.present = w.present → w'.lookup = w.lookup →
              w'.terminal = w.terminal → run w' words = outcome) ∧
          ∀ path, (candidates w.lookup o name).find? w.present = some path →
            let loaded := (loader o).load w.launch path rest
            (outcome.status : Int) = loaded.value ∧
            ∃ before : Trace, before.Passive ∧ before.messages false = pathComplaint w o ∧
              outcome.trace = before ++ .handed path rest :: loaded.trace)) := by
  intro outcome parsed o texts
  constructor
  · intro status hstatus
    exact run_of_ended hstatus
  · intro hnone
    have hparse : parsed.value = (none, o) := Prod.ext hnone rfl
    obtain ⟨later, hlater⟩ := trace_run_setUp hparse
    refine ⟨⟨later, hlater, unsearched_setUp w o⟩, ?_, ?_⟩
    · intro hmalformed
      obtain ⟨front, e, back, htexts, hfront, hbad, hread, herror, hcomplaint⟩ :=
        setUp_of_malformed hmalformed
      obtain ⟨hstatus, hstdout, hunsearched, hidle, hcomplaints, hcongr⟩ :=
        run_of_malformed hparse herror
      exact ⟨⟨front, e, back, htexts, hfront, hbad, hread, hcomplaints.trans hcomplaint⟩,
        hstatus, hstdout, hunsearched, hidle, hcongr⟩
    · intro hwellFormed
      have hsetup : (setUp w o).value.error? = none := setUp_of_wellFormed hwellFormed
      constructor
      · intro hargs
        have hname : scriptName o = "" := by
          rcases hargs with hargs | hargs <;> simp [scriptName, hargs]
        obtain ⟨hstatus, hstdout, hunsearched, hidle, hcomplaints, hcongr⟩ :=
          run_of_nameMissing hparse hsetup hname
        exact ⟨hcomplaints, hstatus, hstdout, hunsearched, hidle, hcongr⟩
      · intro name rest hargs hname
        have hscript : scriptName o = name := by simp [scriptName, hargs]
        have htail : o.args.tail = rest := by rw [hargs, List.tail_cons]
        have hne : scriptName o ≠ "" := by rwa [hscript]
        constructor
        · intro habsent
          have hfind : (candidates w.lookup o (scriptName o)).find? w.present = none := by
            rw [hscript, List.find?_eq_none]
            intro path hpath
            simp [habsent path hpath]
          obtain ⟨hstatus, hstdout, hidle, hreport, hcongr⟩ :=
            run_of_absent hparse hsetup hne hfind
          rw [hscript] at hreport
          exact ⟨⟨_, (resolve_setUp hsetup name).2, hreport⟩, hstatus, hstdout, hidle, hcongr⟩
        · intro path hpath loaded
          rw [← hscript] at hpath
          have hpresent := run_of_present hparse hsetup hne hpath
          rw [htail] at hpresent
          exact hpresent

/-- A malformed template does not keep `--help` from its success. By itself it is reported
although the name is missing too, and only a well-formed one lets the run come to the name. -/
theorem run_stages_hidden_errors :
    let w : World := ⟨fun _ => true, fun v => if v = "SOURCE_PATH" then some "a/%s:b" else none,
      fun _ => .ok ⟨.error .noEntry, none⟩, false⟩
    let nameless := ["--no-default-path", "--path-search", "-d", "-I", "%s", ""]
    (run w ["-I", "c", "--help"]).status = 0 ∧
      (run w ["-I", "c"]).status = 2 ∧
      (run w ["-I", "c"]).stderr = "error: search path `b` has no `%s` slot\n" ∧
      (run w nameless).status = 2 ∧
      (run w nameless).stderr = "warning: `PATH` is not set, `--path-search` finds nothing\n" ++
        ".: error: script name is required\n" := by
  intro w nameless
  obtain ⟨hhelp, _⟩ := run_stages w ["-I", "c", "--help"]
  obtain ⟨_, hlisted⟩ := run_stages w ["-I", "c"]
  obtain ⟨_, hnameless⟩ := run_stages w nameless
  have hbad : ¬ Template.WellFormed "b" :=
    (Template.not_wellFormed_of_parse (e := .noSlot "b") rfl).1
  have hgood : Template.WellFormed "%s" :=
    (Template.wellFormed_of_parse (t := ⟨"", ""⟩) rfl).1
  obtain ⟨_, hstatus, _⟩ := (hlisted rfl).2.1 fun h => hbad (h "b" (by decide))
  have htexts : ∀ text ∈ Resolver.listedTexts w.lookup { defaultPath := false } ++ ["%s"],
      Template.WellFormed text := by
    intro text htext
    obtain rfl : text = "%s" := List.mem_singleton.mp htext
    exact hgood
  obtain ⟨hcomplaints, hstatus', _⟩ := ((hnameless rfl).2.2 htexts).1 (.inr rfl)
  refine ⟨(hhelp 0 rfl).2.1, hstatus, by decide, hstatus', ?_⟩
  rw [Outcome.stderr_of_not_verbose (by decide), hcomplaints]
  decide

end Program

end ScriptSearch
