import Mathlib.Data.List.Forall2
import ScriptSearch.Proofs.Program.Forwarding
import ScriptSearch.Proofs.Program.Precedence

/-! One template more. A `-I` behind all others puts a template at the end of the search path,
so its candidate comes behind all that the templates searcher tried before, and in front of
the directories of `PATH`. What the templates searcher has found it still finds; what only
`PATH` has found can be shadowed; and a failure has one candidate more, between those of the
two searchers. -/

namespace ScriptSearch

/-- The options with one template more, behind all others. -/
def Options.withTemplate (o : Options) (text : String) : Options :=
  { o with templates := o.templates ++ [text] }

namespace CommandLine

theorem ItemsWritten.append {items items' : List Item} {front front' : List String}
    (h : ItemsWritten items front) (h' : ItemsWritten items' front') :
    ItemsWritten (items ++ items') (front ++ front') := by
  induction h with
  | nil => exact h'
  | cons head _ ih =>
    rw [List.cons_append, List.append_assoc]
    exact .cons head ih

/-- A template behind other items is the last of the templates. -/
theorem settle_append_template (items : List Item) (text : String) (o : Options) :
    settle (items ++ [.template text]) o = (settle items o).withTemplate text := by
  simp [Options.withTemplate, settle, Item.colour?, Item.interpreter?, Item.template?,
    List.filterMap_append]

end CommandLine

namespace Resolver

variable {lookup : Environment} {o : Options} {text : String} {t : Template}

/-- The template comes last in the search path, and nothing else is different. -/
theorem configure_append_template (ht : Template.parse text = .ok t) {r : Resolver}
    (h : (r.configure lookup o).value.error? = none) :
    ∃ path,
      r.configure lookup o =
        ⟨{ resolver := ⟨path, r.chain ++ addedSearchers lookup o⟩ },
          setupTrace lookup o path⟩ ∧
      r.configure lookup (o.withTemplate text) =
        ⟨{ resolver := ⟨path ++ [t], r.chain ++ addedSearchers lookup o⟩ },
          setupTrace lookup o (path ++ [t])⟩ := by
  obtain ⟨base, more, hbase, hmore, hconfigure⟩ := configure_of_ok h
  have hreads : SearchPath.Reads (o.templates ++ [text]) (more ++ [t]) :=
    List.rel_append hmore (.cons ht .nil)
  refine ⟨base ++ more, hconfigure, ?_⟩
  rw [List.append_assoc]
  exact configure_of_templates_ok r hbase (SearchPath.appendTexts_of_reads hreads base)

/-- A chain of built-in searchers notes the first attempt that does not fail, and no other. -/
theorem resolved_mem_resolve_iff {present : String → Bool} {r : Resolver}
    (hr : ∀ s ∈ r.chain, s.Builtin) {name label found : String} :
    .notice (.resolved label name found) ∈ (r.resolve present name).trace ↔
      (r.attempts name).find? (fun a => present a.path) = some ⟨label, found⟩ := by
  have hwritten := (ask_builtin present r.searchPath name r.chain hr []).2
  have hmem : .notice (.resolved label name found) ∈ (r.resolve present name).trace ↔
      .notice (.resolved label name found) ∈ (r.resolve present name).trace.written := by
    simp [Trace.written, Event.writes]
  rw [hmem, resolve, hwritten]
  change _ ∈ _ ++ resolvedNotice name ((r.attempts name).find? fun a => present a.path) ↔ _
  cases hfind : (r.attempts name).find? fun a => present a.path with
  | none => simp [Searcher.checks, resolvedNotice]
  | some a =>
    obtain ⟨searcher, path⟩ := a
    simp [Searcher.checks, resolvedNotice, eq_comm]

/-- The attempts of a chain that goes on from that of a new resolver. -/
theorem attempts_templates (path : SearchPath) (chain : List Searcher) (name : String) :
    (⟨path, (ofSearchPath []).chain ++ chain⟩ : Resolver).attempts name =
      (Searcher.templateCandidates path name).map (Attempt.mk "default") ++
        (⟨path, chain⟩ : Resolver).attempts name := rfl

/-- Attempts under other labels, behind a list of attempts, do not change where a label has the
first hit. -/
theorem find?_append_of_label {hits : Attempt → Bool} {first second : List Attempt}
    {label other found : String} (hsecond : ∀ a ∈ second, a.searcher = other)
    (hne : other ≠ label) :
    (first ++ second).find? hits = some ⟨label, found⟩ ↔
      first.find? hits = some ⟨label, found⟩ := by
  rw [List.find?_append]
  cases first.find? hits with
  | some a => rw [Option.some_or]
  | none =>
    rw [Option.none_or]
    refine ⟨fun h => ?_, nofun⟩
    exact absurd (hsecond _ (List.mem_of_find?_eq_some h)).symm hne

/-- A failing attempt behind failing attempts leaves the search to what comes next. -/
theorem find?_insert_of_fails {hits : Attempt → Bool} {first : List Attempt}
    (hfirst : first.find? hits = none) {a : Attempt} (ha : hits a = false)
    (second : List Attempt) :
    (first ++ second).find? hits = second.find? hits ∧
      (first ++ a :: second).find? hits = second.find? hits := by
  constructor
  · rw [List.find?_append, hfirst, Option.none_or]
  · rw [List.find?_append, hfirst, Option.none_or, List.find?_cons_of_neg (by simp [ha])]

/-- Searchers for `PATH` try the same whatever the search path is, and under one label. -/
theorem attempts_addedSearchers (lookup : Environment) (o : Options) (name : String) :
    ∃ second : List Attempt, (∀ a ∈ second, a.searcher = "path") ∧
      ∀ path, (⟨path, addedSearchers lookup o⟩ : Resolver).attempts name = second := by
  unfold addedSearchers
  split
  · let candidates := Searcher.directoryCandidates (Text.elements ((lookup "PATH").getD "")) name
    refine ⟨candidates.map (Attempt.mk "path"), ?_, fun path => List.append_nil _⟩
    intro a ha
    obtain ⟨_, _, rfl⟩ := List.mem_map.mp ha
    rfl
  · exact ⟨[], nofun, fun path => rfl⟩

end Resolver

/-- Two runs with one result: they end with the same status and the same complaints, write the
same, and load and start the same. -/
structure Outcome.SameResult (outcome outcome' : Outcome) : Prop where
  status : outcome'.status = outcome.status
  stdout : outcome'.stdout = outcome.stdout
  handovers : outcome'.trace.handovers = outcome.trace.handovers
  commands : outcome'.trace.commands = outcome.trace.commands
  display : outcome'.display = outcome.display
  complaints : outcome'.complaints = outcome.complaints

namespace Program

open CommandLine (Item Word ItemsWritten)

variable {w : World} {o : Options} {words : List String}

/-! ### Attempts of a run -/

/-- What a run tries for a name, each path under the label of its searcher. -/
def attempts (w : World) (o : Options) (name : String) : List Attempt :=
  (setUp w o).value.resolver.attempts name

/-- With a template more the attempts have its candidate between those of the searchers. -/
theorem attempts_extended {text : String} (htext : Template.WellFormed text)
    (h : (setUp w o).value.error? = none) (name : String) :
    (setUp w (o.withTemplate text)).value.error? = none ∧
      ∃ first second, (∀ a ∈ first, a.searcher = "default") ∧
        (∀ a ∈ second, a.searcher = "path") ∧
        attempts w o name = first ++ second ∧
        attempts w (o.withTemplate text) name =
          first ++ ⟨"default", Template.fill name text⟩ :: second := by
  obtain ⟨t, ht⟩ := (Template.exists_parse_ok_iff text).mpr htext
  obtain ⟨path, hplain, hextended⟩ := Resolver.configure_append_template ht h
  obtain ⟨second, hsecond, hadded⟩ := Resolver.attempts_addedSearchers w.lookup o name
  refine ⟨by rw [setUp, hextended],
    (Searcher.templateCandidates path name).map (Attempt.mk "default"), second, ?_, hsecond,
    ?_, ?_⟩
  · intro a ha
    obtain ⟨_, _, rfl⟩ := List.mem_map.mp ha
    rfl
  · rw [attempts, setUp, hplain, Resolver.attempts_templates, hadded]
  · rw [attempts, setUp, hextended, Resolver.attempts_templates, hadded,
      Template.fill_of_parse ht]
    simp [Searcher.templateCandidates]

/-- The first candidate that exists belongs to the first attempt that does not fail. -/
theorem find?_candidates (h : (setUp w o).value.error? = none) (name : String) :
    (candidates w.lookup o name).find? w.present =
      ((attempts w o name).find? fun a => w.present a.path).map Attempt.path := by
  rw [← (resolve_setUp h name).2, List.find?_map]
  rfl

theorem builtin_setUp (h : (setUp w o).value.error? = none) :
    ∀ s ∈ (setUp w o).value.resolver.chain, s.Builtin := by
  obtain ⟨r, path, hconfigure, hbuiltin, _⟩ := configure_candidates w.lookup o h
  rw [setUp, hconfigure]
  exact hbuiltin

theorem resolved_not_mem_load (w : World) (o : Options) (path : String) (args : List String)
    (label name found : String) :
    .notice (.resolved label name found) ∉ ((loader o).load w.launch path args).trace :=
  fun hn => Bool.false_ne_true (ofLoader_load w.launch o path args _ hn)

/-- A run notes the attempt that finds its script. -/
theorem resolved_mem_run_iff
    (hparse : (CommandLine.parse (initial w) words).value = (none, o))
    (h : (setUp w o).value.error? = none) (hname : scriptName o ≠ "") {label found : String} :
    .notice (.resolved label (scriptName o) found) ∈ (run w words).trace ↔
      (attempts w o (scriptName o)).find? (fun a => w.present a.path) =
        some ⟨label, found⟩ := by
  have hsetup : .notice (.resolved label (scriptName o) found) ∉ (setUp w o).trace :=
    fun hmem => Bool.false_ne_true (Resolver.ofSetUp_configure _ _ hmem)
  rw [attempts, ← Resolver.resolved_mem_resolve_iff (builtin_setUp h)]
  cases hr : ((setUp w o).value.resolver.resolve w.present (scriptName o)).value with
  | exhausted e =>
    have hlocate := locate_of_exhausted o h hname hr
    rw [run_of_stopped hparse (by decide : notFoundStatus < 256) (by rw [hlocate]), hlocate]
    simp [hsetup]
  | found path =>
    have hlocate := locate_of_finds o ⟨h, hr⟩ hname
    rw [run_of_located hparse (by rw [hlocate]), hlocate]
    simp [hsetup, resolved_not_mem_load]

/-! ### Runs that load a script -/

theorem handovers_load (w : World) (o : Options) (path : String) (args : List String) :
    ((loader o).load w.launch path args).trace.handovers = [] := by
  unfold loader
  split
  · rfl
  · rw [Loader.load_interpret, Command.handovers_run]

theorem display_run (hparse : (CommandLine.parse (initial w) words).value = (none, o)) :
    (run w words).display = o.toDisplay := by
  rw [run_of_accepted hparse]

/-- All that shows of a run that finds its script, apart from informative messages. -/
theorem result_of_present
    (hparse : (CommandLine.parse (initial w) words).value = (none, o))
    (h : (setUp w o).value.error? = none) (hname : scriptName o ≠ "") {a : Attempt}
    (ha : (attempts w o (scriptName o)).find? (fun a => w.present a.path) = some a) :
    let loaded := (loader o).load w.launch a.path o.args.tail
    ((run w words).status : Int) = loaded.value ∧ (run w words).stdout = loaded.trace.stdout ∧
      (run w words).trace.handovers = [(a.path, o.args.tail)] ∧
      (run w words).trace.commands = loaded.trace.commands ∧
      (run w words).complaints = pathComplaint w o ++ loaded.trace.messages false := by
  intro loaded
  have hpath : (candidates w.lookup o (scriptName o)).find? w.present = some a.path := by
    rw [find?_candidates h, ha]
    rfl
  obtain ⟨hstatus, before, hpassive, hcomplaint, htrace⟩ := run_of_present hparse h hname hpath
  refine ⟨hstatus, ?_, ?_, ?_, ?_⟩
  · rw [Outcome.stdout, htrace, Trace.stdout_append, hpassive.stdout, Trace.stdout_cons]
    exact (String.empty_append).trans String.empty_append
  · rw [htrace, Trace.handovers_append, hpassive.handovers, Trace.handovers_cons,
      handovers_load]
    rfl
  · rw [htrace, Trace.commands_append, hpassive.commands, Trace.commands_cons]
    rfl
  · rw [Outcome.complaints_eq, htrace, Trace.messages_append, hcomplaint]
    rfl

/-! ### Runs that find nothing -/

/-- An ordinary display that ends with a report has a line for each attempt at the end. -/
theorem stderr_of_report {outcome : Outcome} (h : outcome.display.verbose = false)
    {before : List Message} {label name : String} {attempts : List Attempt}
    (hcomplaints : outcome.complaints =
      before ++ [.report (.notFound label ⟨name, attempts⟩)]) :
    outcome.stderr =
      String.join (before.map (Message.line outcome.display.colorize)) ++
        (label ++ ": error: no script called '" ++ name ++ "'\n") ++
        String.join (attempts.map Report.attemptLine) := by
  rw [Outcome.stderr_of_not_verbose h, hcomplaints, List.map_append, String.join_append,
    String.append_assoc]
  rfl

/-- In the report of the longer search the additional attempt has a line of its own. -/
theorem stderr_inserted {outcome outcome' : Outcome}
    (hdisplay : outcome'.display = outcome.display) (h : outcome.display.verbose = false)
    {before : List Message} {label name : String} {first second : List Attempt} {a : Attempt}
    (hcomplaints : outcome.complaints =
      before ++ [.report (.notFound label ⟨name, first ++ second⟩)])
    (hcomplaints' : outcome'.complaints =
      before ++ [.report (.notFound label ⟨name, first ++ a :: second⟩)]) :
    ∃ head,
      outcome.stderr = head ++ String.join (first.map Report.attemptLine) ++
        String.join (second.map Report.attemptLine) ∧
      outcome'.stderr = head ++ String.join (first.map Report.attemptLine) ++
        ("\tno file '" ++ a.path ++ "'\n") ++ String.join (second.map Report.attemptLine) := by
  refine ⟨String.join (before.map (Message.line outcome.display.colorize)) ++
    (label ++ ": error: no script called '" ++ name ++ "'\n"), ?_, ?_⟩
  · rw [stderr_of_report h hcomplaints, List.map_append, String.join_append]
    simp only [String.append_assoc]
  · rw [stderr_of_report (hdisplay ▸ h) hcomplaints', hdisplay, List.map_append,
      String.join_append, List.map_cons, String.join_cons, Report.attemptLine]
    simp only [String.append_assoc]

/-! ### The two runs -/

/-- The options of a run with items and a script behind them. -/
theorem parse_items {items : List Item} {front : List String} (hitems : ItemsWritten items front)
    {name : String} (hplain : name.toList.head? ≠ some '-') (w : World) (rest : List String) :
    (CommandLine.parse (initial w) (front ++ name :: rest)).value =
      (none, { CommandLine.settle items (initial w) with args := name :: rest }) := by
  have hmeans : Word.plain.Means name := .inr (.inr hplain)
  rw [CommandLine.parse_script hitems hmeans, CommandLine.parse_separator hitems]
  rfl

/-- A `-I` behind the other options is one template more at the end. -/
theorem parse_extended {items : List Item} {front : List String}
    (hitems : ItemsWritten items front) {name : String}
    (hplain : name.toList.head? ≠ some '-') (w : World) (text : String) (rest : List String) :
    let o : Options := { CommandLine.settle items (initial w) with args := name :: rest }
    (CommandLine.parse (initial w) (front ++ "-I" :: text :: name :: rest)).value =
      (none, o.withTemplate text) := by
  intro o
  have hlast : ItemsWritten [.template text] (["-I", text] ++ []) := .cons ⟨"-I", rfl, rfl⟩ .nil
  have hparse := parse_items (hitems.append hlast) hplain w rest
  rw [CommandLine.settle_append_template, List.append_assoc] at hparse
  exact hparse

/-- Two runs for one script that differ in a template and both get through their set-up, with
what they try: the templates searcher has one attempt more. -/
structure Extends (w : World) (o : Options) (text : String) (words words' : List String)
    (first second : List Attempt) : Prop where
  parsed : (CommandLine.parse (initial w) words).value = (none, o)
  parsed' : (CommandLine.parse (initial w) words').value = (none, o.withTemplate text)
  ok : (setUp w o).value.error? = none
  ok' : (setUp w (o.withTemplate text)).value.error? = none
  named : scriptName o ≠ ""
  byDefault : ∀ a ∈ first, a.searcher = "default"
  byPath : ∀ a ∈ second, a.searcher = "path"
  tried : attempts w o (scriptName o) = first ++ second
  tried' : attempts w (o.withTemplate text) (scriptName o) =
    first ++ ⟨"default", Template.fill (scriptName o) text⟩ :: second

namespace Extends

variable {words' : List String} {text : String} {first second : List Attempt}
  (e : Extends w o text words words' first second)

include e

theorem display : (run w words').display = (run w words).display :=
  (display_run e.parsed').trans (display_run e.parsed).symm

/-- Where both find the same script, they have the same result. -/
theorem sameResult {a : Attempt}
    (ha : (first ++ second).find? (fun a => w.present a.path) = some a)
    (ha' : (first ++ ⟨"default", Template.fill (scriptName o) text⟩ :: second).find?
      (fun a => w.present a.path) = some a) :
    (run w words').trace.handovers = [(a.path, o.args.tail)] ∧
      (run w words).SameResult (run w words') := by
  obtain ⟨hstatus, hstdout, hhandovers, hcommands, hcomplaints⟩ :=
    result_of_present e.parsed e.ok e.named (by rw [e.tried, ha])
  obtain ⟨hstatus', hstdout', hhandovers', hcommands', hcomplaints'⟩ :=
    result_of_present e.parsed' e.ok' e.named (e.tried' ▸ ha')
  exact ⟨hhandovers',
    { status := Int.ofNat_inj.mp (hstatus'.trans hstatus.symm)
      stdout := hstdout'.trans hstdout.symm
      handovers := hhandovers'.trans hhandovers.symm
      commands := hcommands'.trans hcommands.symm
      display := e.display
      complaints := hcomplaints'.trans hcomplaints.symm }⟩

/-- What the templates searcher has found is noted under its label. -/
theorem noted_iff {found : String} :
    .notice (.resolved "default" (scriptName o) found) ∈ (run w words).trace ↔
      first.find? (fun a => w.present a.path) = some ⟨"default", found⟩ := by
  rw [resolved_mem_run_iff e.parsed e.ok e.named, e.tried,
    Resolver.find?_append_of_label e.byPath (by decide)]

/-- What the templates searcher has found it still finds. -/
theorem kept {a : Attempt} (ha : first.find? (fun a => w.present a.path) = some a) :
    (run w words').trace.handovers = [(a.path, o.args.tail)] ∧
      (run w words).SameResult (run w words') :=
  e.sameResult (by rw [List.find?_append, ha, Option.some_or])
    (by rw [List.find?_append, ha, Option.some_or])

/-- A candidate of the template that exists comes before all of `PATH`. -/
theorem shadowed (hmiss : first.find? (fun a => w.present a.path) = none)
    (hpresent : w.present (Template.fill (scriptName o) text) = true) :
    (run w words').trace.handovers =
      [(Template.fill (scriptName o) text, o.args.tail)] := by
  have hfind : (attempts w (o.withTemplate text) (scriptName o)).find?
      (fun a => w.present a.path) = some ⟨"default", Template.fill (scriptName o) text⟩ := by
    rw [e.tried', List.find?_append, hmiss, Option.none_or]
    exact List.find?_cons_of_pos hpresent
  exact (result_of_present e.parsed' e.ok' e.named hfind).2.2.1

/-- Where neither finds anything, the report has the new candidate between the others. -/
theorem exhausted (h : (first ++ second).find? (fun a => w.present a.path) = none)
    (h' : (first ++ ⟨"default", Template.fill (scriptName o) text⟩ :: second).find?
      (fun a => w.present a.path) = none) :
    ((run w words).status = 1 ∧ (run w words).stdout = "" ∧ (run w words).Idle ∧
      (run w words).complaints = pathComplaint w o ++
        [.report (.notFound o.label ⟨scriptName o, first ++ second⟩)]) ∧
    (run w words').status = 1 ∧ (run w words').stdout = "" ∧ (run w words').Idle ∧
      (run w words').complaints = pathComplaint w o ++
        [.report (.notFound o.label ⟨scriptName o,
          first ++ ⟨"default", Template.fill (scriptName o) text⟩ :: second⟩)] := by
  have habsent : (candidates w.lookup o (scriptName o)).find? w.present = none := by
    rw [find?_candidates e.ok, e.tried, h, Option.map_none]
  have habsent' : (candidates w.lookup (o.withTemplate text) (scriptName o)).find? w.present =
      none := by
    rw [find?_candidates e.ok', e.tried', h', Option.map_none]
  obtain ⟨hstatus, hstdout, hidle, hcomplaints, -⟩ :=
    run_of_absent e.parsed e.ok e.named habsent
  obtain ⟨hstatus', hstdout', hidle', hcomplaints', -⟩ :=
    run_of_absent e.parsed' e.ok' e.named habsent'
  refine ⟨⟨hstatus, hstdout, hidle, ?_⟩, hstatus', hstdout', hidle', ?_⟩
  · rw [← e.tried]
    exact hcomplaints
  · rw [← e.tried']
    exact hcomplaints'

end Extends

/-- A `-I` behind the other options gives such a pair of runs. -/
theorem extends_of_written {items : List Item} {front : List String}
    (hitems : ItemsWritten items front) {text : String} (htext : Template.WellFormed text)
    {name : String} (hname : name ≠ "") (hplain : name.toList.head? ≠ some '-')
    (rest : List String)
    (hok : (setUp w
      (CommandLine.parse (initial w) (front ++ name :: rest)).value.2).value.error? = none) :
    ∃ o first second,
      Extends w o text (front ++ name :: rest) (front ++ "-I" :: text :: name :: rest) first
        second ∧ scriptName o = name ∧ o.args.tail = rest := by
  have hparse := parse_items hitems hplain w rest
  rw [hparse] at hok
  obtain ⟨hok', first, second, hfirst, hsecond, htried, htried'⟩ :=
    attempts_extended htext hok name
  exact ⟨_, first, second,
    ⟨hparse, parse_extended hitems hplain w text rest, hok, hok', hname, hfirst, hsecond, htried,
      htried'⟩, rfl, rfl⟩

/-- With one well-formed template more, behind all other options, a run that gets through its
set-up loads what the templates searcher found without it. If the templates searcher found
nothing, it loads the candidate of the new template if that exists, also where only `PATH`
had the script. Otherwise it has the same result; in a failure the report has one line more,
behind those of the templates searcher and in front of those of the searcher for `PATH`. -/
theorem run_extended (w : World) {items : List Item} {front : List String}
    (hitems : ItemsWritten items front) {text : String} (htext : Template.WellFormed text)
    {name : String} (hname : name ≠ "") (hplain : name.toList.head? ≠ some '-')
    (rest : List String)
    (hok : (setUp w
      (CommandLine.parse (initial w) (front ++ name :: rest)).value.2).value.error? = none) :
    let plain := run w (front ++ name :: rest)
    let extended := run w (front ++ "-I" :: text :: name :: rest)
    let path := Template.fill name text
    (∀ found, .notice (.resolved "default" name found) ∈ plain.trace →
      extended.trace.handovers = [(found, rest)] ∧ plain.SameResult extended) ∧
    ((∀ found, .notice (.resolved "default" name found) ∉ plain.trace) →
      (w.present path = true → extended.trace.handovers = [(path, rest)]) ∧
      (w.present path = false →
        (plain.trace.handovers ≠ [] → plain.SameResult extended) ∧
        (plain.trace.handovers = [] →
          plain.status = 1 ∧ extended.status = 1 ∧
          plain.stdout = "" ∧ extended.stdout = "" ∧ plain.Idle ∧ extended.Idle ∧
          extended.display = plain.display ∧
          ∃ label before first second,
            (∀ a ∈ first, a.searcher = "default") ∧ (∀ a ∈ second, a.searcher = "path") ∧
            plain.complaints =
              before ++ [.report (.notFound label ⟨name, first ++ second⟩)] ∧
            extended.complaints =
              before ++ [.report (.notFound label ⟨name, first ++ ⟨"default", path⟩ :: second⟩)] ∧
            (plain.display.verbose = false → ∃ head,
              plain.stderr = head ++ String.join (first.map Report.attemptLine) ++
                String.join (second.map Report.attemptLine) ∧
              extended.stderr = head ++ String.join (first.map Report.attemptLine) ++
                ("\tno file '" ++ path ++ "'\n") ++
                String.join (second.map Report.attemptLine))))) := by
  intro plain extended path
  obtain ⟨o, first, second, e, hscript, htail⟩ :=
    extends_of_written hitems htext hname hplain rest hok
  subst hscript htail
  constructor
  · intro found hfound
    exact e.kept (e.noted_iff.mp hfound)
  · intro hnot
    have hmiss : first.find? (fun a => w.present a.path) = none := by
      cases hhit : first.find? fun a => w.present a.path with
      | none => rfl
      | some a =>
        obtain ⟨searcher, found⟩ := a
        obtain rfl : searcher = "default" := e.byDefault _ (List.mem_of_find?_eq_some hhit)
        exact absurd (e.noted_iff.mpr hhit) (hnot found)
    refine ⟨e.shadowed hmiss, fun habsent => ?_⟩
    obtain ⟨hfind, hfind'⟩ := Resolver.find?_insert_of_fails (a := ⟨"default", path⟩) hmiss
      habsent second
    cases hhit : second.find? fun a => w.present a.path with
    | some a =>
      obtain ⟨hhandovers, hsame⟩ := e.sameResult (hfind.trans hhit) (hfind'.trans hhit)
      have hloads : plain.trace.handovers ≠ [] := by
        rw [← hsame.handovers, hhandovers]
        exact List.cons_ne_nil _ _
      exact ⟨fun _ => hsame, fun hnone => absurd hnone hloads⟩
    | none =>
      obtain ⟨⟨hstatus, hstdout, hidle, hreport⟩, hstatus', hstdout', hidle', hreport'⟩ :=
        e.exhausted (hfind.trans hhit) (hfind'.trans hhit)
      refine ⟨fun hsome => absurd hidle.1 hsome, fun _ => ?_⟩
      refine ⟨hstatus, hstatus', hstdout, hstdout', hidle, hidle', e.display, o.label, _, first,
        second, e.byDefault, e.byPath, hreport, hreport', fun hverbose => ?_⟩
      -- Stated before it is used: elaborated against the goal, the lines would be evaluated.
      have hlines := stderr_inserted e.display hverbose hreport hreport'
      exact hlines

/-- A template behind `b/%s` does not shadow that one, but it shadows `PATH`. If nothing exists
its candidate is reported between the other two. -/
theorem run_extended_shadows_path :
    let w (files : List String) : World :=
      ⟨files.contains, fun v => if v = "PATH" then some "/bin" else none,
        fun _ => .ok ⟨.error .noEntry, none⟩, false⟩
    let front := ["--no-default-path", "-I", "b/%s", "--path-search"]
    let plain := front ++ "mod" :: ["x"]
    let extended := front ++ "-I" :: "a/%s" :: "mod" :: ["x"]
    (run (w ["a/mod", "b/mod"]) extended).trace.handovers = [("b/mod", ["x"])] ∧
      (run (w ["a/mod", "/bin/mod"]) plain).trace.handovers = [("/bin/mod", ["x"])] ∧
      (run (w ["a/mod", "/bin/mod"]) extended).trace.handovers = [("a/mod", ["x"])] ∧
      (run (w []) plain).stderr =
        "source: error: no script called 'mod'\n\tno file 'b/mod'\n\tno file '/bin/mod'\n" ∧
      (run (w []) extended).status = 1 ∧
      (run (w []) extended).stderr = "source: error: no script called 'mod'\n" ++
        "\tno file 'b/mod'\n\tno file 'a/mod'\n\tno file '/bin/mod'\n" := by
  intro w front plain extended
  have hlast : (Item.flag .pathSearch).Written ["--path-search"] :=
    ⟨"--path-search", by decide, rfl⟩
  have hmiddle : (Item.template "b/%s").Written ["-I", "b/%s"] := ⟨"-I", rfl, rfl⟩
  have hfirst : (Item.flag .noDefaultPath).Written ["--no-default-path"] :=
    ⟨"--no-default-path", by decide, rfl⟩
  have hitems : ItemsWritten [.flag .noDefaultPath, .template "b/%s", .flag .pathSearch] front :=
    .cons hfirst (.cons hmiddle (.cons hlast .nil))
  have htext : Template.WellFormed "a/%s" :=
    (Template.wellFormed_of_parse (t := ⟨"a/", ""⟩) rfl).1
  have hname : "mod" ≠ "" := by decide
  have hboth (files : List String) :=
    run_extended (w files) hitems htext hname (by decide) ["x"] rfl
  let o : Options :=
    { defaultPath := false, templates := ["b/%s"], pathSearch := true, args := ["mod", "x"] }
  have hnoted (files : List String) {found : String} :
      .notice (.resolved "default" "mod" found) ∈ (run (w files) plain).trace ↔
        (attempts (w files) o "mod").find? (fun a => files.contains a.path) =
          some ⟨"default", found⟩ :=
    resolved_mem_run_iff (o := o) rfl rfl hname
  have hkept := (hboth ["a/mod", "b/mod"]).1 "b/mod" ((hnoted _).mpr (by decide))
  have hbyPath (found : String) : .notice (.resolved "default" "mod" found) ∉
      (run (w ["a/mod", "/bin/mod"]) plain).trace := by
    rw [hnoted]
    intro hfind
    have hlabel : some "path" = some "default" := congrArg (Option.map Attempt.searcher) hfind
    exact absurd hlabel (by decide)
  have hshadowed := ((hboth ["a/mod", "/bin/mod"]).2 hbyPath).1 (by decide)
  have hnothing (found : String) :
      .notice (.resolved "default" "mod" found) ∉ (run (w []) plain).trace := by
    rw [hnoted]
    exact nofun
  have hfails := ((hboth []).2 hnothing).2 (by decide)
  exact ⟨hkept.1, by decide, hshadowed, by decide, (hfails.2 (by decide)).2.1, by decide⟩

end Program

end ScriptSearch
