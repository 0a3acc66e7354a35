import ScriptSearch.Proofs.Program.Stages
import ScriptSearch.Proofs.Program.Locate

/-! Options that only say how messages look, and under which label a report stands. Two runs
that differ in nothing else read the command line alike, search alike and load alike; they do
the same things, and only the label of a report tells their traces apart. What they write is
what their displays make of the same messages. -/

namespace ScriptSearch

/-! ### Options with one task -/

/-- Options that differ at most in the display and the label. -/
structure Options.SameTask (o o' : Options) : Prop where
  interpreter : o'.interpreter = o.interpreter
  templates : o'.templates = o.templates
  args : o'.args = o.args
  defaultPath : o'.defaultPath = o.defaultPath
  pathSearch : o'.pathSearch = o.pathSearch
  print : o'.print = o.print

namespace Options.SameTask

variable {o o' o'' : Options}

theorem refl (o : Options) : o.SameTask o := ⟨rfl, rfl, rfl, rfl, rfl, rfl⟩

theorem trans (h : o.SameTask o') (h' : o'.SameTask o'') : o.SameTask o'' where
  interpreter := h'.interpreter.trans h.interpreter
  templates := h'.templates.trans h.templates
  args := h'.args.trans h.args
  defaultPath := h'.defaultPath.trans h.defaultPath
  pathSearch := h'.pathSearch.trans h.pathSearch
  print := h'.print.trans h.print

theorem searchesAlike (h : o.SameTask o') : Program.SearchesAlike o o' :=
  ⟨h.defaultPath, h.templates, h.pathSearch, by rw [h.args]⟩

theorem loader_eq (h : o.SameTask o') : Program.loader o' = Program.loader o := by
  simp only [Program.loader, h.print, h.interpreter]

end Options.SameTask

namespace CommandLine

variable {o o' : Options}

/-- The words of the options that only say how messages look. -/
def presentation : List String := ["-d", "--dot", "-v", "--verbose", "--color", "--no-color"]

theorem flag_of_presentation :
    ∀ word ∈ presentation, ∃ f ∈ [Flag.dot, .verbose, .color, .noColor],
      (Word.flag f).Means word := by
  decide

theorem sameTask_apply {f : Flag} (hf : f ∈ [Flag.dot, .verbose, .color, .noColor])
    (o : Options) : o.SameTask (f.apply o) := by
  cases f with
  | dot | verbose | color | noColor => constructor <;> rfl
  | print | noDefaultPath | pathSearch => simp at hf

/-- In front of a command line such words only change what its options start from. -/
theorem parse_presentation {front : List String} (h : ∀ word ∈ front, word ∈ presentation)
    (o : Options) (words : List String) :
    ∃ o', o.SameTask o' ∧ (o'.label = o.label ∨ o'.label = ".") ∧
      parse o (front ++ words) = parse o' words := by
  induction front generalizing o with
  | nil => exact ⟨o, .refl o, .inl rfl, rfl⟩
  | cons word front ih =>
    obtain ⟨hword, hfront⟩ := List.forall_mem_cons.mp h
    obtain ⟨f, hf, hmeans⟩ := flag_of_presentation word hword
    have hitem : (Item.flag f).Written [word] := ⟨word, hmeans, rfl⟩
    have hread : parse o (word :: front ++ words) = parse (f.apply o) (front ++ words) :=
      Reading.run_item o hitem (front ++ words)
    have hlabel : (f.apply o).label = o.label ∨ (f.apply o).label = "." := by
      cases f with
      | dot => exact .inr rfl
      | _ => exact .inl rfl
    obtain ⟨o', htask, hlabel', hparse⟩ := ih hfront (f.apply o)
    refine ⟨o', (sameTask_apply hf o).trans htask, ?_, hread.trans hparse⟩
    -- No word undoes a `-d` in front of it.
    rcases hlabel' with hlabel' | hlabel'
    · rwa [hlabel']
    · exact .inr hlabel'

/-- What is read behind options with one task leaves them with one task. -/
theorem sameTask_options (h : o.SameTask o') (c : CommandLine) :
    (c.options o).SameTask (c.options o') := by
  rw [options_eq, options_eq]
  constructor <;> simp [settle, h.interpreter, h.templates, h.args, h.defaultPath, h.pathSearch,
    h.print]

theorem label_options (c : CommandLine) (o : Options) :
    (c.options o).label = o.label ∨ (c.options o).label = "." := by
  rw [options_eq]
  by_cases hdot : Item.flag .dot ∈ c.items
  · exact .inr (if_pos hdot)
  · exact .inl (if_neg hdot)

theorem Ending.no_report_trace (e : Ending) (r : Report) : .report r ∉ e.trace := by
  cases e <;> simp [Ending.trace]

end CommandLine

namespace Program

variable {w : World} {o o' : Options}

/-! ### Runs with one task -/

theorem no_report_load (w : World) (o : Options) (path : String) (args : List String)
    (r : Report) : .report r ∉ ((loader o).load w.launch path args).trace :=
  fun hr => Bool.false_ne_true (ofLoader_load w.launch o path args _ hr)

theorem load_of_sameTask (h : o.SameTask o') (w : World) :
    load w o' = ⟨(load w o).value, (load w o).trace.withLabel o'.label⟩ := by
  have hlocate := locate_of_searchesAlike h.searchesAlike w
  rw [load_eq w o', load_eq w o, hlocate]
  cases (locate w o).value with
  | error status => rfl
  | ok path =>
    have hloaded := Trace.withLabel_of_no_report o'.label (no_report_load w o path o.args.tail)
    simp only [h.loader_eq, h.args, Trace.withLabel_append, Trace.withLabel_cons, hloaded]
    rfl

theorem run_of_sameTask {words words' : List String} {status? : Option Nat} {t : Trace}
    (h : o.SameTask o') (ht : t.withLabel o'.label = t)
    (hparse : CommandLine.parse (initial w) words = ⟨(status?, o), t⟩)
    (hparse' : CommandLine.parse (initial w) words' = ⟨(status?, o'), t⟩) :
    (run w words').status = (run w words).status ∧
      (run w words').trace = (run w words).trace.withLabel o'.label := by
  rw [run_of_parse hparse, run_of_parse hparse']
  cases status? with
  | some status => exact ⟨rfl, ht.symm⟩
  | none => simp only [load_of_sameTask h w, Trace.withLabel_append, ht, and_self]

/-- The presentation options in front of a command line leave its run as it is. The status,
standard output and the processes that are started are the same. On standard error the same
messages stand, apart from informative ones and from the label of a report; colour shows
around the name of a level and nowhere else, so reports have none. -/
theorem run_presentation (w : World) (front words : List String)
    (h : ∀ word ∈ front, word ∈ CommandLine.presentation) :
    let plain := run w words
    let dressed := run w (front ++ words)
    dressed.status = plain.status ∧ dressed.stdout = plain.stdout ∧
    dressed.trace.commands = plain.trace.commands ∧
    (∀ outcome ∈ [plain, dressed], outcome.stderr =
      String.join ((outcome.trace.messages outcome.display.verbose).map
        (Message.line outcome.display.colorize))) ∧
    (∃ label, (label = "source" ∨ label = ".") ∧
      (dressed.trace.messages dressed.display.verbose).filter (fun m => !m.informative) =
        ((plain.trace.messages plain.display.verbose).filter fun m => !m.informative).map
          (Message.withLabel label) ∧
      ∀ verbose, dressed.trace.messages verbose =
        (plain.trace.messages verbose).map (Message.withLabel label)) ∧
    (∀ outcome ∈ [plain, dressed], outcome.display.verbose = false →
      ∀ m ∈ outcome.trace.messages outcome.display.verbose, m.informative = false) ∧
    (∀ level : Level, ∃ codes, ∀ text colorize,
      (Message.noted level text).line colorize =
        (if colorize then "\x1b[" ++ codes ++ "m" ++ (level.name ++ ":") ++ "\x1b[0m"
          else level.name ++ ":") ++ " " ++ text ++ "\n") ∧
    ∀ label e colorize,
      (Message.report (.nameMissing label)).line colorize =
        label ++ ": error: script name is required\n" ∧
      (Message.report (.notFound label e)).line colorize =
        label ++ ": error: no script called '" ++ e.name ++ "'\n" ++
          String.join (e.attempts.map fun a => "\tno file '" ++ a.path ++ "'\n") := by
  intro plain dressed
  obtain ⟨o', htask, hlabel, hfront⟩ :=
    CommandLine.parse_presentation h (initial w) words
  have hwrites := CommandLine.writes_ofWords words
  have hdressed := hfront.trans (CommandLine.parse_of_writes hwrites o')
  have hplain := CommandLine.parse_of_writes hwrites (initial w)
  set c := CommandLine.ofWords words with hc
  obtain ⟨hstatus, htrace⟩ := run_of_sameTask (CommandLine.sameTask_options htask c)
    (Trace.withLabel_of_no_report _ c.ending.no_report_trace) hplain hdressed
  have hsource : (c.options o').label = "source" ∨ (c.options o').label = "." := by
    rcases CommandLine.label_options c o' with hl | hl
    · rw [hl]
      exact hlabel
    · exact .inr hl
  have hmessages (verbose : Bool) : dressed.trace.messages verbose =
      (plain.trace.messages verbose).map (Message.withLabel (c.options o').label) := by
    rw [← Trace.messages_withLabel, ← htrace]
  refine ⟨hstatus, ?_, ?_, ?_, ⟨(c.options o').label, hsource, ?_, hmessages⟩, ?_, ?_, ?_⟩
  · rw [Outcome.stdout, htrace, Trace.stdout_withLabel]
    rfl
  · rw [htrace, Trace.commands_withLabel]
  · intro outcome _
    exact Trace.stderr_eq_join outcome.display outcome.trace
  · rw [Trace.filter_messages, Trace.filter_messages, hmessages]
  · intro outcome _ hverbose m hm
    rw [hverbose] at hm
    simpa using (List.mem_filter.mp hm).2
  · intro level
    exact ⟨String.intercalate ";" level.style.codes, fun text colorize => by
      cases level <;> cases colorize <;> rfl⟩
  · intro label e colorize
    exact ⟨rfl, rfl⟩

/-- All of them at once in front of a run that reports the name itself. -/
theorem run_presentation_all :
    let w : World := ⟨fun _ => false, fun _ => none, fun _ => .ok ⟨.error .noEntry, none⟩, false⟩
    let front := ["-d", "--dot", "-v", "--verbose", "--no-color", "--color"]
    let words := ["--no-default-path", "./m"]
    (∀ word ∈ front, word ∈ CommandLine.presentation) ∧
      (run w (front ++ words)).status = (run w words).status ∧
      (run w words).stderr = "source: error: no script called './m'\n\tno file './m'\n" ∧
      (run w (front ++ words)).stderr =
        "\x1b[1;35minfo:\x1b[0m checking `./m`: not found\n" ++
          ".: error: no script called './m'\n\tno file './m'\n" := by
  intro w front words
  have hfront : ∀ word ∈ front, word ∈ CommandLine.presentation := by decide
  obtain ⟨hstatus, _, _, hstderr, _⟩ := run_presentation w front words hfront
  exact ⟨hfront, hstatus, (hstderr _ (by simp)).trans (by decide),
    (hstderr _ (by simp)).trans (by decide)⟩

end Program

end ScriptSearch
