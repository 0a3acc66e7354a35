import ScriptSearch.Proofs.Configuration.Exits
import ScriptSearch.Proofs.Program.Candidates
import ScriptSearch.Proofs.Program.Locate

/-! What a run complains about. Informative messages apart, a set-up says which template is
malformed or that `PATH` is not set, a search says nothing, and the report stands at the end.
With the status and the calls this is all that a run shows of the point where it stops. -/

namespace ScriptSearch

namespace Outcome

/-- What stands on standard error apart from the informative messages. -/
def complaints (outcome : Outcome) : List Message :=
  (outcome.trace.messages outcome.display.verbose).filter fun m => !m.informative

theorem complaints_eq (outcome : Outcome) : outcome.complaints = outcome.trace.messages false :=
  Trace.filter_messages outcome.display.verbose outcome.trace

/-- An ordinary display shows the complaints and nothing else. -/
theorem stderr_of_not_verbose {outcome : Outcome} (h : outcome.display.verbose = false) :
    outcome.stderr =
      String.join (outcome.complaints.map (Message.line outcome.display.colorize)) := by
  rw [complaints_eq, stderr, Trace.stderr_eq_join, h]

end Outcome

namespace Program

variable {w : World} {o : Options}

/-! ### Set-up and search -/

/-- The complaint about a `PATH` that is asked for and not set. -/
def pathComplaint (w : World) (o : Options) : List Message :=
  if o.pathSearch ∧ w.lookup "PATH" = none then
    [.noted .warning "`PATH` is not set, `--path-search` finds nothing"]
  else []

theorem messages_setupTrace (w : World) (o : Options) (path : SearchPath) :
    (Resolver.setupTrace w.lookup o path).messages false = pathComplaint w o := by
  rw [Resolver.setupTrace, Trace.messages_append, Trace.messages_append,
    Resolver.quiet_basePath.messages, (Resolver.quiet_searchPath path).messages,
    List.append_nil, List.nil_append, Resolver.pathWarning, pathComplaint]
  split <;> rfl

/-- A set-up that succeeds keeps the templates searcher of a new resolver in front. -/
theorem setUp_of_ok (h : (setUp w o).value.error? = none) :
    ∃ path, setUp w o =
      ⟨{ resolver := ⟨path, .templates :: Resolver.addedSearchers w.lookup o⟩ },
        Resolver.setupTrace w.lookup o path⟩ := by
  obtain ⟨base, more, _, _, hconfigure⟩ := Resolver.configure_of_ok h
  exact ⟨base ++ more, hconfigure⟩

theorem messages_setUp (h : (setUp w o).value.error? = none) :
    (setUp w o).trace.messages false = pathComplaint w o := by
  obtain ⟨path, hsetup⟩ := setUp_of_ok h
  rw [hsetup, messages_setupTrace]

/-- The first malformed template is all that a set-up complains about. -/
theorem setUp_of_malformed
    (h : ¬ ∀ text ∈ Resolver.listedTexts w.lookup o ++ o.templates, Template.WellFormed text) :
    ∃ front e back, Resolver.listedTexts w.lookup o ++ o.templates = front ++ e.text :: back ∧
      (∀ text ∈ front, Template.WellFormed text) ∧ ¬ Template.WellFormed e.text ∧
      Template.parse e.text = .error e ∧ (setUp w o).value.error? = some e ∧
      (setUp w o).trace.messages false = [.noted .error e.message] := by
  obtain ⟨front, e, back, path, htexts, hfront, hbad, hparse, hconfigure⟩ :=
    Resolver.configure_of_malformed h (Resolver.ofSearchPath [])
  refine ⟨front, e, back, htexts, hfront, hbad, hparse, by rw [setUp, hconfigure], ?_⟩
  rw [setUp, hconfigure]
  simp only [Trace.messages_append, Resolver.quiet_basePath.messages, List.nil_append]
  rfl

theorem setUp_of_wellFormed
    (h : ∀ text ∈ Resolver.listedTexts w.lookup o ++ o.templates, Template.WellFormed text) :
    (setUp w o).value.error? = none := by
  obtain ⟨path, hconfigure⟩ := Resolver.configure_of_wellFormed h (Resolver.ofSearchPath [])
  rw [setUp, hconfigure]

/-- A set-up succeeds exactly if all templates are well formed. -/
theorem error?_setUp_iff : (setUp w o).value.error? = none ↔
    ∀ text ∈ Resolver.listedTexts w.lookup o ++ o.templates, Template.WellFormed text := by
  constructor
  · intro h
    by_contra hmalformed
    obtain ⟨_, e, _, _, _, _, _, herror, _⟩ := setUp_of_malformed hmalformed
    simp [herror] at h
  · exact setUp_of_wellFormed

theorem messages_resolve (w : World) (o : Options) (name : String) :
    ((setUp w o).value.resolver.resolve w.present name).trace.messages false = [] :=
  (Resolver.quiet_ask _ _ _ _ _).messages

/-- The resolver of a run works through the candidates of the run. -/
theorem resolve_setUp (h : (setUp w o).value.error? = none) (name : String) :
    let r := (setUp w o).value.resolver
    (r.resolve w.present name).value =
        (match (candidates w.lookup o name).find? w.present with
          | some path => .found path
          | none => .exhausted ⟨name, r.attempts name⟩) ∧
      (r.attempts name).map Attempt.path = candidates w.lookup o name := by
  intro r
  obtain ⟨r', path, hconfigure, hbuiltin, hcandidates⟩ := configure_candidates w.lookup o h
  have hr : r = r' := by simp only [r, setUp, hconfigure]
  subst hr
  rw [Resolver.resolve_builtin_value w.present name r hbuiltin, Resolver.map_path_attempts,
    hcandidates]
  exact ⟨rfl, rfl⟩

/-! ### Where a run stops -/

section Stops

variable {words : List String} (hparse : (CommandLine.parse (initial w) words).value = (none, o))

include hparse

/-- A run whose search ends with a status ends with it too. -/
theorem run_of_stopped {status : Nat} (hstatus : status < 256)
    (h : (locate w o).value = .error status) :
    run w words = ⟨status, o.toDisplay, (locate w o).trace⟩ := by
  rw [run_of_accepted hparse, load_of_stopped h, exitStatus_of_lt hstatus]

/-- A run whose search finds a path ends with the loading of the path. -/
theorem run_of_located {path : String} (h : (locate w o).value = .ok path) :
    run w words =
      ⟨exitStatus ((loader o).load w.launch path o.args.tail).value, o.toDisplay,
        (locate w o).trace ++ .handed path o.args.tail ::
          ((loader o).load w.launch path o.args.tail).trace⟩ := by
  rw [run_of_accepted hparse, load_of_located h]

end Stops

/-- The status of a loader is the status of the run. -/
theorem exitStatus_load (w : World) (o : Options) (path : String) (args : List String) :
    (exitStatus ((loader o).load w.launch path args).value : Int) =
      ((loader o).load w.launch path args).value := by
  unfold loader
  split
  · rfl
  · rw [Loader.load_interpret, exitStatus_of_lt (Command.status_lt w.launch _)]

end Program

end ScriptSearch
