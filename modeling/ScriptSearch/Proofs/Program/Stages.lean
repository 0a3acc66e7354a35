import ScriptSearch.Program
import ScriptSearch.Proofs.CommandLine.Reading

/-! The stages of a run. A command line that is accepted says nothing, and the run is the
loading under its options; a set-up that succeeds hands on to the search. -/

namespace ScriptSearch

namespace CommandLine

theorem Ending.trace_of_status?_none : ∀ {e : Ending}, e.status? = none → e.trace = []
  | .noMore, _ | .separator _, _ | .script _ _, _ => rfl

/-- An accepted command line is read without a word about it. -/
theorem parse_of_accepted {o o' : Options} {words : List String}
    (h : (parse o words).value = (none, o')) : parse o words = ⟨(none, o'), []⟩ := by
  have hparse := parse_of_writes (writes_ofWords words) o
  rw [hparse] at h ⊢
  have hstatus : (ofWords words).ending.status? = none := congrArg Prod.fst h
  rw [Ending.trace_of_status?_none hstatus]
  exact congrArg (Traced.mk · []) h

end CommandLine

namespace Program

variable {w : World}

/-- The words of a command line matter by what they are read as. -/
theorem run_congr {words words' : List String}
    (h : CommandLine.parse (initial w) words = CommandLine.parse (initial w) words') :
    run w words = run w words' := by
  simp only [run, h]

theorem exitStatus_of_lt {n : Nat} (h : n < 256) : exitStatus n = n := by
  unfold exitStatus
  omega

/-- A run is what is said of the command line and, if it is accepted, the loading. -/
theorem run_of_parse {words : List String} {status? : Option Nat} {o : Options} {t : Trace}
    (h : CommandLine.parse (initial w) words = ⟨(status?, o), t⟩) :
    run w words =
      match status? with
      | some status => { status, display := o.toDisplay, trace := t }
      | none =>
        { status := exitStatus (load w o).value, display := o.toDisplay
          trace := t ++ (load w o).trace } := by
  simp only [run, h]
  cases status? <;> rfl

theorem run_of_accepted {words : List String} {o : Options}
    (h : (CommandLine.parse (initial w) words).value = (none, o)) :
    run w words =
      { status := exitStatus (load w o).value, display := o.toDisplay
        trace := (load w o).trace } :=
  run_of_parse (CommandLine.parse_of_accepted h)

theorem load_of_configured {o : Options} {r : Resolver} {t : Trace}
    (h : (Resolver.ofSearchPath []).configure w.lookup o = ⟨{ resolver := r }, t⟩) :
    load w o =
      ⟨(r.source w (loader o) o.label o.args).value.status,
        t ++ (r.source w (loader o) o.label o.args).trace⟩ := by
  ext1 <;> simp [load, h]

end Program

end ScriptSearch
