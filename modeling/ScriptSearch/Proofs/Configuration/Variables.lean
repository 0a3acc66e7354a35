import Mathlib.Logic.Function.Basic
import ScriptSearch.Proofs.Configuration.Exits

/-! The variables that a set-up reads. `SOURCE_PATH` is read for the default path, `HOME` only
if `SOURCE_PATH` is not set, and `PATH` only if its directories are searched. What a variable
counts for when it is not set is another matter for each: a `HOME` that is not set counts as
empty, a `PATH` too but not without a warning, and a `SOURCE_PATH` that is empty is a list
without templates. -/

namespace ScriptSearch

/-- The world with a variable that has the value, or that is not set. -/
def World.withVariable (w : World) (name : String) (value : Option String) : World :=
  { w with lookup := Function.update w.lookup name value }

@[simp] theorem World.lookup_withVariable (w : World) (name : String) (value : Option String) :
    (w.withVariable name value).lookup name = value := by
  simp [withVariable]

@[simp] theorem World.lookup_withVariable_of_ne (w : World) {name v : String}
    (h : v ≠ name) (value : Option String) :
    (w.withVariable name value).lookup v = w.lookup v := by
  simp [withVariable, h]

namespace Resolver

variable {lookup other : Environment} {o : Options}

/-! ### The base -/

theorem basePath_of_listSet {list : String} (hd : o.defaultPath = true)
    (hl : lookup "SOURCE_PATH" = some list) :
    basePath lookup o = ⟨SearchPath.parse list, [.notice .listUsed]⟩ := by
  rw [basePath, if_pos hd, hl]
  rfl

theorem basePath_of_listUnset (hd : o.defaultPath = true) (hl : lookup "SOURCE_PATH" = none) :
    basePath lookup o = ⟨.ok (.ofHome ((lookup "HOME").getD "")), []⟩ := by
  rw [basePath, if_pos hd, hl]
  rfl

/-! ### Agreement -/

theorem basePath_congr_lookup
    (hlist : o.defaultPath = true → other "SOURCE_PATH" = lookup "SOURCE_PATH")
    (hhome : o.defaultPath = true → lookup "SOURCE_PATH" = none →
      (other "HOME").getD "" = (lookup "HOME").getD "") :
    basePath other o = basePath lookup o := by
  unfold basePath
  split
  next hd =>
    rw [hlist hd]
    cases hl : lookup "SOURCE_PATH" with
    | some list => rfl
    | none => rw [hhome hd hl]
  next => rfl

theorem addPathSearcher_congr (h : other "PATH" = lookup "PATH") (r : Resolver) :
    r.addPathSearcher other = r.addPathSearcher lookup := by
  rw [addPathSearcher, addPathSearcher, h]

/-- Environments with the same base are told apart by `PATH` at most, and only if its directories
are searched. -/
theorem configure_congr_lookup (hbase : basePath other o = basePath lookup o)
    (hpath : o.pathSearch = true → other "PATH" = lookup "PATH") (r : Resolver) :
    r.configure other o = r.configure lookup o := by
  simp only [configure, hbase]
  cases hp : o.pathSearch with
  | true => simp only [addPathSearcher_congr (hpath hp)]
  | false => rfl

/-! ### A variable that is empty -/

/-- Without `PATH` the set-up is that with an empty one, but for the warning. -/
theorem configure_of_pathUnset (hbase : basePath other o = basePath lookup o)
    (hunset : lookup "PATH" = none) (hempty : other "PATH" = some "") (hp : o.pathSearch = true)
    {r : Resolver} (h : (r.configure lookup o).value.error? = none) :
    (r.configure lookup o).value = (r.configure other o).value ∧
      ∃ before after, (r.configure lookup o).trace = before ++ .notice .pathUnset :: after ∧
        (r.configure other o).trace = before ++ after := by
  obtain ⟨base, more, hvalue, hreads, hunset'⟩ := configure_of_ok h
  have hempty' := configure_of_templates_ok r ((congrArg Traced.value hbase).trans hvalue)
    (SearchPath.appendTexts_of_reads hreads base)
  have hsearchers : addedSearchers other o = addedSearchers lookup o := by
    rw [addedSearchers, addedSearchers, hunset, hempty]
    rfl
  rw [hunset', hempty', hsearchers]
  refine ⟨rfl, (basePath lookup o).trace, (base ++ more).map fun t => .notice (.searchPath t),
    ?_, ?_⟩
  · simp [setupTrace, pathWarning, hp, hunset]
  · simp [setupTrace, pathWarning, hbase, hempty]

/-- A set-up that fails does not get as far as `PATH`. -/
theorem configure_of_error_congr (hbase : basePath other o = basePath lookup o) {r : Resolver}
    (h : (r.configure lookup o).value.error? ≠ none) :
    r.configure other o = r.configure lookup o := by
  cases hvalue : (basePath lookup o).value with
  | error e =>
    rw [configure_of_base_error r hvalue,
      configure_of_base_error r ((congrArg Traced.value hbase).trans hvalue), hbase]
  | ok base =>
    rcases happ : base.appendTexts o.templates with ⟨path, _ | e⟩
    · exact absurd (by rw [configure_of_templates_ok r hvalue happ]) h
    · rw [configure_of_templates_error r hvalue happ,
        configure_of_templates_error r ((congrArg Traced.value hbase).trans hvalue) happ, hbase]

/-- An empty `SOURCE_PATH` is the same to a set-up as no default path, and it is mentioned. -/
theorem configure_of_emptyList (hd : o.defaultPath = true) (hl : lookup "SOURCE_PATH" = some "")
    (r : Resolver) :
    r.configure lookup o =
      ⟨(r.configure lookup { o with defaultPath := false }).value,
        .notice .listUsed :: (r.configure lookup { o with defaultPath := false }).trace⟩ := by
  have hempty : basePath lookup o = ⟨.ok [], [.notice .listUsed]⟩ := basePath_of_listSet hd hl
  have hoff : basePath lookup { o with defaultPath := false } = ⟨.ok [], []⟩ := rfl
  ext1 <;> simp [configure, hempty, hoff]

end Resolver

end ScriptSearch
