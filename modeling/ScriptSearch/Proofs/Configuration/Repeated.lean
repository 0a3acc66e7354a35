import ScriptSearch.Proofs.Configuration
import ScriptSearch.Proofs.Search.Chain

/-! Setting up a resolver a second time. The search path is built anew from the same texts,
so it comes out the same. Only the chain can grow, by a copy of the searcher that it has at
its end; such a copy finds nothing that the first did not find, and in a failure it repeats
what the first has tried. -/

namespace ScriptSearch.Resolver

/-! ### A searcher that is added twice -/

section Again

variable (present : String → Bool) (name : String) (r : Resolver) (s : Searcher)

theorem value_resolve_add :
    ((r.add s).resolve present name).value =
      match (r.resolve present name).value with
      | .found found => .found found
      | .exhausted e => (ask present r.searchPath name e.attempts [s]).value :=
  value_ask_append present r.searchPath name r.chain [s] []

/-- What fails with a searcher at the end of the chain has failed with that searcher last. -/
theorem exhausted_of_add {e : Exhausted}
    (h : ((r.add s).resolve present name).value = .exhausted e) :
    ∃ before tried, (s.search present r.searchPath name).value = .missing tried ∧
      e = ⟨name, before ++ tried.map (⟨s.label, ·⟩)⟩ := by
  rw [value_resolve_add] at h
  cases hr : (r.resolve present name).value with
  | found found => simp [hr] at h
  | exhausted e' =>
    simp only [hr, value_ask_singleton] at h
    cases hs : (s.search present r.searchPath name).value with
    | found found => simp [hs] at h
    | missing tried =>
      simp only [hs, failures, Answer.attempted, Resolution.exhausted.injEq] at h
      exact ⟨e'.attempts, tried, rfl, h.symm⟩

/-- The second of two equal searchers at the end never wins, and fails as the first did. -/
theorem resolve_add_again :
    (∀ found, ((r.add s).resolve present name).value = .found found ↔
      (((r.add s).add s).resolve present name).value = .found found) ∧
    ∀ e, ((r.add s).resolve present name).value = .exhausted e →
      ∃ before tried, (s.search present r.searchPath name).value = .missing tried ∧
        e = ⟨name, before ++ tried.map (⟨s.label, ·⟩)⟩ ∧
        (((r.add s).add s).resolve present name).value =
          .exhausted ⟨name, e.attempts ++ tried.map (⟨s.label, ·⟩)⟩ := by
  have hagain := value_resolve_add present name (r.add s) s
  cases hr : ((r.add s).resolve present name).value with
  | found found =>
    rw [hr] at hagain
    exact ⟨fun found' => by rw [hagain], fun e he => by cases he⟩
  | exhausted e =>
    obtain ⟨before, tried, hs, he⟩ := exhausted_of_add present name r s hr
    have hfails : (((r.add s).add s).resolve present name).value =
        .exhausted ⟨name, e.attempts ++ tried.map (⟨s.label, ·⟩)⟩ := by
      have hs' : (s.search present (r.add s).searchPath name).value = .missing tried := hs
      rw [hagain, hr]
      simp only [value_ask_singleton, hs', failures, Answer.attempted]
    refine ⟨fun found => ?_, fun e' he' => ?_⟩
    · simp [hfails]
    · obtain rfl : e = e' := Resolution.exhausted.inj he'
      exact ⟨before, tried, hs, he, hfails⟩

end Again

/-- A directories searcher that finds nothing has tried all its candidates. -/
theorem tried_of_directories {present : String → Bool} {path : SearchPath} {name : String}
    {list tried : List String}
    (h : ((Searcher.directories list).search present path name).value = .missing tried) :
    tried = Searcher.directoryCandidates list name := by
  rw [Searcher.search_eq present (s := .directories list) trivial] at h
  simp only [Searcher.answerAfter, Searcher.candidates, List.nil_append] at h
  split at h
  · cases h
  · exact (Answer.missing.inj h).symm

/-! ### The second set-up -/

/-- A second set-up with the same options and variables ends as the first did and leaves the
same search path. The resolver is then the same too, unless both succeed and are asked to
search `PATH`: its chain then ends with two equal searchers. Every name is found where it was
found before, and a failure lists what the searcher for `PATH` has tried once more. -/
theorem configure_again (lookup : Environment) (o : Options) (r : Resolver) :
    let first := (r.configure lookup o).value
    let second := (first.resolver.configure lookup o).value
    let r₁ := first.resolver
    let r₂ := second.resolver
    let directories := Text.elements ((lookup "PATH").getD "")
    second.error? = first.error? ∧ r₂.searchPath = r₁.searchPath ∧
    (first.error? ≠ none ∨ o.pathSearch = false → r₂ = r₁) ∧
    (first.error? = none → o.pathSearch = true →
      r₁.chain = r.chain ++ [.directories directories] ∧
      r₂.chain = r₁.chain ++ [.directories directories] ∧
      ∀ present name,
        (∀ found, (r₁.resolve present name).value = .found found ↔
          (r₂.resolve present name).value = .found found) ∧
        ∀ e, (r₁.resolve present name).value = .exhausted e →
          let tried := (Searcher.directoryCandidates directories name).map (Attempt.mk "path")
          (∃ before, e = ⟨name, before ++ tried⟩) ∧
          (r₂.resolve present name).value = .exhausted ⟨name, e.attempts ++ tried⟩) := by
  intro first second r₁ r₂ directories
  obtain ⟨path, error?, t, hconfigure⟩ := configure_uniform lookup o
  have hfirst : first = _ := congrArg Traced.value (hconfigure r)
  have hsecond : second = _ := congrArg Traced.value (hconfigure first.resolver)
  simp only [r₁, r₂, hsecond, hfirst, true_and]
  refine ⟨?_, ?_⟩
  · rintro (herror | hsearch)
    · have hsome : error?.isSome := Option.isSome_iff_ne_none.mpr herror
      simp [hsome]
    · simp [addedSearchers, hsearch]
  · rintro rfl hsearch
    have hadded : addedSearchers lookup o = [.directories directories] := if_pos hsearch
    simp only [Option.isSome_none, Bool.false_eq_true, if_false, hadded, true_and]
    intro present name
    obtain ⟨hfound, hexhausted⟩ :=
      resolve_add_again present name ⟨path, r.chain⟩ (.directories directories)
    refine ⟨hfound, fun e he => ?_⟩
    obtain ⟨before, tried, hs, hbefore, hfails⟩ := hexhausted e he
    obtain rfl := tried_of_directories hs
    exact ⟨⟨before, hbefore⟩, hfails⟩

/-- A template of the options and the directories of `PATH`, behind a searcher that is
registered: set up twice, the failure ends with both candidates under `/bin` and `/opt` twice. -/
theorem configure_again_searches_path :
    let lookup : Environment := fun v => if v = "PATH" then some "/bin:/opt" else none
    let o : Options := { templates := ["lib/%s"], defaultPath := false, pathSearch := true }
    let r : Resolver := ⟨[⟨"old/", ""⟩], [.registered "mine" fun _ => .missing ["x"], .templates]⟩
    let r₁ := (r.configure lookup o).value.resolver
    let r₂ := (r₁.configure lookup o).value.resolver
    r₂.searchPath = r₁.searchPath ∧
      (r₁.resolve (fun _ => false) "m").value = .exhausted ⟨"m",
        [⟨"mine", "x"⟩, ⟨"default", "lib/m"⟩, ⟨"path", "/bin/m"⟩, ⟨"path", "/opt/m"⟩]⟩ ∧
      (r₂.resolve (fun _ => false) "m").value = .exhausted ⟨"m",
        [⟨"mine", "x"⟩, ⟨"default", "lib/m"⟩, ⟨"path", "/bin/m"⟩, ⟨"path", "/opt/m"⟩,
          ⟨"path", "/bin/m"⟩, ⟨"path", "/opt/m"⟩]⟩ := by
  intro lookup o r r₁ r₂
  obtain ⟨_, hpath, _, hagain⟩ := configure_again lookup o r
  obtain ⟨_, _, hresolve⟩ := hagain rfl rfl
  have hfirst : (r₁.resolve (fun _ => false) "m").value = .exhausted ⟨"m",
      [⟨"mine", "x"⟩, ⟨"default", "lib/m"⟩, ⟨"path", "/bin/m"⟩, ⟨"path", "/opt/m"⟩]⟩ := by
    decide
  exact ⟨hpath, hfirst, ((hresolve (fun _ => false) "m").2 _ hfirst).2.trans (by decide)⟩

end ScriptSearch.Resolver
