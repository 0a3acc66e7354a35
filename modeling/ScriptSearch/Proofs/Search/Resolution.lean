import ScriptSearch.Proofs.Search.Chain

/-! Resolution by built-in searchers as one first match. However the searchers of a chain
are mixed, the resolver works through one list: the candidates of its searchers, chained.
It checks them in order up to the first that exists and resolves to that one; if none
exists, the failure lists them all, each under the label of its searcher. -/

namespace ScriptSearch.Resolver

open Searcher (checks reached search_eq value_search)

variable (present : String → Bool) (path : SearchPath) (name : String)

/-! ### Candidates of a chain -/

theorem candidates_cons (s : Searcher) (chain : List Searcher) :
    (⟨path, s :: chain⟩ : Resolver).candidates name =
      s.candidates path name ++ (⟨path, chain⟩ : Resolver).candidates name := rfl

theorem attempts_cons (s : Searcher) (chain : List Searcher) :
    (⟨path, s :: chain⟩ : Resolver).attempts name =
      (s.candidates path name).map (⟨s.label, ·⟩) ++
        (⟨path, chain⟩ : Resolver).attempts name := rfl

theorem map_path_attempts (r : Resolver) :
    (r.attempts name).map Attempt.path = r.candidates name := by
  simp [attempts, candidates, List.map_flatMap, Function.comp_def]

theorem find?_map_attempt (label : String) (candidates : List String) :
    (candidates.map (Attempt.mk label)).find? (fun a => present a.path) =
      (candidates.find? present).map (Attempt.mk label) := by
  rw [List.find?_map]
  rfl

/-- The first candidate that exists is the path of the first attempt that does not fail. -/
theorem find?_candidates (r : Resolver) :
    (r.candidates name).find? present =
      ((r.attempts name).find? fun a => present a.path).map Attempt.path := by
  rw [← map_path_attempts, List.find?_map]
  rfl

/-! ### Asking built-in searchers -/

theorem written_asking {s : Searcher} (hs : s.Builtin) :
    Trace.written (asking present path name s) =
      checks present (reached present (s.candidates path name)) := by
  rw [asking, Trace.written_cons, if_neg (by simp [Event.writes]), search_eq present hs]
  exact Searcher.written_checks present _

/-- What is said of the attempt that ends a search. -/
def resolvedNotice (found? : Option Attempt) : Trace :=
  match found? with
  | some a => [.notice (.resolved a.searcher name a.path)]
  | none => []

theorem quiet_resolvedNotice (found? : Option Attempt) :
    (resolvedNotice name found?).Quiet := by
  cases found? <;> simp [Trace.Quiet, resolvedNotice, Event.quiet, Notice.level]

/-- A chain of built-in searchers is a search of their candidates, one after another. -/
theorem ask_builtin (chain : List Searcher) (hc : ∀ s ∈ chain, s.Builtin)
    (before : List Attempt) :
    (ask present path name before chain).value =
        (match ((⟨path, chain⟩ : Resolver).attempts name).find? fun a => present a.path with
          | some a => .found a.path
          | none => .exhausted ⟨name, before ++ (⟨path, chain⟩ : Resolver).attempts name⟩) ∧
      (ask present path name before chain).trace.written =
        checks present (reached present ((⟨path, chain⟩ : Resolver).candidates name)) ++
          resolvedNotice name
            (((⟨path, chain⟩ : Resolver).attempts name).find? fun a => present a.path) := by
  -- The attempts made before grow with every searcher that finds nothing.
  induction chain generalizing before with
  | nil => simp [ask, attempts, candidates, checks, resolvedNotice]
  | cons s chain ih =>
    have hs : s.Builtin := hc s (by simp)
    rw [attempts_cons, candidates_cons, List.find?_append, find?_map_attempt]
    cases hf : (s.candidates path name).find? present with
    | some c =>
      have hv : (s.search present path name).value = .found c := by
        rw [value_search present hs, hf]
      rw [ask_cons_found present path name hv, Searcher.reached_append_of_some present hf]
      refine ⟨rfl, ?_⟩
      rw [Trace.written_append, written_asking present path name hs]
      rfl
    | none =>
      have hv : (s.search present path name).value = .missing (s.candidates path name) := by
        rw [value_search present hs, hf]
      have hfail : failures present path name s =
          (s.candidates path name).map (⟨s.label, ·⟩) := by
        rw [failures, hv]
        rfl
      obtain ⟨ihv, iht⟩ := ih (fun s' hs' => hc s' (by simp [hs']))
        (before ++ failures present path name s)
      rw [ask_cons_missing present path name hv, Searcher.reached_append_of_none present hf]
      constructor
      · rw [ihv, hfail, List.append_assoc, Option.map_none, Option.none_or]
      · rw [Trace.written_append, written_asking present path name hs, iht,
          Searcher.reached_of_none present hf]
        simp [checks, List.append_assoc]

/-! ### Resolution -/

theorem resolve_builtin_value (r : Resolver) (hr : ∀ s ∈ r.chain, s.Builtin) :
    (r.resolve present name).value =
      match (r.candidates name).find? present with
      | some c => .found c
      | none => .exhausted ⟨name, r.attempts name⟩ := by
  obtain ⟨hvalue, _⟩ := ask_builtin present r.searchPath name r.chain hr []
  rw [find?_candidates]
  refine hvalue.trans ?_
  cases (r.attempts name).find? fun a => present a.path <;> rfl

/-- Built-in searchers resolve a name to the first of all their candidates that exists, or
list all candidates under the labels of their searchers. The candidates up to that first
one are checked, each occurrence once, and the checks are what a verbose display shows,
followed by the searcher that found the script. -/
theorem resolve_builtin (r : Resolver) (hr : ∀ s ∈ r.chain, s.Builtin) :
    (r.resolve present name).value =
        (match (r.candidates name).find? present with
          | some c => .found c
          | none => .exhausted ⟨name, r.attempts name⟩) ∧
      (r.attempts name).map Attempt.path = r.candidates name ∧
      (r.resolve present name).trace.written =
        ((r.candidates name).take ((r.candidates name).findIdx present + 1)).map
            (fun c => .notice (.checked c (present c))) ++
          (match (r.attempts name).find? fun a => present a.path with
            | some a => [.notice (.resolved a.searcher name a.path)]
            | none => []) ∧
      ∀ colorize,
        (r.resolve present name).trace.stderr ⟨false, colorize⟩ = "" ∧
        (r.resolve present name).trace.stderr ⟨true, colorize⟩ =
          String.join
              (((r.candidates name).take ((r.candidates name).findIdx present + 1)).map fun c =>
                Level.info.line ⟨true, colorize⟩
                  ("checking " ++ Text.quoted c ++ ": " ++
                    if present c then "found" else "not found")) ++
            (match (r.attempts name).find? fun a => present a.path with
              | some a => (Notice.resolved a.searcher name a.path).line ⟨true, colorize⟩
              | none => "") := by
  have htrace := (ask_builtin present r.searchPath name r.chain hr []).2
  refine ⟨resolve_builtin_value present name r hr, map_path_attempts name r, htrace, ?_⟩
  · intro colorize
    have hshown : ∀ display, (r.resolve present name).trace.stderr display =
        Trace.stderr display (checks present (reached present (r.candidates name))) ++
          Trace.stderr display
            (resolvedNotice name ((r.attempts name).find? fun a => present a.path)) := by
      intro display
      rw [← Trace.stderr_written, ← Trace.stderr_append]
      exact congrArg _ htrace
    constructor
    · rw [hshown, (Searcher.quiet_checks present _).stderr rfl,
        (quiet_resolvedNotice name _).stderr rfl, String.empty_append]
    · rw [hshown, Searcher.stderr_checks]
      congr 1
      cases (r.attempts name).find? fun a => present a.path <;>
        simp [resolvedNotice, Event.stderr]

/-- Two templates searchers around one of directories: the name with a dot in front is
tried as it stands by both, and it is found in the second directory if it is there. -/
theorem resolve_builtin_mixed :
    let r : Resolver :=
      ⟨[⟨"./", ".sh"⟩], [.templates, .directories ["bin", "lib/"], .templates]⟩
    (∀ s ∈ r.chain, s.Builtin) ∧
      (r.resolve (· == "lib/.mod") ".mod").value = .found "lib/.mod" ∧
      (r.resolve (fun _ => false) ".mod").value =
        .exhausted ⟨".mod", [⟨"default", ".mod"⟩, ⟨"default", "./.mod.sh"⟩, ⟨"path", "bin/.mod"⟩,
          ⟨"path", "lib/.mod"⟩, ⟨"default", ".mod"⟩, ⟨"default", "./.mod.sh"⟩]⟩ := by
  intro r
  have hr : ∀ s ∈ r.chain, s.Builtin := by decide
  refine ⟨hr, ?_, ?_⟩
  · exact (resolve_builtin (· == "lib/.mod") ".mod" r hr).1.trans (by decide)
  · exact (resolve_builtin (fun _ => false) ".mod" r hr).1.trans (by decide)

end ScriptSearch.Resolver
