import Mathlib.Tactic.Common
import ScriptSearch.Dispatch
import ScriptSearch.Proofs.Search.Chain

/-! Requests for a script, with the record of all calls. Without a name nothing is called.
With one, the searchers are asked up to the first that finds it, then the loader gets the
path and the arguments behind the name; its status is the status of the request. If no
searcher finds the name, no loader is called, and the attempts of all searchers are
reported. -/

namespace ScriptSearch.Resolver

variable (w : World) (r : Resolver) (loader : Loader)

/-! ### One request -/

theorem dispatch_nameMissing {args : List String} (h : args.headD "" = "") :
    r.dispatch w loader args = ⟨.nameMissing, []⟩ := by
  cases args with
  | nil => rfl
  | cons name rest =>
    have hn : name = "" := h
    rw [hn]
    rfl

theorem dispatch_of_found {name found : String} {t : Trace} (hn : name ≠ "")
    (h : r.resolve w.present name = ⟨.found found, t⟩) (rest : List String) :
    r.dispatch w loader (name :: rest) =
      ⟨.loaded (loader.load w.launch found rest).value,
        t ++ [.notice (.loading found), .handed found rest] ++
          (loader.load w.launch found rest).trace⟩ := by
  ext1 <;> simp [dispatch, hn, h]

theorem dispatch_of_exhausted {name : String} {e : Exhausted} {t : Trace} (hn : name ≠ "")
    (h : r.resolve w.present name = ⟨.exhausted e, t⟩) (rest : List String) :
    r.dispatch w loader (name :: rest) = ⟨.exhausted e, t⟩ := by
  ext1 <;> simp [dispatch, hn, h]

section Source

variable {w r loader} {args : List String} {t : Trace} (label : String)

theorem source_of_loaded {status : Int} (h : r.dispatch w loader args = ⟨.loaded status, t⟩) :
    r.source w loader label args = ⟨.returned status, t⟩ := by
  ext1 <;> simp [source, h]

theorem source_of_nameMissing (h : r.dispatch w loader args = ⟨.nameMissing, t⟩) :
    r.source w loader label args =
      ⟨.returned usageStatus, t ++ [.report (.nameMissing label)]⟩ := by
  ext1 <;> simp [source, h]

theorem source_of_exhausted {e : Exhausted}
    (h : r.dispatch w loader args = ⟨.exhausted e, t⟩) :
    r.source w loader label args =
      ⟨.exited notFoundStatus, t ++ [.report (.notFound label e)]⟩ := by
  ext1 <;> simp [source, h]

end Source

/-! ### The searcher that finds the name -/

/-- The searcher at a position answers with a path, and none of those before it does. -/
structure FirstFinder (present : String → Bool) (r : Resolver) (name : String) (k : Nat)
    (s : Searcher) (found : String) : Prop where
  at_position : r.chain[k]? = some s
  finds : (s.search present r.searchPath name).value = .found found
  earlier : ∀ j < k, ∀ s', r.chain[j]? = some s' →
    ∃ tried, (s'.search present r.searchPath name).value = .missing tried

namespace FirstFinder

variable {present : String → Bool} {r : Resolver} {name : String} {k : Nat} {s : Searcher}
  {found : String}

theorem take_succ (h : FirstFinder present r name k s found) :
    r.chain.take (k + 1) = r.chain.take k ++ [s] := by
  rw [List.take_add_one, h.at_position]
  rfl

theorem chain_eq (h : FirstFinder present r name k s found) :
    r.chain = r.chain.take k ++ s :: r.chain.drop (k + 1) := by
  conv_lhs => rw [← List.take_append_drop (k + 1) r.chain, h.take_succ, List.append_assoc]
  rfl

theorem missing_of_mem_take (h : FirstFinder present r name k s found) :
    ∀ s' ∈ r.chain.take k,
      ∃ tried, (s'.search present r.searchPath name).value = .missing tried := by
  intro s' hs'
  obtain ⟨j, hj⟩ := List.mem_iff_getElem?.mp hs'
  have hjk : j < k := by
    have hlt := (List.getElem?_eq_some_iff.mp hj).1
    rw [List.length_take] at hlt
    omega
  exact h.earlier j hjk s' (by rwa [List.getElem?_take_of_lt hjk] at hj)

/-- The searchers up to the first finder are asked, and no other. -/
theorem resolve_eq (h : FirstFinder present r name k s found) :
    r.resolve present name =
      ⟨.found found, (r.chain.take (k + 1)).flatMap (asking present r.searchPath name) ++
        [.notice (.resolved s.label name found)]⟩ := by
  have hask := ask_of_found present r.searchPath name (r.chain.take k) s (r.chain.drop (k + 1))
    h.missing_of_mem_take h.finds
  rw [← h.chain_eq, ← h.take_succ] at hask
  exact hask

/-- Either some searcher is the first finder or none finds the name. -/
theorem exists_or_missing (present : String → Bool) (r : Resolver) (name : String) :
    (∃ k s found, FirstFinder present r name k s found) ∨
      ∀ s ∈ r.chain, ∃ tried, (s.search present r.searchPath name).value = .missing tried := by
  obtain ⟨path, chain⟩ := r
  induction chain with
  | nil => right; simp
  | cons s chain ih =>
    cases hs : (s.search present path name).value with
    | found found => exact .inl ⟨0, s, found, rfl, hs, by omega⟩
    | missing tried =>
      rcases ih with ⟨k, s', found, hk, hfind, hearlier⟩ | hmissing
      · refine .inl ⟨k + 1, s', found, by simpa using hk, hfind, ?_⟩
        intro j hj s'' hs''
        cases j with
        | zero =>
          obtain rfl : s = s'' := by simpa using hs''
          exact ⟨tried, hs⟩
        | succ j => exact hearlier j (by omega) s'' (by simpa using hs'')
      · right
        intro s' hs'
        rcases List.mem_cons.mp hs' with rfl | hs'
        · exact ⟨tried, hs⟩
        · exact hmissing s' hs'

end FirstFinder

/-! ### Calls and outcome -/

/-- Without a name nothing is called. With a name, the searchers up to the first finder are
asked for it in order, once each, and the loader is then called once with the path and the
arguments behind the name; or all searchers are asked, and their attempts are the outcome.
A report adds nothing when a script is loaded and its own text otherwise. -/
theorem dispatch_calls (w : World) (r : Resolver) (loader : Loader) (label : String) :
    (∀ args : List String, args = [] ∨ args.head? = some "" →
      r.dispatch w loader args = ⟨.nameMissing, []⟩ ∧
      r.source w loader label args = ⟨.returned 2, [.report (.nameMissing label)]⟩ ∧
      (r.source w loader label args).trace.stdout = "" ∧
      ∀ display, (r.source w loader label args).trace.stderr display =
        label ++ ": error: script name is required\n") ∧
    (∀ (name : String) (rest : List String) (k : Nat) (s : Searcher) (found : String),
      name ≠ "" → r.FirstFinder w.present name k s found →
      let asked : Trace := (r.chain.take (k + 1)).flatMap fun s =>
        .asked s.kind name :: (s.search w.present r.searchPath name).trace
      let loaded := loader.load w.launch found rest
      let trace := asked ++
        [.notice (.resolved s.label name found), .notice (.loading found), .handed found rest] ++
          loaded.trace
      r.dispatch w loader (name :: rest) = ⟨.loaded loaded.value, trace⟩ ∧
      r.source w loader label (name :: rest) = ⟨.returned loaded.value, trace⟩ ∧
      trace.stdout = loaded.trace.stdout ∧
      ∀ display, display.verbose = false → trace.stderr display = loaded.trace.stderr display) ∧
    (∀ (name : String) (rest : List String), name ≠ "" →
      (∀ s ∈ r.chain, ∃ tried, (s.search w.present r.searchPath name).value = .missing tried) →
      let asked : Trace := r.chain.flatMap fun s =>
        .asked s.kind name :: (s.search w.present r.searchPath name).trace
      let e : Exhausted := ⟨name, r.chain.flatMap fun s =>
        (s.search w.present r.searchPath name).value.attempted.map (⟨s.label, ·⟩)⟩
      r.dispatch w loader (name :: rest) = ⟨.exhausted e, asked⟩ ∧
      r.source w loader label (name :: rest) =
        ⟨.exited 1, asked ++ [.report (.notFound label e)]⟩ ∧
      (r.source w loader label (name :: rest)).trace.stdout = "" ∧
      ∀ display, display.verbose = false →
        (r.source w loader label (name :: rest)).trace.stderr display =
          label ++ ": error: no script called '" ++ name ++ "'\n" ++
            String.join (e.attempts.map fun a => "\tno file '" ++ a.path ++ "'\n")) ∧
    ∀ name, (∃ k s found, r.FirstFinder w.present name k s found) ∨
      ∀ s ∈ r.chain, ∃ tried, (s.search w.present r.searchPath name).value = .missing tried := by
  refine ⟨?_, ?_, ?_, FirstFinder.exists_or_missing w.present r⟩
  · intro args hargs
    have h : args.headD "" = "" := by
      rcases hargs with rfl | h
      · rfl
      · simp [List.headD_eq_head?_getD, h]
    have hd := r.dispatch_nameMissing w loader h
    have hs := source_of_nameMissing label hd
    refine ⟨hd, hs, ?_, ?_⟩
    · rw [hs]
      rfl
    · intro display
      rw [hs]
      simp [Event.stderr, Report.text]
  · intro name rest k s found hn hf asked loaded trace
    have hd : r.dispatch w loader (name :: rest) = ⟨.loaded loaded.value, trace⟩ := by
      rw [dispatch_of_found w r loader hn hf.resolve_eq]
      simp only [trace, List.append_assoc]
      rfl
    have hquiet : Trace.Quiet (asked ++
        [.notice (.resolved s.label name found), .notice (.loading found),
          .handed found rest]) :=
      Trace.Quiet.append (Trace.Quiet.flatMap fun s _ => quiet_asking w.present _ name s)
        (by simp [Trace.Quiet, Event.quiet, Notice.level])
    refine ⟨hd, source_of_loaded label hd, ?_, ?_⟩
    · rw [Trace.stdout_append, hquiet.stdout, String.empty_append]
    · intro display hv
      rw [Trace.stderr_append, hquiet.stderr hv, String.empty_append]
  · intro name rest hn hm asked e
    have hd : r.dispatch w loader (name :: rest) = ⟨.exhausted e, asked⟩ :=
      dispatch_of_exhausted w r loader hn
        (ask_of_missing w.present r.searchPath name r.chain hm) rest
    have hs := source_of_exhausted label hd
    have hquiet : asked.Quiet := Trace.Quiet.flatMap fun s _ => quiet_asking w.present _ name s
    refine ⟨hd, hs, ?_, ?_⟩
    · rw [hs, Trace.stdout_append, hquiet.stdout]
      rfl
    · intro display hv
      rw [hs, Trace.stderr_append, hquiet.stderr hv, String.empty_append]
      simp [Event.stderr, Report.text]
      rfl

/-- Of two searchers under one label the second finds the script. Both are asked, a third
is not, and the loader gets the arguments with their look-alikes of options. -/
theorem dispatch_calls_repeated_label :
    let w : World := ⟨fun _ => false, fun _ => none, fun _ => .ok ⟨.error .noEntry, none⟩, false⟩
    let first := Searcher.registered "a" fun name => .missing ["x/" ++ name]
    let second := Searcher.registered "a" fun name => .found ("lib/" ++ name)
    let r : Resolver := ⟨[], [first, second, .registered "b" fun _ => .found "y"]⟩
    let loader := Loader.call fun _ args => pure args.length
    "m" ≠ "" ∧ r.FirstFinder w.present "m" 1 second "lib/m" ∧
      r.dispatch w loader ["m", "--", "-h"] =
        ⟨.loaded 2, [.asked (.registered "a") "m", .asked (.registered "a") "m",
          .notice (.resolved "a" "m" "lib/m"), .notice (.loading "lib/m"),
          .handed "lib/m" ["--", "-h"]]⟩ := by
  intro w first second r loader
  have hn : "m" ≠ "" := by decide
  have hf : r.FirstFinder w.present "m" 1 second "lib/m" := by
    refine ⟨rfl, rfl, ?_⟩
    intro j hj s hs
    obtain rfl : j = 0 := by omega
    obtain rfl : first = s := by simpa [r] using hs
    exact ⟨["x/m"], rfl⟩
  obtain ⟨_, hloaded, _⟩ := dispatch_calls w r loader "source"
  exact ⟨hn, hf, (hloaded "m" ["--", "-h"] 1 second "lib/m" hn hf).1⟩

end ScriptSearch.Resolver
