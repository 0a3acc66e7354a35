import Mathlib.Data.List.Basic
import ScriptSearch.Proofs.Dispatch

/-! Resolution as a function of what exists. A resolution learns about the paths that exist
through its checks alone, so two views of them that agree on the checked paths give the same
resolution, check by check. If more paths exist, a searcher that finds nothing found nothing
before: a name is then found at the same place of the chain or further to the front. -/

namespace ScriptSearch

/-- Two views of what exists agree on the paths that are checked in a trace. -/
def AgreeOnChecked (present present' : String → Bool) (t : Trace) : Prop :=
  ∀ path found, .notice (.checked path found) ∈ t → present' path = present path

theorem AgreeOnChecked.mono {present present' : String → Bool} {t u : Trace}
    (h : AgreeOnChecked present present' u) (htu : t ⊆ u) : AgreeOnChecked present present' t :=
  fun path found hmem => h path found (htu hmem)

namespace Searcher

variable {present present' : String → Bool} {path : SearchPath} {name : String}

/-! ### Views that agree -/

section Agreement

/-- The search of a list ends at the same place if the candidates up to there agree. -/
theorem reached_congr {candidates : List String}
    (h : ∀ c ∈ reached present candidates, present' c = present c) :
    reached present' candidates = reached present candidates ∧
      candidates.find? present' = candidates.find? present := by
  induction candidates with
  | nil => exact ⟨rfl, rfl⟩
  | cons c rest ih =>
    cases hc : present c with
    | true =>
      rw [reached_cons_of_present present hc] at h ⊢
      have hc' : present' c = true := (h c (by simp)).trans hc
      rw [reached_cons_of_present present' hc', List.find?_cons_of_pos hc',
        List.find?_cons_of_pos hc]
      exact ⟨rfl, rfl⟩
    | false =>
      rw [reached_cons_of_absent present hc] at h ⊢
      have hc' : present' c = false := (h c (by simp)).trans hc
      obtain ⟨hreached, hfind⟩ := ih fun c' hmem => h c' (List.mem_cons_of_mem _ hmem)
      rw [reached_cons_of_absent present' hc', List.find?_cons_of_neg (by simp [hc']),
        List.find?_cons_of_neg (by simp [hc]), hreached, hfind]
      exact ⟨rfl, rfl⟩

theorem checks_congr {candidates : List String}
    (h : ∀ c ∈ candidates, present' c = present c) :
    checks present' candidates = checks present candidates :=
  List.map_congr_left fun c hc => by rw [h c hc]

theorem search_congr {s : Searcher}
    (h : AgreeOnChecked present present' (s.search present path name).trace) :
    s.search present' path name = s.search present path name := by
  by_cases hs : s.Builtin
  · rw [search_eq present hs] at h ⊢
    have hreached : ∀ c ∈ reached present (s.candidates path name), present' c = present c :=
      fun c hc => h c (present c) (List.mem_map_of_mem hc)
    obtain ⟨hsame, hfind⟩ := reached_congr hreached
    rw [search_eq present' hs, answerAfter, hfind, hsame, checks_congr hreached]
    rfl
  · cases s with
    | registered label answer => rfl
    | templates | directories list => exact absurd trivial hs

end Agreement

/-! ### More paths -/

section Growth

theorem find?_of_search_found {s : Searcher} (hs : s.Builtin) {found : String}
    (h : (s.search present path name).value = .found found) :
    (s.candidates path name).find? present = some found := by
  rw [value_search present hs] at h
  cases hfind : (s.candidates path name).find? present with
  | some c => simpa [hfind] using h
  | none => simp [hfind] at h

theorem find?_of_search_missing {s : Searcher} (hs : s.Builtin) {tried : List String}
    (h : (s.search present path name).value = .missing tried) :
    (s.candidates path name).find? present = none ∧ s.candidates path name = tried := by
  rw [value_search present hs] at h
  cases hfind : (s.candidates path name).find? present with
  | some c => simp [hfind] at h
  | none => exact ⟨rfl, by simpa [hfind] using h⟩

variable (hmore : ∀ path, present path = true → present' path = true)
include hmore

/-- What is missing among more paths was missing before, after the same attempts. -/
theorem search_missing_mono {s : Searcher} {tried : List String}
    (h : (s.search present' path name).value = .missing tried) :
    (s.search present path name).value = .missing tried := by
  by_cases hs : s.Builtin
  · obtain ⟨hnone, htried⟩ := find?_of_search_missing hs h
    have hnone' : (s.candidates path name).find? present = none := by
      rw [List.find?_eq_none] at hnone ⊢
      exact fun c hc hp => hnone c hc (hmore c hp)
    rw [value_search present hs, hnone', htried]
  · cases s with
    | registered label answer => exact h
    | templates | directories list => exact absurd trivial hs

/-- The candidate found among more paths is the same or an earlier one. -/
theorem candidates_mono {s : Searcher} (hs : s.Builtin) {found found' : String}
    (h : (s.search present path name).value = .found found)
    (h' : (s.search present' path name).value = .found found') :
    (s.candidates path name).findIdx present' ≤ (s.candidates path name).findIdx present ∧
      (s.candidates path name)[(s.candidates path name).findIdx present]? = some found ∧
      (s.candidates path name)[(s.candidates path name).findIdx present']? = some found' := by
  refine ⟨List.findIdx_le_findIdx fun c _ => hmore c, ?_, ?_⟩
  · rw [← List.find?_eq_getElem?_findIdx]
    exact find?_of_search_found hs h
  · rw [← List.find?_eq_getElem?_findIdx]
    exact find?_of_search_found hs h'

end Growth

end Searcher

namespace Resolver

variable {present present' : String → Bool} {r : Resolver} {path : SearchPath} {name : String}

/-! ### Chains -/

theorem asking_congr {s : Searcher}
    (h : s.search present' path name = s.search present path name) :
    asking present' path name s = asking present path name s := by
  rw [asking, asking, h]

theorem failures_congr {s : Searcher}
    (h : (s.search present' path name).value = (s.search present path name).value) :
    failures present' path name s = failures present path name s := by
  rw [failures, failures, h]

/-- Each searcher is asked in both runs or in neither, since the one before it has given the
same answer. -/
theorem ask_congr {chain : List Searcher} {before : List Attempt}
    (h : AgreeOnChecked present present' (ask present path name before chain).trace) :
    ask present' path name before chain = ask present path name before chain := by
  induction chain generalizing before with
  | nil => rfl
  | cons s rest ih =>
    cases hv : (s.search present path name).value with
    | found found =>
      rw [ask_cons_found present path name hv] at h ⊢
      have hs : s.search present' path name = s.search present path name :=
        Searcher.search_congr (h.mono (by simp [asking]))
      rw [ask_cons_found present' path name ((congrArg Traced.value hs).trans hv),
        asking_congr hs]
    | missing tried =>
      rw [ask_cons_missing present path name hv] at h ⊢
      have hs : s.search present' path name = s.search present path name :=
        Searcher.search_congr (h.mono (by simp [asking]))
      rw [ask_cons_missing present' path name ((congrArg Traced.value hs).trans hv),
        asking_congr hs, failures_congr (congrArg Traced.value hs),
        ih (h.mono (List.subset_append_right _ _))]

theorem resolve_congr
    (h : AgreeOnChecked present present' (r.resolve present name).trace) :
    r.resolve present' name = r.resolve present name :=
  ask_congr h

theorem resolve_found_iff {found : String} :
    (r.resolve present name).value = .found found ↔
      ∃ k s, r.FirstFinder present name k s found := by
  constructor
  · intro h
    rcases FirstFinder.exists_or_missing present r name with ⟨k, s, found', hf⟩ | hmissing
    · rw [hf.resolve_eq] at h
      obtain rfl : found' = found := by simpa using h
      exact ⟨k, s, hf⟩
    · rw [resolve, ask_of_missing present r.searchPath name r.chain hmissing] at h
      cases h
  · rintro ⟨k, s, hf⟩
    rw [hf.resolve_eq]

theorem missing_of_exhausted {e : Exhausted} (h : (r.resolve present name).value = .exhausted e) :
    ∀ s ∈ r.chain, ∃ tried, (s.search present r.searchPath name).value = .missing tried := by
  rcases FirstFinder.exists_or_missing present r name with ⟨k, s, found, hf⟩ | hmissing
  · rw [hf.resolve_eq] at h
    cases h
  · exact hmissing

section Growth

variable (hmore : ∀ path, present path = true → present' path = true)
include hmore

theorem resolve_exhausted_mono {e : Exhausted}
    (h : (r.resolve present' name).value = .exhausted e) :
    (r.resolve present name).value = .exhausted e := by
  have hmissing' := missing_of_exhausted h
  have hmissing : ∀ s ∈ r.chain,
      ∃ tried, (s.search present r.searchPath name).value = .missing tried :=
    fun s hs => (hmissing' s hs).imp fun _ => Searcher.search_missing_mono hmore
  have hfailures : r.chain.flatMap (failures present r.searchPath name) =
      r.chain.flatMap (failures present' r.searchPath name) := by
    refine List.flatMap_congr fun s hs => failures_congr ?_
    obtain ⟨tried, ht⟩ := hmissing' s hs
    rw [ht, Searcher.search_missing_mono hmore ht]
  rw [resolve, ask_of_missing present' r.searchPath name r.chain hmissing'] at h
  rw [resolve, ask_of_missing present r.searchPath name r.chain hmissing, ← h, hfailures]

/-- Among more paths the first finder stands at most as far back. -/
theorem FirstFinder.exists_le {k : Nat} {s : Searcher} {found : String}
    (h : r.FirstFinder present name k s found) :
    ∃ j s' found', j ≤ k ∧ r.FirstFinder present' name j s' found' := by
  -- The searcher at `k` cannot miss the name, so no later one is the first finder.
  have hfinds : ∀ tried, (s.search present' r.searchPath name).value ≠ .missing tried := by
    intro tried htried
    have := h.finds.symm.trans (Searcher.search_missing_mono hmore htried)
    cases this
  rcases FirstFinder.exists_or_missing present' r name with ⟨j, s', found', hf⟩ | hmissing
  · refine ⟨j, s', found', ?_, hf⟩
    by_contra hjk
    obtain ⟨tried, htried⟩ := hf.earlier k (by omega) s h.at_position
    exact hfinds tried htried
  · obtain ⟨tried, htried⟩ := hmissing s (List.mem_of_getElem? h.at_position)
    exact absurd htried (hfinds tried)

end Growth

/-! ### Resolutions of one name -/

/-- A resolution depends on what it checks: where two views of what exists agree on the
checked paths, it has the same result and makes the same checks. If all that exists in one
view exists in the other, what is exhausted in the second is exhausted in the first, with
the same attempts, and a name found at a position of the chain is found there or further to
the front; if it is found by the same built-in searcher, then as the same or an earlier one
of its candidates. -/
theorem resolve_presence (r : Resolver) (name : String) (present present' : String → Bool) :
    (∀ found, (r.resolve present name).value = .found found ↔
      ∃ k s, r.FirstFinder present name k s found) ∧
    (AgreeOnChecked present present' (r.resolve present name).trace →
      r.resolve present' name = r.resolve present name) ∧
    ((∀ path, present path = true → present' path = true) →
      (∀ e, (r.resolve present' name).value = .exhausted e →
        (r.resolve present name).value = .exhausted e) ∧
      ∀ k s found, r.FirstFinder present name k s found →
        ∃ j s' found', j ≤ k ∧ r.FirstFinder present' name j s' found' ∧
          (r.resolve present' name).value = .found found' ∧
          (j = k → s' = s ∧ (s.Builtin →
            let candidates := s.candidates r.searchPath name
            candidates.findIdx present' ≤ candidates.findIdx present ∧
            candidates[candidates.findIdx present]? = some found ∧
            candidates[candidates.findIdx present']? = some found'))) := by
  refine ⟨fun found => resolve_found_iff, resolve_congr, fun hmore => ⟨?_, ?_⟩⟩
  · intro e he
    exact resolve_exhausted_mono hmore he
  · intro k s found hf
    obtain ⟨j, s', found', hjk, hf'⟩ := hf.exists_le hmore
    refine ⟨j, s', found', hjk, hf', resolve_found_iff.mpr ⟨j, s', hf'⟩, ?_⟩
    intro hj
    have hs : s' = s := by
      have := hf'.at_position.symm.trans (hj ▸ hf.at_position)
      simpa using this
    subst hs
    exact ⟨rfl, fun hbuiltin => Searcher.candidates_mono hmore hbuiltin hf.finds hf'.finds⟩

/-- The first of two equal templates has a file once `b/m` is there too; the name was found by
the searcher behind, in spite of a registered one between them. -/
theorem resolve_presence_repeated :
    let r : Resolver := ⟨[⟨"b/", ""⟩, ⟨"b/", ""⟩],
      [.templates, .registered "a" fun name => .missing ["x/" ++ name], .directories ["c", "c/"]]⟩
    let present : String → Bool := (· == "c/m")
    let present' : String → Bool := fun path => path == "c/m" || path == "b/m"
    AgreeOnChecked present (fun path => path == "c/m" || path == "z")
        (r.resolve present "m").trace ∧
      r.resolve (fun path => path == "c/m" || path == "z") "m" = r.resolve present "m" ∧
      (∀ path, present path = true → present' path = true) ∧
      r.FirstFinder present "m" 2 (.directories ["c", "c/"]) "c/m" ∧
      ∃ j s found, j ≤ 2 ∧ r.FirstFinder present' "m" j s found := by
  intro r present present'
  have hagree : AgreeOnChecked present (fun path => path == "c/m" || path == "z")
      (r.resolve present "m").trace := by
    intro path found h
    have htrace : (r.resolve present "m").trace =
        [.asked .templates "m", .notice (.checked "b/m" false), .notice (.checked "b/m" false),
          .asked (.registered "a") "m", .asked .directories "m", .notice (.checked "c/m" true),
          .notice (.resolved "path" "m" "c/m")] := by decide
    rw [htrace] at h
    rcases (by simpa using h : path = "b/m" ∧ found = false ∨ path = "c/m" ∧ found = true) with
      ⟨rfl, -⟩ | ⟨rfl, -⟩ <;> decide
  have hmore : ∀ path, present path = true → present' path = true := by
    intro path h
    exact Bool.or_eq_true_iff.mpr (.inl h)
  have hf : r.FirstFinder present "m" 2 (.directories ["c", "c/"]) "c/m" := by
    refine ⟨rfl, by decide, ?_⟩
    intro j hj s hs
    obtain rfl | rfl : j = 0 ∨ j = 1 := by omega
    · obtain rfl : .templates = s := by simpa [r] using hs
      exact ⟨["b/m", "b/m"], by decide⟩
    · obtain rfl := Option.some.inj hs
      exact ⟨["x/m"], rfl⟩
  refine ⟨hagree, (resolve_presence r "m" _ _).2.1 hagree, hmore, hf, ?_⟩
  obtain ⟨j, s, found, hj, hf', _⟩ :=
    ((resolve_presence r "m" present present').2.2 hmore).2 2 _ "c/m" hf
  exact ⟨j, s, found, hj, hf'⟩

end Resolver

end ScriptSearch
