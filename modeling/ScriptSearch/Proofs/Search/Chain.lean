import ScriptSearch.Proofs.Search.FirstMatch

/-! Chains of searchers. Asking a searcher leaves the record of the call and whatever the
searcher itself does; the chain stops behind the first searcher that finds the name, and
the attempts of those before it are forgotten. If none finds it, the attempts of all are
listed in the order of the chain. -/

namespace ScriptSearch

/-- The paths that an answer lists as tried. -/
def Answer.attempted : Answer → List String
  | found _ => []
  | missing attempted => attempted

namespace Resolver

variable (present : String → Bool) (path : SearchPath) (name : String)

/-- What is done when a searcher is asked. -/
def asking (s : Searcher) : Trace :=
  .asked s.kind name :: (s.search present path name).trace

/-- What a searcher tried in vain, under its label. -/
def failures (s : Searcher) : List Attempt :=
  (s.search present path name).value.attempted.map (⟨s.label, ·⟩)

/-! ### One searcher -/

theorem ask_cons_found {s : Searcher} {found : String}
    (h : (s.search present path name).value = .found found) (before : List Attempt)
    (rest : List Searcher) :
    ask present path name before (s :: rest) =
      ⟨.found found, asking present path name s ++ [.notice (.resolved s.label name found)]⟩ := by
  ext1 <;> simp [ask, asking, h]

theorem ask_cons_missing {s : Searcher} {tried : List String}
    (h : (s.search present path name).value = .missing tried) (before : List Attempt)
    (rest : List Searcher) :
    ask present path name before (s :: rest) =
      ⟨(ask present path name (before ++ failures present path name s) rest).value,
        asking present path name s ++
          (ask present path name (before ++ failures present path name s) rest).trace⟩ := by
  ext1 <;> simp [ask, asking, failures, h, Answer.attempted]

/-! ### Whole chains -/

/-- The searchers that find nothing are asked one after another, and what they tried is
added up for those that follow. -/
theorem ask_append_missing (first rest : List Searcher) (before : List Attempt)
    (h : ∀ s ∈ first, ∃ tried, (s.search present path name).value = .missing tried) :
    ask present path name before (first ++ rest) =
      ⟨(ask present path name (before ++ first.flatMap (failures present path name)) rest).value,
        first.flatMap (asking present path name) ++
          (ask present path name
            (before ++ first.flatMap (failures present path name)) rest).trace⟩ := by
  induction first generalizing before with
  | nil => simp
  | cons s first ih =>
    obtain ⟨tried, hs⟩ := h s (by simp)
    rw [List.cons_append, ask_cons_missing present path name hs,
      ih _ (fun s' hs' => h s' (by simp [hs']))]
    simp [List.append_assoc]

/-- If no searcher finds the name, all are asked and all that they tried is listed. -/
theorem ask_of_missing (chain : List Searcher)
    (h : ∀ s ∈ chain, ∃ tried, (s.search present path name).value = .missing tried) :
    ask present path name [] chain =
      ⟨.exhausted ⟨name, chain.flatMap (failures present path name)⟩,
        chain.flatMap (asking present path name)⟩ := by
  have := ask_append_missing present path name chain [] [] h
  simpa [ask] using this

/-- The first searcher that finds the name is the last that is asked. -/
theorem ask_of_found (first : List Searcher) (s : Searcher) (rest : List Searcher)
    {found : String}
    (h : ∀ s ∈ first, ∃ tried, (s.search present path name).value = .missing tried)
    (hs : (s.search present path name).value = .found found) :
    ask present path name [] (first ++ s :: rest) =
      ⟨.found found, (first ++ [s]).flatMap (asking present path name) ++
        [.notice (.resolved s.label name found)]⟩ := by
  rw [ask_append_missing present path name first (s :: rest) [] h,
    ask_cons_found present path name hs]
  simp [List.append_assoc]

/-- A longer chain goes on with its other searchers where a shorter one has found nothing. -/
theorem value_ask_append (first rest : List Searcher) (before : List Attempt) :
    (ask present path name before (first ++ rest)).value =
      match (ask present path name before first).value with
      | .found found => .found found
      | .exhausted e => (ask present path name e.attempts rest).value := by
  induction first generalizing before with
  | nil => rfl
  | cons s first ih =>
    rw [List.cons_append]
    cases hs : (s.search present path name).value with
    | found found =>
      rw [ask_cons_found present path name hs, ask_cons_found present path name hs]
    | missing tried =>
      rw [ask_cons_missing present path name hs, ask_cons_missing present path name hs]
      exact ih _

theorem value_ask_singleton (s : Searcher) (before : List Attempt) :
    (ask present path name before [s]).value =
      match (s.search present path name).value with
      | .found found => .found found
      | .missing _ => .exhausted ⟨name, before ++ failures present path name s⟩ := by
  cases hs : (s.search present path name).value with
  | found found => rw [ask_cons_found present path name hs]
  | missing tried =>
    rw [ask_cons_missing present path name hs]
    rfl

/-! ### What a search does -/

theorem mem_asking {s : Searcher} {e : Event} (he : e ∈ asking present path name s) :
    e = .asked s.kind name ∨ ∃ c, e = .notice (.checked c (present c)) := by
  rcases List.mem_cons.mp he with rfl | he
  · exact .inl rfl
  · exact .inr (Searcher.eq_checked_of_mem_search present he)

/-- A search asks searchers, checks paths and notes which searcher of the chain has found the
name, nothing else. -/
theorem mem_ask {chain : List Searcher} {before : List Attempt} {e : Event}
    (he : e ∈ (ask present path name before chain).trace) :
    (∃ s : Searcher, e = .asked s.kind name) ∨ (∃ c, e = .notice (.checked c (present c))) ∨
      ∃ s ∈ chain, ∃ found, e = .notice (.resolved s.label name found) := by
  induction chain generalizing before with
  | nil => cases he
  | cons s rest ih =>
    have hasking : e ∈ asking present path name s →
        (∃ s : Searcher, e = .asked s.kind name) ∨ ∃ c, e = .notice (.checked c (present c)) :=
      fun h => (mem_asking present path name h).imp_left fun h => ⟨s, h⟩
    cases hv : (s.search present path name).value with
    | found found =>
      rw [ask_cons_found present path name hv, List.mem_append, List.mem_singleton] at he
      rcases he with he | he
      · exact (hasking he).imp_right .inl
      · exact .inr (.inr ⟨s, List.mem_cons_self, found, he⟩)
    | missing tried =>
      rw [ask_cons_missing present path name hv, List.mem_append] at he
      rcases he with he | he
      · exact (hasking he).imp_right .inl
      · rcases ih he with he | he | ⟨s', hs', he⟩
        · exact .inl he
        · exact .inr (.inl he)
        · exact .inr (.inr ⟨s', List.mem_cons_of_mem _ hs', he⟩)

theorem quiet_asking (s : Searcher) : (asking present path name s).Quiet := by
  intro e he
  rcases mem_asking present path name he with rfl | ⟨c, rfl⟩ <;> rfl

theorem quiet_ask (before : List Attempt) (chain : List Searcher) :
    (ask present path name before chain).trace.Quiet := by
  intro e he
  rcases mem_ask present path name he with ⟨s, rfl⟩ | ⟨c, rfl⟩ | ⟨s, _, found, rfl⟩ <;> rfl

theorem passive_ask (before : List Attempt) (chain : List Searcher) :
    (ask present path name before chain).trace.Passive := by
  intro e he
  rcases mem_ask present path name he with ⟨s, rfl⟩ | ⟨c, rfl⟩ | ⟨s, _, found, rfl⟩ <;> rfl

end Resolver

end ScriptSearch
