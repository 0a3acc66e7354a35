import ScriptSearch.Candidates
import ScriptSearch.Proofs.Trace

/-! Built-in searchers as a search of one list. The templates searcher tries the name and
then the templates, the directories searcher tries the directories, and each loop carries
the attempts made so far. Both are shown to check the candidates of the searcher in order,
up to the first that exists, and to answer with it or with all candidates. -/

namespace ScriptSearch.Searcher

/-! ### The candidates that are reached -/

section Reached

variable (present : String → Bool)

/-- The candidates up to the first that exists, that one included. -/
def reached (candidates : List String) : List String :=
  candidates.take (candidates.findIdx present + 1)

@[simp] theorem reached_nil : reached present [] = [] := rfl

theorem reached_cons_of_present {c : String} (h : present c = true) (rest : List String) :
    reached present (c :: rest) = [c] := by
  simp [reached, List.findIdx_cons, h]

theorem reached_cons_of_absent {c : String} (h : present c = false) (rest : List String) :
    reached present (c :: rest) = c :: reached present rest := by
  simp [reached, List.findIdx_cons, h]

/-- Without a candidate that exists the search goes on with the candidates that follow. -/
theorem reached_append_of_none {candidates : List String}
    (h : candidates.find? present = none) (rest : List String) :
    reached present (candidates ++ rest) = candidates ++ reached present rest := by
  induction candidates with
  | nil => rfl
  | cons c cs ih =>
    rw [List.find?_cons] at h
    cases hc : present c with
    | true => simp [hc] at h
    | false =>
      rw [List.cons_append, reached_cons_of_absent present hc, ih (by simpa [hc] using h),
        List.cons_append]

/-- A candidate that exists hides the candidates that follow. -/
theorem reached_append_of_some {candidates : List String} {found : String}
    (h : candidates.find? present = some found) (rest : List String) :
    reached present (candidates ++ rest) = reached present candidates := by
  induction candidates with
  | nil => simp at h
  | cons c cs ih =>
    rw [List.find?_cons] at h
    cases hc : present c with
    | true => rw [List.cons_append, reached_cons_of_present present hc,
        reached_cons_of_present present hc]
    | false =>
      rw [List.cons_append, reached_cons_of_absent present hc,
        reached_cons_of_absent present hc, ih (by simpa [hc] using h)]

theorem reached_of_none {candidates : List String} (h : candidates.find? present = none) :
    reached present candidates = candidates := by
  simpa using reached_append_of_none present h []

end Reached

/-! ### The loops -/

section Loops

variable (present : String → Bool)

/-- The record of checks of some candidates. -/
def checks (candidates : List String) : Trace :=
  candidates.map fun c => .notice (.checked c (present c))

theorem quiet_checks (candidates : List String) : (checks present candidates).Quiet := by
  intro e he
  obtain ⟨c, _, rfl⟩ := List.mem_map.mp he
  rfl

theorem written_checks (candidates : List String) :
    (checks present candidates).written = checks present candidates := by
  rw [Trace.written, List.filter_eq_self]
  intro e he
  obtain ⟨c, _, rfl⟩ := List.mem_map.mp he
  rfl

theorem stderr_checks (display : Display) (candidates : List String) :
    (checks present candidates).stderr display =
      String.join (candidates.map fun c => (Notice.checked c (present c)).line display) := by
  simp [Trace.stderr, checks, Event.stderr, Function.comp_def]

/-- The answer of a search that tried `before` in vain and goes on with the candidates. -/
def answerAfter (before candidates : List String) : Answer :=
  match candidates.find? present with
  | some found => .found found
  | none => .missing (before ++ candidates)

theorem check_bind {α : Type} (path : String) (next : Bool → Traced α) :
    (check present path >>= next) =
      ⟨(next (present path)).value,
        .notice (.checked path (present path)) :: (next (present path)).trace⟩ := rfl

/-- The loop is a search of the paths that the items stand for. -/
theorem tryEach_eq {α : Type} (candidate : α → String) (before : List String) (items : List α) :
    tryEach present candidate before items =
      ⟨answerAfter present before (items.map candidate),
        checks present (reached present (items.map candidate))⟩ := by
  induction items generalizing before with
  | nil => simp [tryEach, answerAfter, checks, pure]
  | cons item rest ih =>
    rw [tryEach, check_bind, List.map_cons]
    cases hc : present (candidate item) with
    | true => simp [reached_cons_of_present present hc, answerAfter, checks, hc]
    | false =>
      rw [reached_cons_of_absent present hc]
      simp [ih, answerAfter, checks, hc]

theorem looksLiteral_iff (name : String) :
    looksLiteral name = true ↔ name.toList.head? ∈ [some '.', some '/'] := by
  unfold looksLiteral
  cases name.toList.head? <;> simp

theorem searchTemplates_eq (path : SearchPath) (name : String) :
    searchTemplates present path name =
      ⟨answerAfter present [] (templateCandidates path name),
        checks present (reached present (templateCandidates path name))⟩ := by
  unfold searchTemplates templateCandidates
  by_cases hl : looksLiteral name = true
  · rw [if_pos hl, if_pos ((looksLiteral_iff name).mp hl), check_bind, List.singleton_append]
    cases hc : present name with
    | true => simp [reached_cons_of_present present hc, answerAfter, checks, hc]
    | false =>
      rw [reached_cons_of_absent present hc]
      simp [tryEach_eq, answerAfter, checks, hc, Template.expand]
  · rw [if_neg hl, if_neg (mt (looksLiteral_iff name).mpr hl), List.nil_append, tryEach_eq]
    rfl

theorem searchDirectories_eq (list : List String) (name : String) :
    searchDirectories present list name =
      ⟨answerAfter present [] (directoryCandidates list name),
        checks present (reached present (directoryCandidates list name))⟩ := by
  unfold searchDirectories directoryCandidates
  by_cases hs : '/' ∈ name.toList
  · rw [if_pos hs, if_pos hs]
    rfl
  · rw [if_neg hs, if_neg hs, tryEach_eq]

/-- A built-in searcher answers with the first of its candidates that exists, or with all
of them, and checks those that it reaches. -/
theorem search_eq {s : Searcher} (hs : s.Builtin) (path : SearchPath) (name : String) :
    s.search present path name =
      ⟨answerAfter present [] (s.candidates path name),
        checks present (reached present (s.candidates path name))⟩ := by
  cases s with
  | templates => exact searchTemplates_eq present path name
  | directories list => exact searchDirectories_eq present list name
  | registered _ _ => exact hs.elim

theorem value_search {s : Searcher} (hs : s.Builtin) (path : SearchPath) (name : String) :
    (s.search present path name).value =
      match (s.candidates path name).find? present with
      | some found => .found found
      | none => .missing (s.candidates path name) := by
  rw [search_eq present hs]
  rfl

/-- All that a searcher does is to check candidates. -/
theorem eq_checked_of_mem_search {s : Searcher} {path : SearchPath} {name : String} {e : Event}
    (he : e ∈ (s.search present path name).trace) : ∃ c, e = .notice (.checked c (present c)) := by
  cases s with
  | templates =>
    rw [search, searchTemplates_eq] at he
    obtain ⟨c, _, rfl⟩ := List.mem_map.mp he
    exact ⟨c, rfl⟩
  | directories list =>
    rw [search, searchDirectories_eq] at he
    obtain ⟨c, _, rfl⟩ := List.mem_map.mp he
    exact ⟨c, rfl⟩
  | registered _ _ => cases he

end Loops

end ScriptSearch.Searcher
