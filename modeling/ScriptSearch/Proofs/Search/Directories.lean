import Mathlib.Data.List.DropRight
import ScriptSearch.Proofs.Search.FirstMatch
import ScriptSearch.Proofs.Text.Split

/-! The directories of a written list. A candidate is a directory and the name with one slash
more between them unless the directory ends in one, so the name is what stands behind the last
slash. Only the elements that are not empty count, and the candidates of two lists written one
after the other are those of the first and then those of the second. -/

namespace ScriptSearch.Searcher

/-- The text behind the last slash of a path; all of it if there is none. -/
def lastName (path : String) : String := String.ofList (path.toList.rtakeWhile (· ≠ '/'))

variable {name directory : String}

/-! ### One directory -/

theorem inDirectory_of_ne_empty (h : directory ≠ "") (name : String) :
    inDirectory name directory =
      directory ++ (if directory.toList.getLast? = some '/' then "" else "/") ++ name := by
  unfold inDirectory
  by_cases hslash : directory.toList.getLast? = some '/'
  · rw [if_pos (.inr hslash), if_pos hslash, String.append_empty]
  · rw [if_neg (not_or.mpr ⟨h, hslash⟩), if_neg hslash]

/-- However many slashes the directory ends in, one of them is right before the name. -/
theorem exists_inDirectory (h : directory ≠ "") (name : String) :
    ∃ front, inDirectory name directory = front ++ "/" ++ name := by
  rw [inDirectory_of_ne_empty h]
  by_cases hslash : directory.toList.getLast? = some '/'
  · obtain ⟨front, hfront⟩ := List.getLast?_eq_some_iff.mp hslash
    refine ⟨String.ofList front, ?_⟩
    rw [if_pos hslash, ← String.toList_inj]
    simp [hfront]
  · exact ⟨directory, by rw [if_neg hslash]⟩

theorem lastName_of_slash (h : '/' ∉ name.toList) (front : String) :
    lastName (front ++ "/" ++ name) = name := by
  have hall : ∀ c ∈ name.toList.reverse, (decide (c ≠ '/')) = true := by
    intro c hc
    have hne : c ≠ '/' := fun heq => h (heq ▸ List.mem_reverse.mp hc)
    simpa using hne
  have hchars : (front ++ "/" ++ name).toList.reverse =
      name.toList.reverse ++ '/' :: front.toList.reverse := by simp
  rw [lastName, List.rtakeWhile, hchars, List.takeWhile_append_of_pos hall,
    List.takeWhile_cons_of_neg (by simp)]
  simp

/-! ### The directories of a list -/

/-- What is tried for a name in the directories of a written list. -/
theorem candidates_ofList (path : SearchPath) (list name : String) :
    (ofList list).candidates path name =
      if '/' ∈ name.toList then [] else
        ((Text.split ':' list).filter (· ≠ "")).map fun directory =>
          directory ++ (if directory.toList.getLast? = some '/' then "" else "/") ++ name := by
  rw [ofList, candidates, directoryCandidates]
  split_ifs
  · rfl
  · exact List.map_congr_left fun directory hdirectory =>
      inDirectory_of_ne_empty (Text.mem_elements hdirectory).1 name

theorem lastName_of_mem_candidates {path : SearchPath} {list candidate : String}
    (h : candidate ∈ (ofList list).candidates path name) :
    '/' ∈ candidate.toList ∧ lastName candidate = name := by
  rw [ofList, candidates, directoryCandidates] at h
  split_ifs at h with hname
  · cases h
  · obtain ⟨directory, hdirectory, rfl⟩ := List.mem_map.mp h
    obtain ⟨front, hfront⟩ := exists_inDirectory (Text.mem_elements hdirectory).1 name
    rw [hfront]
    exact ⟨by simp, lastName_of_slash hname front⟩

theorem candidates_ofList_append (path : SearchPath) (a b name : String) :
    (ofList (a ++ ":" ++ b)).candidates path name =
      (ofList a).candidates path name ++ (ofList b).candidates path name := by
  simp only [ofList, candidates, directoryCandidates, Text.elements_append]
  split_ifs
  · rfl
  · exact List.map_append

/-- The directories of a list are searched only for names without a slash. The candidates are the
elements that are not empty, in order, each with the name behind it and with a slash between
them unless it ends in one; so the name is what stands behind the last slash. They are checked
up to the first that exists, which is the answer, or all of them are. Empty elements can
be added and taken away anywhere, and of two lists with a `:` between them the candidates are
those of the one and then those of the other. -/
theorem search_ofList (name : String) :
    let candidates (list : String) : List String :=
      if '/' ∈ name.toList then [] else
        ((Text.split ':' list).filter (· ≠ "")).map fun directory =>
          directory ++ (if directory.toList.getLast? = some '/' then "" else "/") ++ name
    (∀ (list : String) (present : String → Bool) (path : SearchPath),
      let searched := (ofList list).search present path name
      ('/' ∈ name.toList → searched = ⟨.missing [], []⟩) ∧
      searched.value =
        (match (candidates list).find? present with
          | some found => .found found
          | none => .missing (candidates list)) ∧
      searched.trace =
        ((candidates list).take ((candidates list).findIdx present + 1)).map
          fun c => .notice (.checked c (present c))) ∧
    (∀ list, ∀ candidate ∈ candidates list,
      '/' ∈ candidate.toList ∧ lastName candidate = name) ∧
    (∀ (list : String) (pieces : List String),
      pieces.filter (· ≠ "") = (Text.split ':' list).filter (· ≠ "") →
      ∀ (present : String → Bool) (path : SearchPath),
        (ofList (Text.join ':' pieces)).search present path name =
          (ofList list).search present path name) ∧
    ∀ a b, candidates (a ++ ":" ++ b) = candidates a ++ candidates b := by
  intro candidates
  have hcandidates (list : String) : (ofList list).candidates [] name = candidates list :=
    candidates_ofList [] list name
  refine ⟨fun list present path => ?_, fun list candidate hcandidate => ?_,
    fun list pieces hpieces present path => ?_, fun a b => ?_⟩
  · have hsearch : (ofList list).search present path name =
        ⟨answerAfter present [] (candidates list),
          checks present (reached present (candidates list))⟩ := by
      rw [search_eq present (s := ofList list) trivial, candidates_ofList]
    intro searched
    refine ⟨fun hname => ?_, ?_, ?_⟩
    · exact if_pos hname
    · exact congrArg Traced.value hsearch
    · exact congrArg Traced.trace hsearch
  · rw [← hcandidates] at hcandidate
    exact lastName_of_mem_candidates hcandidate
  · rw [ofList, ofList, Text.elements_join_of_filter hpieces]
  · rw [← hcandidates, ← hcandidates, ← hcandidates, candidates_ofList_append]

/-- Directories that end in slashes and one that is a slash, with empty elements at both ends
and in between: the name `..` is found in the last of them. -/
theorem search_ofList_slashes :
    let list := ":/:a//::.:"
    let present : String → Bool := (· == "./..")
    ["/", "", "", "a//", "."].filter (· ≠ "") = (Text.split ':' list).filter (· ≠ "") ∧
      ((ofList list).search present [] "..").value = .found "./.." ∧
      (ofList "/:::a//:.").search present [] ".." = (ofList list).search present [] ".." ∧
      ((ofList list).search (fun _ => false) [] "..").value =
        .missing ["/..", "a//..", "./.."] ∧
      lastName "a//.." = ".." ∧
      (ofList list).search present [] "a/b" = ⟨.missing [], []⟩ := by
  intro list present
  obtain ⟨hsearch, hlast, hpieces, _⟩ := search_ofList ".."
  have hsame : ["/", "", "", "a//", "."].filter (· ≠ "") =
      (Text.split ':' list).filter (· ≠ "") := by decide
  refine ⟨hsame, ?_, hpieces list _ hsame present [], ?_, (hlast list _ (by decide)).2, ?_⟩
  · exact (hsearch list present []).2.1.trans (by decide)
  · exact (hsearch list (fun _ => false) []).2.1.trans (by decide)
  · exact ((search_ofList "a/b").1 list present []).1 (by decide)

end ScriptSearch.Searcher
