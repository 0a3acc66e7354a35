import Mathlib.Tactic.Common
import ScriptSearch.Text.Split

/-! Splitting against joining. Both are the standard operations on lists of characters. A
piece has no separator in it, and pieces without one are told apart again after they are
joined. A list that is read by dropping the empty pieces is therefore written again with its
elements alone, and reading that changes nothing more. -/

namespace ScriptSearch.Text

/-! ### Characters -/

section Chars

variable (sep : Char)

theorem splitChars_eq_splitOn (s : List Char) : splitChars sep s = s.splitOn sep := by
  induction s with
  | nil => rfl
  | cons c rest ih =>
    rw [List.splitOn, List.splitOnP_cons_eq_if_modifyHead, ← List.splitOn, ← ih]
    simp [splitChars]

theorem joinChars_eq_intercalate (pieces : List (List Char)) :
    joinChars sep pieces = [sep].intercalate pieces := by
  induction pieces with
  | nil => rfl
  | cons piece pieces ih =>
    cases pieces with
    | nil => simp [joinChars]
    | cons next rest =>
      rw [joinChars, ih, List.intercalate_cons_cons, List.append_assoc, List.singleton_append]
      simp

variable {sep}

theorem splitChars_joinChars {pieces : List (List Char)} (hne : pieces ≠ [])
    (h : ∀ piece ∈ pieces, sep ∉ piece) : splitChars sep (joinChars sep pieces) = pieces := by
  rw [splitChars_eq_splitOn, joinChars_eq_intercalate, List.splitOn_intercalate sep h hne]

/-- A separator cuts whatever stands around it. -/
theorem splitChars_append (a b : List Char) :
    splitChars sep (a ++ sep :: b) = splitChars sep a ++ splitChars sep b := by
  simp only [splitChars_eq_splitOn, List.splitOn_append_cons_self]

theorem not_mem_of_mem_splitChars {s piece : List Char} (h : piece ∈ splitChars sep s) :
    sep ∉ piece := by
  induction s generalizing piece with
  | nil =>
    rw [List.mem_singleton.mp h]
    exact List.not_mem_nil
  | cons c rest ih =>
    by_cases hc : c = sep
    · rw [hc, splitChars_cons_self] at h
      rcases List.mem_cons.mp h with rfl | h
      · exact List.not_mem_nil
      · exact ih h
    · obtain ⟨first, more, hsplit⟩ := List.exists_cons_of_ne_nil (splitChars_ne_nil sep rest)
      rw [splitChars_cons_of_ne hc, hsplit, List.modifyHead_cons] at h
      rw [hsplit] at ih
      rcases List.mem_cons.mp h with rfl | h
      · exact List.not_mem_cons_of_ne_of_not_mem (Ne.symm hc) (ih List.mem_cons_self)
      · exact ih (List.mem_cons_of_mem first h)

end Chars

/-! ### Texts -/

variable {sep : Char}

theorem split_join {pieces : List String} (hne : pieces ≠ [])
    (h : ∀ piece ∈ pieces, sep ∉ piece.toList) : split sep (join sep pieces) = pieces := by
  have hchars : ∀ piece ∈ pieces.map String.toList, sep ∉ piece := by simpa using h
  rw [split, join, String.toList_ofList, splitChars_joinChars (by simpa using hne) hchars]
  simp

theorem split_append (a b : String) :
    split sep (a ++ String.singleton sep ++ b) = split sep a ++ split sep b := by
  simp [split, splitChars_append]

theorem not_mem_of_mem_split {s piece : String} (h : piece ∈ split sep s) :
    sep ∉ piece.toList := by
  obtain ⟨chars, hchars, rfl⟩ := List.mem_map.mp h
  rw [String.toList_ofList]
  exact not_mem_of_mem_splitChars hchars

/-! ### Elements of a list -/

theorem mem_elements {list piece : String} (h : piece ∈ elements list) :
    piece ≠ "" ∧ ':' ∉ piece.toList := by
  obtain ⟨hsplit, hne⟩ := List.mem_filter.mp h
  exact ⟨by simpa using hne, not_mem_of_mem_split hsplit⟩

/-- Empty pieces get lost between writing a list and reading it. -/
theorem elements_join_filter {pieces : List String} (h : ∀ piece ∈ pieces, ':' ∉ piece.toList) :
    elements (join ':' pieces) = pieces.filter (· ≠ "") := by
  cases pieces with
  | nil => rfl
  | cons piece rest => rw [elements, split_join (List.cons_ne_nil piece rest) h]

/-- Pieces that are not empty and have no separator in them are the elements of the list that
they are joined to. -/
theorem elements_join {pieces : List String}
    (h : ∀ piece ∈ pieces, piece ≠ "" ∧ ':' ∉ piece.toList) :
    elements (join ':' pieces) = pieces := by
  rw [elements_join_filter fun piece hp => (h piece hp).2, List.filter_eq_self]
  intro piece hp
  simpa using (h piece hp).1

/-- Empty pieces can be put into a list and taken out of it anywhere. -/
theorem elements_join_of_filter {list : String} {pieces : List String}
    (h : pieces.filter (· ≠ "") = (split ':' list).filter (· ≠ "")) :
    elements (join ':' pieces) = elements list := by
  have hcolon : ∀ piece ∈ pieces, ':' ∉ piece.toList := by
    intro piece hp
    by_cases hempty : piece = ""
    · rw [hempty]
      exact List.not_mem_nil
    · have hmem : piece ∈ (split ':' list).filter (· ≠ "") := by
        rw [← h]
        exact List.mem_filter.mpr ⟨hp, by simpa using hempty⟩
      exact not_mem_of_mem_split (List.mem_filter.mp hmem).1
  rw [elements_join_filter hcolon, h, elements]

theorem elements_append (a b : String) : elements (a ++ ":" ++ b) = elements a ++ elements b := by
  have hsplit : split ':' (a ++ ":" ++ b) = split ':' a ++ split ':' b := split_append a b
  rw [elements, hsplit, List.filter_append]
  rfl

end ScriptSearch.Text
