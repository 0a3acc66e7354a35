import ScriptSearch.Proofs.Text.Split

/-! The pieces of a text. There is one way to write a text as pieces without a separator and a
separator between neighbours, with one piece more than there are separators, and splitting
finds it. The pieces can also be cut off from the front, round by round. Every round but the
last takes one separator out of the text that is left, so this comes to an end, with the same
pieces. -/

namespace ScriptSearch.Text

variable {sep : Char}

/-! ### The one way to cut a text -/

/-- Pieces without a separator that are joined to the text. -/
structure Pieces (sep : Char) (s : String) (pieces : List String) : Prop where
  ne_nil : pieces ≠ []
  separatorFree : ∀ piece ∈ pieces, sep ∉ piece.toList
  joined : join sep pieces = s

theorem join_split (sep : Char) (s : String) : join sep (split sep s) = s := by
  have hchars : (split sep s).map String.toList = splitChars sep s.toList := by
    simp [split, Function.comp_def]
  rw [join, hchars, joinChars_eq_intercalate, splitChars_eq_splitOn, List.intercalate_splitOn,
    String.ofList_toList]

theorem pieces_split (sep : Char) (s : String) : Pieces sep s (split sep s) where
  ne_nil := split_ne_nil sep s
  separatorFree _ h := not_mem_of_mem_split h
  joined := join_split sep s

theorem pieces_iff {s : String} {pieces : List String} :
    Pieces sep s pieces ↔ pieces = split sep s := by
  constructor
  · intro h
    rw [← h.joined, split_join h.ne_nil h.separatorFree]
  · rintro rfl
    exact pieces_split sep s

/-- A text without a separator is its own and only piece. -/
theorem split_of_not_mem {s : String} (h : sep ∉ s.toList) : split sep s = [s] := by
  have hs : Pieces sep s [s] :=
    ⟨List.cons_ne_nil s [], by simpa using h, by simp [join, joinChars]⟩
  exact (pieces_iff.mp hs).symm

theorem length_splitChars (sep : Char) (s : List Char) :
    (splitChars sep s).length = s.count sep + 1 := by
  induction s with
  | nil => rfl
  | cons c rest ih =>
    by_cases h : c = sep
    · rw [h, splitChars_cons_self, List.length_cons, ih, List.count_cons_self]
    · rw [splitChars_cons_of_ne h, List.length_modifyHead, ih, List.count_cons_of_ne h]

theorem length_split (sep : Char) (s : String) :
    (split sep s).length = s.toList.count sep + 1 := by
  rw [split, List.length_map, length_splitChars]

/-- A text of lines with an end each has these lines, and nothing behind the last of them. -/
theorem split_lines {lines : List String} (h : ∀ line ∈ lines, '\n' ∉ line.toList) :
    split '\n' (String.join (lines.map (· ++ "\n"))) = lines ++ [""] := by
  induction lines with
  | nil => rfl
  | cons line rest ih =>
    obtain ⟨hline, hrest⟩ := List.forall_mem_cons.mp h
    have hcut : split '\n' (line ++ "\n" ++ String.join (rest.map (· ++ "\n"))) = _ :=
      split_append line _
    rw [List.map_cons, String.join_cons, hcut, split_of_not_mem hline, ih hrest]
    rfl

/-! ### Cutting off pieces round by round -/

/-- Some pieces are cut off, and the rest of the text is left. -/
structure Cutting where
  pieces : List String := []
  rest : String

namespace Cutting

/-- Cuts off what stands before the next separator, and takes the separator away. If there is
none, the rest is the last piece, and the pieces are complete. -/
def round (sep : Char) (c : Cutting) : Cutting ⊕ List String :=
  match c.rest.toList.idxOf? sep with
  | none => .inr (c.pieces ++ [c.rest])
  | some i => .inl
    { pieces := c.pieces ++ [String.ofList (c.rest.toList.take i)]
      rest := String.ofList (c.rest.toList.drop (i + 1)) }

/-- The pieces if they are complete after at most so many rounds. -/
def run (sep : Char) : Nat → Cutting → Option (List String)
  | 0, _ => none
  | n + 1, c =>
    match c.round sep with
    | .inl next => run sep n next
    | .inr pieces => some pieces

/-- A round is the last one, or it cuts the rest at its first separator. -/
theorem round_cases (sep : Char) (c : Cutting) :
    (sep ∉ c.rest.toList ∧ c.round sep = .inr (c.pieces ++ [c.rest])) ∨
      ∃ front back, sep ∉ front.toList ∧ c.rest = front ++ String.singleton sep ++ back ∧
        c.round sep = .inl ⟨c.pieces ++ [front], back⟩ := by
  unfold round
  cases hfirst : c.rest.toList.idxOf? sep with
  | none => exact .inl ⟨List.idxOf?_eq_none_iff.mp hfirst, rfl⟩
  | some i =>
    obtain ⟨hi, hsep, hbefore⟩ := List.idxOf?_eq_some_iff.mp hfirst
    refine .inr ⟨_, _, ?_, ?_, rfl⟩
    · rw [String.toList_ofList]
      intro hmem
      obtain ⟨j, hj, hget⟩ := List.mem_take_iff_getElem.mp hmem
      exact hbefore j (by omega) hget
    · have hcut : c.rest.toList = c.rest.toList.take i ++ sep :: c.rest.toList.drop (i + 1) := by
        rw [← hsep, List.getElem_cons_drop, List.take_append_drop]
      rw [← String.toList_inj]
      simpa using hcut

/-- What is there in the end does not change in a round, and the separators get fewer by one. -/
theorem round_inl {c next : Cutting} (h : c.round sep = .inl next) :
    next.pieces ++ split sep next.rest = c.pieces ++ split sep c.rest ∧
      c.rest.toList.count sep = next.rest.toList.count sep + 1 := by
  rcases round_cases sep c with ⟨_, hlast⟩ | ⟨front, back, hfront, hrest, hnext⟩
  · cases h.symm.trans hlast
  · cases h.symm.trans hnext
    rw [hrest, split_append, split_of_not_mem hfront]
    simp [List.count_eq_zero_of_not_mem hfront]

theorem round_inr {c : Cutting} {pieces : List String} (h : c.round sep = .inr pieces) :
    pieces = c.pieces ++ split sep c.rest ∧ c.rest.toList.count sep = 0 := by
  rcases round_cases sep c with ⟨hnone, hlast⟩ | ⟨front, back, _, _, hnext⟩
  · cases h.symm.trans hlast
    exact ⟨by rw [split_of_not_mem hnone], List.count_eq_zero_of_not_mem hnone⟩
  · cases h.symm.trans hnext

/-- Cutting ends after one round more than there are separators, and not before. -/
theorem run_eq (sep : Char) (n : Nat) (c : Cutting) :
    c.run sep n =
      if c.rest.toList.count sep < n then some (c.pieces ++ split sep c.rest) else none := by
  -- Each round but the last uses up one of the rounds and one of the separators.
  induction n generalizing c with
  | zero => rfl
  | succ n ih =>
    rw [run]
    cases hround : c.round sep with
    | inl next =>
      obtain ⟨hpieces, hcount⟩ := round_inl hround
      simp only [ih, hpieces, hcount, Nat.add_lt_add_iff_right]
    | inr pieces =>
      obtain ⟨hpieces, hcount⟩ := round_inr hround
      simp [hpieces, hcount]

end Cutting

/-- The pieces of a text are complete after one round of cutting more than it has separators,
and not before. They are the only pieces without a separator that are joined to the text, and
there is one more of them than there are separators. So pieces without a separator are found
again after they are joined, and two texts with a separator between them have the pieces of
the one and then those of the other. -/
theorem split_pieces (sep : Char) :
    (∀ s : String,
      (∀ n, Cutting.run sep n { rest := s } =
        if s.toList.count sep < n then some (split sep s) else none) ∧
      (∀ pieces, Pieces sep s pieces ↔ pieces = split sep s) ∧
      (split sep s).length = s.toList.count sep + 1) ∧
    (∀ pieces : List String, pieces ≠ [] → (∀ piece ∈ pieces, sep ∉ piece.toList) →
      split sep (join sep pieces) = pieces) ∧
    ∀ a b : String, split sep (a ++ String.singleton sep ++ b) = split sep a ++ split sep b := by
  refine ⟨fun s => ⟨fun n => ?_, fun pieces => pieces_iff, length_split sep s⟩,
    fun pieces hne hfree => split_join hne hfree, split_append⟩
  simpa using Cutting.run_eq sep n { rest := s }

/-- Separators at both ends and next to each other: each has an empty piece at its side. -/
theorem split_pieces_empty :
    let pieces := ["", "", "a", "", ""]
    pieces ≠ [] ∧ (∀ piece ∈ pieces, ':' ∉ piece.toList) ∧ join ':' pieces = "::a::" ∧
      split ':' "::a::" = pieces ∧
      Cutting.run ':' 4 { rest := "::a::" } = none ∧
      Cutting.run ':' 5 { rest := "::a::" } = some pieces := by
  intro pieces
  obtain ⟨hsplit, hjoin, _⟩ := split_pieces ':'
  obtain ⟨hrun, _⟩ := hsplit "::a::"
  have hne : pieces ≠ [] := by decide
  have hfree : ∀ piece ∈ pieces, ':' ∉ piece.toList := by decide
  have htext : join ':' pieces = "::a::" := by decide
  have hpieces : split ':' "::a::" = pieces := htext ▸ hjoin pieces hne hfree
  exact ⟨hne, hfree, htext, hpieces, (hrun 4).trans (by decide), (hrun 5).trans (by decide)⟩

end ScriptSearch.Text
