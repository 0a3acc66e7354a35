/-! Text cut at a separator character, and pieces joined by one. Splitting keeps
empty pieces and always yields at least one piece; a list that is written with
separators is read by dropping the empty pieces. -/

namespace ScriptSearch.Text

/-- The pieces between separators, empty ones kept. -/
def splitChars (sep : Char) : List Char → List (List Char)
  | [] => [[]]
  | c :: rest =>
    if c = sep then [] :: splitChars sep rest
    else (splitChars sep rest).modifyHead (c :: ·)

/-- The pieces one after another with a separator between neighbours. -/
def joinChars (sep : Char) : List (List Char) → List Char
  | [] => []
  | [piece] => piece
  | piece :: pieces => piece ++ sep :: joinChars sep pieces

@[simp] theorem splitChars_nil (sep : Char) : splitChars sep [] = [[]] := rfl

@[simp] theorem splitChars_cons_self (sep : Char) (rest : List Char) :
    splitChars sep (sep :: rest) = [] :: splitChars sep rest := by
  simp [splitChars]

theorem splitChars_cons_of_ne {sep c : Char} (h : c ≠ sep) (rest : List Char) :
    splitChars sep (c :: rest) = (splitChars sep rest).modifyHead (c :: ·) := by
  simp [splitChars, h]

theorem splitChars_ne_nil (sep : Char) (s : List Char) : splitChars sep s ≠ [] := by
  induction s with
  | nil => simp
  | cons c rest ih =>
    by_cases h : c = sep
    · simp [splitChars, h]
    · simpa [splitChars, h, ← List.length_eq_zero_iff] using ih

/-- The pieces of a text between separators. -/
def split (sep : Char) (s : String) : List String :=
  (splitChars sep s.toList).map String.ofList

/-- The text whose pieces are given. -/
def join (sep : Char) (pieces : List String) : String :=
  String.ofList (joinChars sep (pieces.map String.toList))

theorem split_ne_nil (sep : Char) (s : String) : split sep s ≠ [] := by
  simp [split, splitChars_ne_nil]

/-- The elements of a list written with `:` between them; empty elements do not count. -/
def elements (list : String) : List String :=
  (split ':' list).filter (· ≠ "")

/-- A text between backticks, the way messages quote names and paths. -/
def quoted (s : String) : String := "`" ++ s ++ "`"

end ScriptSearch.Text
