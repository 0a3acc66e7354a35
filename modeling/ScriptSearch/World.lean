import ScriptSearch.Command

/-! What the surroundings answer: which paths exist, which variables are set, what a
command does, and whether messages go to a terminal. Nothing else of the surroundings
influences the program. -/

namespace ScriptSearch

/-- The values of the variables that are set. -/
abbrev Environment := String → Option String

/-- What becomes of a command's child process, or why the system makes none. -/
abbrev Launcher := Command → Except OsError Child

structure World where
  present : String → Bool
  lookup : Environment
  launch : Launcher
  /-- Standard error is a terminal. -/
  terminal : Bool := false

end ScriptSearch
