/-! Outcomes of a search for a script: a path, or everything that was tried. -/

namespace ScriptSearch

/-- What one searcher answers for a name. -/
inductive Answer
  | found (path : String)
  | missing (attempted : List String)
  deriving DecidableEq, Repr

/-- A path that was tried, and the label of the searcher that tried it. -/
structure Attempt where
  searcher : String
  path : String
  deriving DecidableEq, Repr

/-- A search that found nothing: the name and all attempts in order. -/
structure Exhausted where
  name : String
  attempts : List Attempt
  deriving DecidableEq, Repr

inductive Resolution
  | found (path : String)
  | exhausted (e : Exhausted)
  deriving DecidableEq, Repr

/-- What is written when no script is loaded, under the label of the command. -/
inductive Report
  | nameMissing (label : String)
  | notFound (label : String) (e : Exhausted)
  deriving DecidableEq, Repr

namespace Report

def attemptLine (a : Attempt) : String := "\tno file '" ++ a.path ++ "'\n"

/-- One line, and one more for each attempt; no styling and no quoting. -/
def text : Report → String
  | nameMissing label => label ++ ": error: script name is required\n"
  | notFound label e =>
    label ++ ": error: no script called '" ++ e.name ++ "'\n" ++
      String.join (e.attempts.map attemptLine)

end Report

end ScriptSearch
