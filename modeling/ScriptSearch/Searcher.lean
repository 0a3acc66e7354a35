import ScriptSearch.SearchPath
import ScriptSearch.Traced

/-! Searchers: strategies that look for a script by name. The built-in ones check paths
one after another and answer with the first that exists; a registered one is any function
from names to answers. -/

namespace ScriptSearch

inductive Searcher
  /-- The name itself if it looks like a path, then the templates of the search path. -/
  | templates
  /-- The name in each of the directories, unless it has a slash. -/
  | directories (list : List String)
  | registered (label : String) (answer : String → Answer)

/-- The label under which attempts are listed and searchers are removed. -/
def SearcherKind.label : SearcherKind → String
  | templates => "default"
  | directories => "path"
  | registered label => label

namespace Searcher

def kind : Searcher → SearcherKind
  | templates => .templates
  | directories _ => .directories
  | registered label _ => .registered label

def label (s : Searcher) : String := s.kind.label

/-- A name that starts with a dot or a slash may be a path as it stands. -/
def looksLiteral (name : String) : Bool :=
  match name.toList.head? with
  | some c => c == '.' || c == '/'
  | none => false

/-- The path of a name in a directory: one slash between them is enough, and the directory
without a name adds nothing. -/
def inDirectory (name directory : String) : String :=
  if directory = "" ∨ directory.toList.getLast? = some '/' then directory ++ name
  else directory ++ "/" ++ name

/-- The searcher for the directories of a written list, as in `PATH`. -/
def ofList (list : String) : Searcher := .directories (Text.elements list)

/-- Checks whether a path exists, and gives notice of it. -/
def check (present : String → Bool) (path : String) : Traced Bool := do
  Traced.note (.checked path (present path))
  return present path

/-- Checks one path for each item, up to the first that exists. The paths in `attempted`
were checked before. -/
def tryEach {α : Type} (present : String → Bool) (candidate : α → String)
    (attempted : List String) : List α → Traced Answer
  | [] => pure (.missing attempted)
  | item :: rest => do
    if ← check present (candidate item) then return .found (candidate item)
    tryEach present candidate (attempted ++ [candidate item]) rest

/-- The name itself comes before the templates; with both it is checked twice if a template
yields it again. -/
def searchTemplates (present : String → Bool) (path : SearchPath) (name : String) :
    Traced Answer := do
  if looksLiteral name then
    if ← check present name then return .found name
    tryEach present (·.expand name) [name] path
  else
    tryEach present (·.expand name) [] path

def searchDirectories (present : String → Bool) (list : List String) (name : String) :
    Traced Answer :=
  if '/' ∈ name.toList then pure (.missing []) else tryEach present (inDirectory name) [] list

/-- Looks for a name, with the search path as it is at the time. -/
def search (present : String → Bool) (path : SearchPath) (name : String) :
    Searcher → Traced Answer
  | templates => searchTemplates present path name
  | directories list => searchDirectories present list name
  | registered _ answer => pure (answer name)

end Searcher

end ScriptSearch
