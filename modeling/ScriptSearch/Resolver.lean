import ScriptSearch.Searcher

/-! A resolver holds a search path and a chain of searchers. It asks the searchers in
order; the first path found is the resolution, and if there is none the attempts of
all searchers are listed. -/

namespace ScriptSearch

structure Resolver where
  searchPath : SearchPath
  chain : List Searcher

namespace Resolver

/-- A new resolver has the templates searcher alone. -/
def ofSearchPath (path : SearchPath) : Resolver := ⟨path, [.templates]⟩

def add (r : Resolver) (s : Searcher) : Resolver := { r with chain := r.chain ++ [s] }

/-- Takes out the earliest searcher with the label, if there is one. -/
def remove (r : Resolver) (label : String) : Resolver :=
  { r with chain := r.chain.eraseP (·.label = label) }

/-- The labels of the chain. -/
def labels (r : Resolver) : List String := r.chain.map Searcher.label

/-- Asks the searchers one after another, up to the first that finds the name. The
attempts of those asked before are in `attempts`. -/
def ask (present : String → Bool) (path : SearchPath) (name : String)
    (attempts : List Attempt) : List Searcher → Traced Resolution
  | [] => pure (.exhausted ⟨name, attempts⟩)
  | s :: rest => do
    Traced.emit (.asked s.kind name)
    match ← s.search present path name with
    | .found found =>
      Traced.note (.resolved s.label name found)
      return .found found
    | .missing attempted =>
      ask present path name (attempts ++ attempted.map (⟨s.label, ·⟩)) rest

def resolve (present : String → Bool) (r : Resolver) (name : String) : Traced Resolution :=
  ask present r.searchPath name [] r.chain

end Resolver

end ScriptSearch
