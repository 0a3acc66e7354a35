import ScriptSearch.Program

/-! Candidates: every path that a searcher, a chain of searchers or a whole run may try for
a name, in the order in which it tries them. -/

namespace ScriptSearch

namespace Searcher

/-- What the templates searcher tries: the name itself if it starts with a dot or a slash,
then each template with the name in its slot. -/
def templateCandidates (path : SearchPath) (name : String) : List String :=
  (if name.toList.head? ∈ [some '.', some '/'] then [name] else []) ++
    path.map fun t => t.before ++ name ++ t.after

/-- What a directories searcher tries: the name in each directory, unless it has a slash. -/
def directoryCandidates (list : List String) (name : String) : List String :=
  if '/' ∈ name.toList then [] else list.map (inDirectory name)

/-- What a searcher tries for a name. A registered searcher checks nothing itself. -/
def candidates (path : SearchPath) (name : String) : Searcher → List String
  | templates => templateCandidates path name
  | directories list => directoryCandidates list name
  | registered _ _ => []

/-- The searchers that answer by checking their candidates. -/
def Builtin : Searcher → Prop
  | registered _ _ => False
  | _ => True

instance : DecidablePred Builtin
  | templates => .isTrue trivial
  | directories _ => .isTrue trivial
  | registered _ _ => .isFalse id

end Searcher

namespace Resolver

/-- What the chain tries for a name, searcher by searcher. -/
def candidates (r : Resolver) (name : String) : List String :=
  r.chain.flatMap (·.candidates r.searchPath name)

/-- The candidates of the chain, each with the label of the searcher that tries it. -/
def attempts (r : Resolver) (name : String) : List Attempt :=
  r.chain.flatMap fun s => (s.candidates r.searchPath name).map (⟨s.label, ·⟩)

end Resolver

namespace Program

/-- Candidates from the list in `SOURCE_PATH`, or if it is not set the name under `HOME` and
in the current directory, with each of three extensions. -/
def baseCandidates (lookup : Environment) (name : String) : List String :=
  match lookup "SOURCE_PATH" with
  | some list => (Text.elements list).map (Template.fill name)
  | none =>
    let home := (lookup "HOME").getD "" ++ "/.local/share/bash/"
    [home ++ name, home ++ name ++ ".sh", home ++ name ++ ".bash",
      "./" ++ name, "./" ++ name ++ ".sh", "./" ++ name ++ ".bash"]

/-- The name itself if it looks like a path, then the search path, then the templates of
the options, then the directories of `PATH` if they are asked for. -/
def candidates (lookup : Environment) (o : Options) (name : String) : List String :=
  (if name.toList.head? ∈ [some '.', some '/'] then [name] else []) ++
  (if o.defaultPath then baseCandidates lookup name else []) ++
  o.templates.map (Template.fill name) ++
  (if o.pathSearch then
    Searcher.directoryCandidates (Text.elements ((lookup "PATH").getD "")) name
  else [])

end Program

end ScriptSearch
