import ScriptSearch.Resolver
import ScriptSearch.World

/-! Setting up a resolver from the options and the environment. The search path is
built anew: the list in `SOURCE_PATH`, or the default search path if the variable is
not set, then the templates of the options. The first malformed template ends the
set-up with the search path built so far. -/

namespace ScriptSearch

/-- A resolver after its set-up, and the malformed template that ended it early. -/
structure Configuration where
  resolver : Resolver
  error? : Option TemplateError := none

namespace Resolver

/-- The search path before the templates of the options. -/
def basePath (lookup : Environment) (o : Options) :
    Traced (Except TemplateError SearchPath) :=
  if o.defaultPath then
    match lookup "SOURCE_PATH" with
    | some list => do
      Traced.note .listUsed
      return SearchPath.parse list
    | none => pure (.ok (SearchPath.ofHome ((lookup "HOME").getD "")))
  else pure (.ok [])

/-- Adds a searcher for the directories of `PATH`, which finds nothing if `PATH` is not set. -/
def addPathSearcher (lookup : Environment) (r : Resolver) : Traced Resolver :=
  match lookup "PATH" with
  | some list => pure (r.add (Searcher.ofList list))
  | none => do
    Traced.note .pathUnset
    return r.add (Searcher.ofList "")

/-- A set-up that ends at a malformed template. -/
def refuse (r : Resolver) (path : SearchPath) (e : TemplateError) : Traced Configuration := do
  Traced.note (.badTemplate e)
  return { resolver := { r with searchPath := path }, error? := some e }

/-- Sets up a resolver; its chain keeps what it has. -/
def configure (lookup : Environment) (o : Options) (r : Resolver) :
    Traced Configuration := do
  match ← basePath lookup o with
  | .error e => r.refuse [] e
  | .ok base =>
    match base.appendTexts o.templates with
    | (path, some e) => r.refuse path e
    | (path, none) =>
      let r := { r with searchPath := path }
      let r ← if o.pathSearch then r.addPathSearcher lookup else pure r
      Traced.emitAll (path.map fun t => .notice (.searchPath t))
      return { resolver := r }

end Resolver

end ScriptSearch
