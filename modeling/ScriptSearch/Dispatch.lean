import ScriptSearch.Resolver
import ScriptSearch.Loader

/-! Finding a script by name and handing it to a loader. The first argument is the
name; the others are the script's. -/

namespace ScriptSearch

/-- What became of a request for a script. -/
inductive Dispatch
  | loaded (status : Int)
  | nameMissing
  | exhausted (e : Exhausted)
  deriving DecidableEq, Repr

/-- Finds and loads; without a name nothing is searched. -/
def Resolver.dispatch (w : World) (r : Resolver) (loader : Loader) : List String → Traced Dispatch
  | [] => pure .nameMissing
  | name :: args => do
    if name = "" then return .nameMissing
    match ← r.resolve w.present name with
    | .exhausted e => return .exhausted e
    | .found path =>
      Traced.note (.loading path)
      Traced.emit (.handed path args)
      return .loaded (← loader.load w.launch path args)

/-- Exit status when no candidate exists. -/
def notFoundStatus : Nat := 1

/-- How a request ends for its caller: with a status, or with the end of the process. -/
inductive Finish
  | returned (status : Int)
  | exited (status : Int)
  deriving DecidableEq, Repr

def Finish.status : Finish → Int
  | returned status => status
  | exited status => status

/-- Finds and loads, and reports a failure under the label. -/
def Resolver.source (w : World) (r : Resolver) (loader : Loader) (label : String)
    (args : List String) : Traced Finish := do
  match ← r.dispatch w loader args with
  | .loaded status => return .returned status
  | .nameMissing =>
    Traced.emit (.report (.nameMissing label))
    return .returned usageStatus
  | .exhausted e =>
    Traced.emit (.report (.notFound label e))
    return .exited notFoundStatus

end ScriptSearch
