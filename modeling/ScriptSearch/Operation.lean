import ScriptSearch.Configuration
import ScriptSearch.Dispatch

/-! Operations on a resolver, and what each of them answers. An operation sees the
surroundings and leaves them alone. -/

namespace ScriptSearch.Resolver

/-- What can be done with a resolver. -/
inductive Operation
  | append (text : String)
  | appendTemplate (t : Template)
  | prepend (t : Template)
  | clear
  | size
  | setHome (home : String)
  | setList (list : String)
  | add (s : Searcher)
  | remove (label : String)
  | resolve (name : String)
  | dispatch (loader : Loader) (args : List String)
  | source (loader : Loader) (label : String) (args : List String)
  | configure (o : Options)

/-- What an operation answers. -/
inductive Reply
  | done
  | flag (b : Bool)
  | size (n : Nat)
  | resolution (r : Resolution)
  | dispatch (d : Dispatch)
  | finish (f : Finish)
  deriving DecidableEq, Repr

/-- Takes a search path if there is one, and gives notice of the error if not. -/
def replacePath (r : Resolver) :
    Except TemplateError SearchPath → Traced (Reply × Resolver)
  | .ok path => pure (.flag true, { r with searchPath := path })
  | .error e => do
    Traced.note (.badTemplate e)
    return (.flag false, r)

/-- Performs an operation. -/
def perform (w : World) (r : Resolver) : Operation → Traced (Reply × Resolver)
  | .append text => r.replacePath ((Template.parse text).map fun t => r.searchPath ++ [t])
  | .appendTemplate t => pure (.done, { r with searchPath := r.searchPath ++ [t] })
  | .prepend t => pure (.done, { r with searchPath := t :: r.searchPath })
  | .clear => pure (.done, { r with searchPath := [] })
  | .size => pure (.size r.searchPath.length, r)
  | .setHome home => pure (.done, { r with searchPath := SearchPath.ofHome home })
  | .setList list => r.replacePath (SearchPath.parse list)
  | .add s => pure (.done, r.add s)
  | .remove label => pure (.flag (r.labels.contains label), r.remove label)
  | .resolve name => do return (.resolution (← r.resolve w.present name), r)
  | .dispatch loader args => do return (.dispatch (← r.dispatch w loader args), r)
  | .source loader label args => do return (.finish (← r.source w loader label args), r)
  | .configure o => do
    let c ← r.configure w.lookup o
    return (.flag c.error?.isNone, c.resolver)

end ScriptSearch.Resolver
