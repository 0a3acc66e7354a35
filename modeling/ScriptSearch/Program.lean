import ScriptSearch.Reading
import ScriptSearch.Configuration
import ScriptSearch.Dispatch

/-! The whole program: the command line, then the set-up of a resolver, then the
search and the loading of the script. Each stage can be the last. -/

namespace ScriptSearch

/-- What a run leaves behind: its exit status, its trace and how messages are shown. -/
structure Outcome where
  status : Nat
  display : Display
  trace : Trace

namespace Outcome

def stdout (o : Outcome) : String := o.trace.stdout

def stderr (o : Outcome) : String := o.trace.stderr o.display

end Outcome

namespace Program

def loader (o : Options) : Loader :=
  if o.print then .print else .interpret o.interpreter

/-- The stages after the command line. -/
def load (w : World) (o : Options) : Traced Int := do
  let c ← (Resolver.ofSearchPath []).configure w.lookup o
  match c.error? with
  | some _ => return usageStatus
  | none =>
    let finish ← c.resolver.source w (loader o) o.label o.args
    return finish.status

/-- The system keeps the low eight bits of a status. -/
def exitStatus (status : Int) : Nat := (status % 256).toNat

/-- The options that the command line starts from: colour is for terminals. -/
def initial (w : World) : Options := { colorize := w.terminal }

/-- Runs the program. Messages are shown as the options stand when the command line is read. -/
def run (w : World) (words : List String) : Outcome :=
  let parsed := CommandLine.parse (initial w) words
  let (status?, o) := parsed.value
  match status? with
  | some status => { status, display := o.toDisplay, trace := parsed.trace }
  | none =>
    let loaded := load w o
    { status := exitStatus loaded.value, display := o.toDisplay
      trace := parsed.trace ++ loaded.trace }

end Program

end ScriptSearch
