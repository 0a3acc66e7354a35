import ScriptSearch.Operation
import ScriptSearch.Host

/-! Sessions: one resolver through a run of steps on a host. A step is an operation on the
resolver, or a change of the host or of the display. -/

namespace ScriptSearch

/-- One step of a session. -/
inductive Session.Step
  | resolver (op : Resolver.Operation)
  | setVariable (name : String) (value : Option String)
  | make (path : String) (item : Host.Item)
  | remove (path : String)
  | verbose (on : Bool)
  | colorize (on : Bool)

structure Session where
  resolver : Resolver
  host : Host
  display : Display := {}

namespace Session

/-- The host behind the commands that were run. -/
def hostBehind (h : Host) (trace : Trace) : Host :=
  trace.foldl
    (fun h e => match e with
      | .started c => h.after c
      | _ => h) h

/-- Takes a step; the trace shows on the display as it is at the time. -/
def step (s : Session) : Step → Traced (Resolver.Reply × Session)
  | .resolver op =>
    let performed := s.resolver.perform s.host.world op
    let (reply, resolver) := performed.value
    ⟨(reply, { s with resolver, host := hostBehind s.host performed.trace }), performed.trace⟩
  | .setVariable name value => pure (.done, { s with host := s.host.setVariable name value })
  | .make path item => pure (.done, { s with host := s.host.make path item })
  | .remove path =>
    let (host, removed) := s.host.remove path
    pure (.flag removed, { s with host })
  | .verbose on => pure (.done, { s with display := { s.display with verbose := on } })
  | .colorize on => pure (.done, { s with display := { s.display with colorize := on } })

end Session

end ScriptSearch
