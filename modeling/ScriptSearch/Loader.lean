import ScriptSearch.World
import ScriptSearch.Traced

/-! What is done with a script that was found. The status of a command is that of its child
process, which says so itself and ends with a status of its own if it cannot become the
program. A child that the system does not make or does not wait for is reported. -/

namespace ScriptSearch

/-- What the child process of a command writes, and how it ends. -/
def Command.invoke (c : Command) : Except OsError Run → Traced Termination
  | .ok run => do
    Traced.emit (.out run.out)
    Traced.emit (.err run.err)
    return run.ending
  | .error e => do
    Traced.note (.notStarted c.program e)
    return .exited notStartedStatus

/-- Runs a command as a child process and waits for it. -/
def Command.run (launch : Launcher) (c : Command) : Traced Nat := do
  Traced.note (.running c)
  Traced.emit (.started c)
  match launch c with
  | .error e =>
    Traced.note (.notForked e)
    return lostStatus
  | .ok child =>
    let ending ← c.invoke child.invoked
    match child.lost? with
    | some e =>
      Traced.note (.notAwaited c.program e)
      return lostStatus
    | none => return ending.status

inductive Loader
  /-- Runs the script with an interpreter. -/
  | interpret (interpreter : String)
  /-- Writes the path, for a calling shell to load. -/
  | print
  /-- A loader given by what it does and the status it returns. -/
  | call (act : String → List String → Traced Int)

namespace Loader

/-- The command that interprets a script. The `--` keeps a path that starts with a dash
from being an option of the interpreter. -/
def command (interpreter path : String) (args : List String) : Command :=
  ⟨interpreter, "--" :: path :: args⟩

def load (launch : Launcher) (path : String) (args : List String) :
    Loader → Traced Int
  | interpret interpreter => do
    let status ← (command interpreter path args).run launch
    return status
  | print => do
    Traced.emit (.out (path ++ "\n"))
    return 0
  | call act => act path args

end Loader

end ScriptSearch
