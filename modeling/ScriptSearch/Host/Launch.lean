import ScriptSearch.Host.Shell.Invocation
import ScriptSearch.Host.Tools.Table

/-! Running programs. A program can run others, and let another one take its place. -/

namespace ScriptSearch.Host.Launch

/-! ### Programs of the system -/

/-- Runs a program of the system. One that is not known does nothing, and succeeds. -/
def runTool (execute : Execution) (t : Tool) (p : Process) (m : Machine) : Machine × Outcome :=
  match t with
  | .dash => Shell.run .plain execute p m
  | .bash => Shell.run .bash execute p m
  | .utility name =>
    match Tools.table.lookup name with
    | some work => work.perform execute p m
    | none => (m, .ended (.exited 0))

/-- Runs the file at a path, and what takes its place, which can happen so many times. -/
def following (execute : Execution) : Nat → Execution
  | 0 => fun _ _ _ => .error .tooManyLinks
  | more + 1 => fun path p m => do
    let (t, resolved) ← Interpreter.resolve m path p
    match runTool execute t resolved m with
    | (m, .ended t) => .ok (m, t)
    | (m, .becomes path p) =>
      match following execute more path p m with
      | .ok ended => .ok ended
      | .error _ => .ok (m, .exited 127)

/-- How often a program can take the place of another. -/
def replacementLimit : Nat := 100000

/-- Runs the file at a path; programs can run programs up to a depth. -/
def execution : Nat → Execution
  | 0 => fun _ _ _ => .error .tooManyLinks
  | depth + 1 => following (execution depth) replacementLimit

/-- How deep programs run programs. -/
def depthLimit : Nat := 300

/-- Runs a program by its name. -/
def run (program : String) (p : Process) (m : Machine) : Except OsError (Machine × Termination) := do
  let (path, p) ← ProgramPath.find program p m
  execution depthLimit path p m

end ScriptSearch.Host.Launch
