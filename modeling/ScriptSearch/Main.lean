import ScriptSearch.Candidates
import ScriptSearch.Host

/-! The command line program. It takes the variables that the program reads and a copy of
the candidates that exist into a host, runs there, and writes what the run leaves behind.
No process is started on the machine itself. -/

namespace ScriptSearch.Main

/-- The variables that can matter to a run. -/
def variableNames : List String := ["SOURCE_PATH", "HOME", "PATH"]

def copyVariable (h : Host) (name : String) : IO Host := do
  return h.setVariable name (← IO.getEnv name)

/-- Copies what is at a path, if anything is. -/
def copyPath (h : Host) (path : String) : IO Host := do
  let file := System.mkFilePath [path]
  if ← file.isDir then return h.make path .directory
  if ← file.pathExists then return h.make path (.file (← IO.FS.readFile file) 0o755)
  return h

def host (words : List String) : IO Host := do
  let h ← variableNames.foldlM copyVariable Host.fresh
  let o := (CommandLine.parse {} words).value.2
  (Program.candidates h.lookup o (o.args.headD "")).foldlM copyPath h

end ScriptSearch.Main

/-- Runs the program in a host. The interpreter is not started: the emulated host runs the
script, on a copy of it, so what the script does to files is lost. What the script would
have written is written, and its status is the status here. -/
def main (words : List String) : IO UInt32 := do
  let terminal ← (← IO.getStderr).isTty
  let world := { (← ScriptSearch.Main.host words).world with terminal }
  let outcome := ScriptSearch.Program.run world words
  (← IO.getStdout).putStr outcome.stdout
  (← IO.getStderr).putStr outcome.stderr
  return outcome.status.toUInt32
