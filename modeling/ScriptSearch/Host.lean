import ScriptSearch.Host.Installation
import ScriptSearch.Host.Launch
import ScriptSearch.World

/-! A host: files, a current directory and variables that can be set, enough to run the
program and its child processes in. A new host has an empty directory to work in, the
system's programs, and no variables. A host is one way to make a world, for runs of the
program; the model takes any world, and no theorem is about hosts. -/

namespace ScriptSearch

open ScriptSearch.Host (Directory FileTree Item Location Machine Process)

structure Host where
  tree : FileTree
  here : Directory
  /-- The variables, each as its name, `=` and its value. -/
  environment : List String := []

namespace Host

/-- The directory to work in, alone in a directory of its own. -/
def workDirectory : Location := ["tmp", "tmp.Xk9sQ2vWfL", "work"]

def fresh : Host where
  tree := { entries :=
    [(workDirectory.dropLast, .directory 0o755), (workDirectory, .directory 0o755)] ++
      Installation.entries workDirectory }
  here := ⟨workDirectory, 0⟩

/-- The text after the name and `=`, in the first setting that begins with them. -/
def lookup (h : Host) (name : String) : Option String := settingOf? h.environment name

/-- Sets a variable in its place, or takes it away. A name is not empty and has no `=`. -/
def setVariable (h : Host) (name : String) (value : Option String) : Host :=
  if name = "" ∨ '=' ∈ name.toList then h
  else
    let isSetting (setting : String) : Bool := (name ++ "=").toList.isPrefixOf setting.toList
    let environment := match value with
      | none => h.environment.filter (!isSetting ·)
      | some v =>
        let new := name ++ "=" ++ v
        if h.environment.any isSetting then
          h.environment.map fun setting => if isSetting setting then new else setting
        else h.environment ++ [new]
    { h with environment }

/-- The host with other files; a directory that is gone is still worked in. -/
def withTree (h : Host) (tree : FileTree) : Host := { h with tree, here := tree.settle h.here }

/-- Makes an item and the directories above it. -/
def make (h : Host) (path : String) (item : Item) : Host :=
  h.withTree (h.tree.make (FileTree.start h.here path) item (FileTree.names path))

/-- Removes an entry with all below it, and says whether there was one. -/
def remove (h : Host) (path : String) : Host × Bool :=
  let removed := h.tree.remove h.here path
  (h.withTree removed.1, removed.2)

/-- Runs a command, and gives what it writes and the host behind it. -/
def run (h : Host) (c : Command) : Except OsError (Run × Host) := do
  let p : Process :=
    { number := 2, ancestors := [1], name := c.program, args := c.args
      environment := h.environment, here := h.here
      descriptors := [(0, .null), (1, .stream 0), (2, .stream 1)] }
  let m : Machine := { tree := h.tree, streams := #["", ""], started := 2 }
  let (m, ending) ← Launch.run c.program p m
  let shown (n : Nat) : String := Octet.shown (m.streams.getD n "")
  .ok ({ out := shown 0, err := shown 1, ending }, h.withTree m.tree)

/-- What the program is told about the host. -/
def world (h : Host) : World where
  present := h.tree.present h.here
  lookup := h.lookup
  launch c := .ok { invoked := (h.run c).map (·.1) }

/-- The host behind a command; one that cannot be started leaves it as it is. -/
def after (h : Host) (c : Command) : Host :=
  match h.run c with
  | .ok (_, h) => h
  | .error _ => h

end Host

end ScriptSearch
