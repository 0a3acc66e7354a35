import ScriptSearch.Host.Interpreter

/-! Looking for a program: a name without a slash is looked for in the directories of `PATH`. -/

namespace ScriptSearch.Host.ProgramPath

/-- Where programs are looked for if no variable says so. -/
def standard : String := "/bin:/usr/bin"

/-- The paths that a program's name stands for. A directory whose name is longer than the
whole list may be, or than any path, counts as the current one, and as nothing at the end. -/
def candidates (list program : String) : List String :=
  if program.toList.contains '/' then [program]
  else
    let limit := min (Octet.size list) FileTree.pathLimit
    let directories := Text.split ':' list
    let count := directories.length
    (directories.zipIdx).filterMap fun (directory, i) =>
      if limit < Octet.size directory then (if i + 1 = count then none else some program)
      else if directory = "" then some program
      else some (directory ++ "/" ++ program)

/-- Whether the search for a program goes on after an error. -/
def skips : OsError → Bool
  | .noEntry | .accessDenied | .notDirectory => true
  | _ => false

/-- Tries paths in turn up to the first that can be run; a script that names no interpreter
is given to the shell. A program that was denied is reported even if later paths lead
nowhere. -/
def firstOf (p : Process) (m : Machine) (denied : Bool) (last : OsError) :
    List String → Except OsError (String × Process)
  | [] => .error (if denied then .accessDenied else last)
  | path :: paths =>
    let tried (path : String) (p : Process) : Except OsError (String × Process) :=
      (Interpreter.resolve m path p).map fun _ => (path, p)
    let result := match tried path p with
      | .error .badFormat => tried "/bin/sh" { p with name := "/bin/sh", args := path :: p.args }
      | result => result
    match result with
    | .ok found => .ok found
    | .error e =>
      if skips e then firstOf p m (denied || e == .accessDenied) e paths else .error e

/-- The file that a program's name stands for, and the process that runs it. -/
def find (program : String) (p : Process) (m : Machine) : Except OsError (String × Process) :=
  if program = "" then .error .noEntry
  else
    let list := (settingOf? p.environment "PATH").getD standard
    firstOf p m false .noEntry (candidates list program)

end ScriptSearch.Host.ProgramPath
