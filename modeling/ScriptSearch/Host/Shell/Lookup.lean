import ScriptSearch.Host.Shell.Launching
import ScriptSearch.Host.Shell.Grammar
import ScriptSearch.Text.Split

/-! What the name of a command stands for. A name with a slash is a path; any other is
looked for in the directories of `PATH`. -/

namespace ScriptSearch.Host.Shell

/-- The commands of a shell. -/
def builtins : Dialect → List String
  | .plain =>
    [".", ":", "[", "alias", "bg", "break", "cd", "chdir", "command", "continue", "echo", "eval",
      "exec", "exit", "export", "false", "fg", "getopts", "hash", "jobs", "kill", "local",
      "printf", "pwd", "read", "readonly", "return", "set", "shift", "test", "times", "trap",
      "true", "type", "ulimit", "umask", "unalias", "unset", "wait"]
  | .bash =>
    [".", ":", "[", "alias", "bg", "bind", "break", "builtin", "caller", "cd", "command",
      "compgen", "complete", "compopt", "continue", "declare", "dirs", "disown", "echo", "enable",
      "eval", "exec", "exit", "export", "false", "fc", "fg", "getopts", "hash", "help", "history",
      "jobs", "kill", "let", "local", "logout", "mapfile", "popd", "printf", "pushd", "pwd",
      "read", "readarray", "readonly", "return", "set", "shift", "shopt", "source", "suspend",
      "test", "times", "trap", "true", "type", "typeset", "ulimit", "umask", "unalias", "unset",
      "wait"]

/-- Commands whose failure ends the plain shell, and whose assignments stay there. -/
def specialBuiltins : List String := "local" :: Reader.special

/-- What the name of a command stands for. -/
inductive Meaning
  | function (f : Function)
  | builtin
  /-- Paths to try, the first being the one that was found. -/
  | program (paths : List String)
  | missing (e : OsError)

namespace Act

/-- The paths that a name can stand for. -/
def programPaths (name : String) : Act (List String) := do
  let list ← value? "PATH"
  return (Text.split ':' (list.getD "")).map fun directory =>
    if directory = "" then name
    else if directory.endsWith "/" then directory ++ name
    else directory ++ "/" ++ name

/-- Whether there is a file at a path that may be run. -/
def isProgram (path : String) : Act Bool := do
  let s ← get
  return s.machine.tree.isProgram s.here path

/-- Looks for a program as the plain shell does: the first file that may be run counts, and
what was there otherwise says what is wrong. -/
def searchPlain (name : String) : Act Meaning := do
  go .noEntry (← programPaths name)
where
  go (last : OsError) : List String → Act Meaning
    | [] => return .missing last
    | path :: paths => do
      let s ← get
      match s.machine.tree.find s.here path with
      | .error .noEntry | .error .notDirectory => go last paths
      | .error e => go e paths
      | .ok _ => if ← isProgram path then return .program (path :: paths) else go .accessDenied paths

/-- Looks for a program as the large shell does: a file that may be run is preferred to the
first that may not, which counts for nothing if it is a directory. -/
def searchLarge (name : String) : Act Meaning := do
  let s ← get
  if ((← value? "PATH").getD "") = "" then return .program [name]
  if name = "" then return .missing .noEntry
  let paths := (← programPaths name).map fun path => if path = name then "./" ++ name else path
  match ← paths.filterM isProgram, paths.find? (s.machine.tree.present s.here) with
  | path :: _, _ => return .program [path]
  | [], some path =>
    if s.machine.tree.leadsToDirectory s.here path then return .missing .noEntry
    else return .program [path]
  | [], none => return .missing .noEntry

def search (name : String) : Act Meaning := do
  if ← isPlain then searchPlain name else searchLarge name

/-- Whether a name is that of a command of the shell that has not been turned off. -/
def isBuiltin (name : String) : Act Bool := do
  let s ← get
  return (builtins s.setting.dialect).contains name && !s.disabled.contains name

/-- What a name stands for that is neither a function nor a command of the shell. The large shell
goes by what it has found before, unless a command has directories of its own. -/
def meaningOfProgram (name : String) : Act Meaning := do
  let s ← get
  let known := if s.setting.dialect = .bash ∧ (s.lent.lookup "PATH").isNone then s.hashed.lookup name
    else none
  match known with
  | some path => return .program [path]
  | none => if name.toList.contains '/' then return .program [name] else search name

/-- What a name stands for; functions come before the shell's own commands, but for special
ones in the large shell when it keeps to the letter of the standard. -/
def meaning (functions : Bool) (name : String) : Act Meaning := do
  let s ← get
  let first := s.setting.dialect = .bash ∧ s.switches.contains .posix ∧ Reader.special.contains name
  match if functions ∧ !first then s.functions.lookup name else none with
  | some f => return .function f
  | none =>
    if ← isBuiltin name then return .builtin
    else meaningOfProgram name

end Act

end ScriptSearch.Host.Shell
