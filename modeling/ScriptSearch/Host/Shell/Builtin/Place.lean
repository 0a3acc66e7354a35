import ScriptSearch.Host.Quoted
import ScriptSearch.Host.Shell.Builtin.Basic
import ScriptSearch.Text.Split

/-! Commands about the directory that a shell works in. The shell keeps its path as the
script has named it: `..` takes away the last name, even if that is a link. -/

namespace ScriptSearch.Host.Shell.Builtin

open Act

/-- The names of a path with `.` and `..` resolved, from those of another path. -/
def resolved (names : List String) (path : String) : List String :=
  (FileTree.names path).foldl
    (fun names part =>
      if part = "" ∨ part = "." then names
      else if part = ".." then names.dropLast
      else names ++ [part])
    (if FileTree.isAbsolute path then [] else names)

/-- An absolute path with the given names. -/
def pathOf (names : List String) : String := "/" ++ String.intercalate "/" names

/-- Sets a variable that programs get if they got it before, or always. -/
def storePath (name value : String) (exported : Bool) : Act Unit := do
  let old := (← binding? name).getD {}
  putBinding name { old with
    content := old.content.withText value, exported := old.exported || exported }

/-- The names of an absolute path. -/
def namesOf (path : String) : List String := (FileTree.names path).filter (· ≠ "")

/-- Goes to a directory. -/
def goTo (physical : Bool) (path : String) : Act (Except OsError Unit) := do
  let s ← get
  let named := if s.path = "" ∨ physical then none else some (pathOf (resolved (namesOf s.path) path))
  let tree := s.machine.tree
  let target : Except OsError (Directory × Option String) :=
    match named.map (tree.directory s.here ·) with
    | some (.ok d) => .ok (d, named)
    | _ => (tree.directory s.here path).map (·, none)
  match target with
  | .error e => return .error e
  | .ok (d, named) =>
    let plain := s.setting.dialect = .plain
    let path := named.getD (if d.removed = 0 then pathOf d.location else "")
    storePath "OLDPWD" s.path plain
    storePath "PWD" path plain
    modify fun s => { s with here := d, path }
    return .ok ()

/-- The directories in which a relative path is looked for. -/
def searched (dest : String) : Act (List String) := do
  let near := match (FileTree.names dest).head? with
    | some "" | some "." | some ".." => true
    | _ => false
  if near then return [""]
  match ← value? "CDPATH" with
  | some list => return Text.split ':' list ++ [""]
  | none => return [""]

/-- Goes to the directory that arguments name, for a command that messages are to name. -/
def changeDirectory (command : String) (args : List String) : Act Nat := do
  let plain ← isPlain
  options command (if plain then "LP" else "LPe") "" args fun g => do
    let mode := (g.letters.filter (· ≠ 'e')).getLast?
    let physical := mode = some 'P' ∨ (mode.isNone ∧ (← isOn .physical))
    if !plain ∧ 1 < g.rest.length then return ← refuse command "too many arguments" 1
    let back := g.rest.head? == some "-"
    let dest ← match g.rest with
      | [] => value? "HOME"
      | "-" :: _ => value? "OLDPWD"
      | dest :: _ => pure (some dest)
    match dest, plain with
    | none, false => refuse command (if back then "OLDPWD not set" else "HOME not set") 1
    | dest, _ =>
      let dest := dest.getD ""
      let tree := (← get).machine.tree
      let here := (← get).here
      let candidates := (← searched dest).map fun directory =>
        if directory = "" then dest else directory ++ "/" ++ dest
      let path := (candidates.find? fun path => (tree.directory here path).isOk).getD dest
      let path := if back ∧ !plain then dest else path
      match ← goTo physical (if path = "" then "." else path) with
      | .ok () =>
        if back ∧ !plain then out (dest ++ "\n")
        else if back ∨ path ≠ dest then out ((← get).path ++ "\n")
        return 0
      | .error e =>
        if plain then refuse command ("can't cd to " ++ dest) 2
        else refuse command (Quoted.visible (← isWide) dest ++ ": " ++ e.message) 1

def workingDirectory (args : List String) : Act Nat :=
  options "pwd" "LP" "" args fun g => do
    let s ← get
    let physical := g.letters.getLast? = some 'P' ∨ (g.letters.isEmpty ∧ (← isOn .physical))
    let path := if physical then pathOf s.here.location else s.path
    out (path ++ "\n")
    return 0

end ScriptSearch.Host.Shell.Builtin
