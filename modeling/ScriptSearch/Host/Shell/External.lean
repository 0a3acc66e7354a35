import ScriptSearch.Host.Quoted
import ScriptSearch.Host.Shell.Lookup

/-! Running programs, and what is said if one cannot be run or is killed. -/

namespace ScriptSearch.Host.Shell.Act

/-- Whether a text is taken for a program of a machine and not for a script. -/
def isBinary (text : String) : Bool :=
  (text.toList.take 4 == "\x7fELF".toList) ||
    (text.toList.takeWhile (· ≠ '\n')).contains '\x00'

/-- The text of the file at a path, if there is one that can be read. -/
def fileText? (path : String) : Act (Option String) := do
  let s ← get
  return match (process s).read path s.machine with
    | .ok (text, _) => some text
    | .error _ => none

/-- What the plain shell says. -/
def plainMessage (e : OsError) : String :=
  if e = .noEntry ∨ e = .notDirectory then "not found" else e.message

def plainStatus (e : OsError) : Nat :=
  if [OsError.noEntry, .notDirectory, .tooManyLinks, .nameTooLong].contains e then 127 else 126

/-- How programs are started: as a process of their own, or in place of the shell. -/
abbrev Start := (path name : String) → List String → Act (Except OsError Termination)

/-- The plain shell tries one path after the other. A script that names no interpreter is
given to the shell. -/
def startPlain (start : Start) (name : String) (args : List String) (last : OsError) :
    List String → Act (Except OsError Termination)
  | [] => return .error last
  | path :: paths => do
    let ended ← start path name args
    let ended ← match ended with
      | .error .badFormat =>
        if ((← fileText? path).map isBinary).getD false then pure ended
        else start "/bin/sh" "/bin/sh" (path :: args)
      | ended => pure ended
    match ended with
    | .ok t => return .ok t
    | .error e =>
      startPlain start name args (if e = .noEntry ∨ e = .notDirectory then last else e) paths

/-- The interpreter that a script names. -/
def interpreterName (text : String) : String :=
  let line := (text.toList.drop 2).takeWhile (· ≠ '\n')
  String.ofList ((line.dropWhile isBlank).takeWhile (!isBlank ·))
where
  isBlank (c : Char) : Bool := c == ' ' || c == '\t'

/-- What the large shell says about a program that it could not run, and the status. -/
def refuseLarge (path : String) (e : OsError) : Act Nat := do
  let s ← get
  let entry := s.machine.tree.find s.here path
  let text ← fileText? path
  let interpreted := (text.getD "").startsWith "#!" && 2 < (text.getD "").length
  match entry, e with
  | .ok (.directory _), _ => complain (path ++ ": " ++ OsError.isDirectory.message); return 126
  | .ok _, .noEntry =>
    if ← isProgram path then complain (path ++ ": cannot execute: required file not found")
    else complain (path ++ ": " ++ e.message)
    return 127
  | .ok _, .badFormat =>
    complain (path ++ ": cannot execute binary file: " ++ e.message)
    return 126
  | .ok _, e =>
    if interpreted ∧ (← isProgram path) ∧ e ≠ .argumentsTooLong then
      err (s.setting.name ++ ": " ++ path ++ ": " ++ interpreterName (text.getD "") ++
        ": bad interpreter: " ++ e.message ++ "\n")
    else complain (path ++ ": " ++ e.message)
    return 126
  | .error _, e =>
    complain (path ++ ": " ++ e.message)
    return if e = .noEntry then 127 else 126

/-- Tells that a program was killed, as far as it is told without its number. The large shell tells it
so only of some signals, and not while its output is taken into a command. -/
def tellKilled (signal : Fin 128) : Act Unit := do
  let s ← get
  let isTrapped := ((Signal.name? signal).bind (s.traps.lookup ·)).isSome
  match Signal.description? signal with
  | some text =>
    if s.setting.dialect = .plain ∨ (!s.substituting ∧ (signal = Signal.termination ∨ isTrapped)) then
      err (text ++ "\n")
  | none => pure ()

/-- Tells it if something was killed. -/
def tellEnding : Termination → Act Unit
  | .killed signal => tellKilled signal
  | .exited _ => pure ()

/-- Runs a program under one of the paths that its name stands for. -/
def runProgram (start : Start) (name : String) (args paths : List String) : Act (Except Nat Termination) := do
  match ← dialect with
  | .plain =>
    match ← startPlain start name args .noEntry paths with
    | .ok t => return .ok t
    | .error e =>
      complain (name ++ ": " ++ plainMessage e)
      return .error (plainStatus e)
  | .bash =>
    let path := paths.headD name
    match ← start path name args with
    | .ok t => return .ok t
    | .error .badFormat =>
      if ((← fileText? path).map isBinary).getD false then
        return .error (← refuseLarge path .badFormat)
      else
        match ← start "/bin/bash" (← get).setting.name ("--" :: path :: args) with
        | .ok t => return .ok t
        | .error e => return .error (← refuseLarge path e)
    | .error e => return .error (← refuseLarge path e)

/-- Tells that a name stands for nothing, and gives the status. -/
def refuseMissing (name : String) (e : OsError) : Act Nat := do
  match ← dialect with
  | .plain => complain (name ++ ": " ++ plainMessage e)
  | .bash => complain (Quoted.visible (← isWide) name ++ ": command not found")
  return 127

end ScriptSearch.Host.Shell.Act
