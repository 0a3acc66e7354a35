import ScriptSearch.Host.Printf
import ScriptSearch.Host.Shell.Builtin.Arguments
import ScriptSearch.Host.Shell.Builtin.Completion
import ScriptSearch.Host.Shell.Builtin.Control
import ScriptSearch.Host.Shell.Builtin.Directories
import ScriptSearch.Host.Shell.Builtin.History
import ScriptSearch.Host.Shell.Builtin.Jobs
import ScriptSearch.Host.Shell.Builtin.Reading
import ScriptSearch.Host.Shell.Conditions

/-! The commands of a shell that run no other commands, by name. -/

namespace ScriptSearch.Host.Shell.Builtin

open Act

def provider : Dialect → Provider
  | .plain => .plain
  | .bash => .bash

def echo (args : List String) : Act Nat := do
  let s ← get
  let p := provider s.setting.dialect
  let raw := p = .bash ∧ s.hasFurther "xpg_echo"
  out (p.echo (← isWide) (if raw then "-e" :: args else args))
  return 0

/-- Prints in a format, to the output or into a variable. -/
def printf (args : List String) : Act Nat := do
  let d ← dialect
  options "printf" "" (if d = .bash then "v" else "") args fun g => do
    match g.rest with
    | [] =>
      if d = .plain then refuse "printf" "usage: printf format [arg ...]" 2
      else
        tellUsage "printf"
        return 2
    | format :: args =>
      let name? := g.valued.lookup 'v'
      if let some name := name? then
        if !isName (State.splitKey name).1 then return ← refuse "printf" (noName name) 2
      let result := Printf.print (provider d) (← isWide) format args
      let stored ← match name?.map State.splitKey with
        | some (name, none) => managed (assign name result.text)
        | some (name, some key) => managed do assignTo name (some (← keyOf name key)) false result.text
        | none => do
          out result.text
          pure true
      if !stored then return 1
      for (name, count) in result.counts do assign name (toString count)
      for message in result.messages do remark "printf" message
      return result.status.toNat

def test (name : String) (args : List String) : Act Nat := do
  let p := provider (← dialect)
  match Test.holds p (← testView) name args with
  | .ok holds => return if holds then 0 else 1
  | .error f =>
    remark name (Test.message (← isWide) p f)
    return 2

/-- Does calculations up to the first that has no result; the last result decides. -/
def calculations (args : List String) : Act Nat := do
  let args := if args.head? = some "--" then args.drop 1 else args
  if args.isEmpty then return ← refuse "let" "expression expected" 1
  try
    let results ← args.mapM (calculate "let: ")
    return if results.getLastD 0 = 0 then 1 else 0
  catch
    | .abandon => return 1
    | j => throw j

/-- Commands that need a terminal or jobs that are under control. -/
def controlJobs (command : String) : Act Nat := do
  if ← isPlain then refuse command "No current job" 2
  else refuse command "no job control" 1

/-- Performs a command that runs no others. -/
def perform (name : String) (args : List String) : Act Nat := do
  match name with
  | ":" | "true" => return 0
  | "false" => return 1
  | "[" | "test" => test name args
  | "alias" => setAliases args
  | "bg" | "fg" => controlJobs name
  | "break" => leaveLoop name .break args
  | "continue" => leaveLoop name .continue args
  | "bind" =>
    complain "bind: warning: line editing not enabled"
    return 0
  | "caller" => caller args
  | "compgen" => compgen args
  | "complete" => complete args
  | "compopt" => compopt args
  | "dirs" => directories args
  | "enable" => enable args
  | "help" => help args
  | "history" => history args
  | "logout" => refuse name "not login shell: use \x60exit'" 1
  | "pushd" => pushDirectory args
  | "times" =>
    let zeros := if ← isPlain then "0m0.000000s 0m0.000000s\n" else "0m0.000s 0m0.000s\n"
    out (zeros ++ zeros)
    return 0
  | "cd" | "chdir" => changeDirectory "cd" args
  | "declare" | "typeset" | "local" => declare name args
  | "disown" => disown args
  | "jobs" => listJobs args
  | "echo" => echo args
  | "exit" => exit args
  | "export" => mark name .exported args
  | "getopts" => getopts args
  | "hash" => hash args
  | "kill" => kill args
  | "let" => calculations args
  | "popd" => popDirectory args
  | "printf" => printf args
  | "pwd" => workingDirectory args
  | "read" => read args
  | "readonly" => mark name .fixed args
  | "return" => leave args
  | "set" => setOptions args
  | "shift" => shift args
  | "shopt" => shopt args
  | "suspend" =>
    if args.all fun arg => arg.startsWith "-" then refuse name "cannot suspend: no job control" 1
    else tooMany "suspend"
  | "trap" => trap args
  | "type" => type args
  | "ulimit" => ulimit args
  | "umask" => umask args
  | "unalias" => unsetAliases args
  | "unset" => unset args
  | "wait" => wait args
  | _ => return 1

end ScriptSearch.Host.Shell.Builtin
