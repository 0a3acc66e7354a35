import ScriptSearch.Host.Numeral
import ScriptSearch.Host.Shell.History
import ScriptSearch.Host.Shell.Job
import ScriptSearch.Host.Shell.Random
import ScriptSearch.Host.Shell.Script
import ScriptSearch.Host.Shell.Specification
import ScriptSearch.Host.Signal
import ScriptSearch.Host.Shell.Switch
import ScriptSearch.Host.Shell.Variable

/-! What a shell keeps while it runs a script. -/

namespace ScriptSearch.Host.Shell

/-- What a shell is given and never changes. -/
structure Setting where
  dialect : Dialect
  name : String
  /-- The name that the shell itself was called by. -/
  program : String
  /-- Whether the script was given as an argument. -/
  inline : Bool := false
  process : Nat
  /-- The processes that wait for this one, the nearest first. -/
  ancestors : List Nat := []
  execute : Execution

/-- A function of a script. -/
structure Function where
  body : Statement
  line : Nat := 1
  /-- The file that it was defined in. -/
  file : String := ""
  exported : Bool := false
  fixed : Bool := false
  traced : Bool := false

/-- A function or a file that is being run. -/
structure Frame where
  /-- The name of the function; nothing for a file. -/
  name : Option String
  file : String
  /-- The line that it is run from. -/
  line : Nat
  args : List String := []
  deriving Repr

/-- Why a command is left before its end. -/
inductive Jump
  /-- The shell ends with the current status. -/
  | exit
  | killed (signal : Fin 128)
  | break (levels : Nat)
  | continue (levels : Nat)
  | return
  /-- The large shell goes on with the next line, the plain one with nothing. -/
  | abandon
  /-- The large shell goes on with the next line of its script, and not of a text that is run as a
  part of that. -/
  | abandonAll
  /-- The program at a path takes the place of the shell. -/
  | become (path : String) (p : Process)

structure State where
  setting : Setting
  machine : Machine
  here : Directory
  descriptors : List (Nat × Channel)
  args : List String
  /-- The number of this process, which may be a copy of the first one. -/
  number : Nat
  bindings : List (String × Variable) := []
  functions : List (String × Function) := []
  switches : List Switch := []
  status : Nat := 0
  line : Nat := 1
  /-- The line up to which the script has been read. -/
  reached : Nat := 1
  /-- The number of the command of the script, where all that stands on a line is one. -/
  count : Nat := 1
  /-- The directory as the script has named it. -/
  path : String := ""
  /-- The line that an error is told to be on. -/
  errorLine : Nat := 1
  /-- A command that messages name in the plain shell, or a file in the large one. -/
  label : Option String := none
  /-- How many loops, functions and files the current command is in. -/
  loops : Nat := 0
  calls : Nat := 0
  files : Nat := 0
  /-- The functions and files that are being run, the innermost first. -/
  frames : List Frame := []
  /-- Variables of the functions that are being run, to be put back. -/
  saved : List (List (String × Option Variable)) := []
  /-- The options that are to be in force again when the current function ends. -/
  keptSwitches : Option (List Switch) := none
  /-- What is done on a signal or at the end, by name. -/
  traps : List (String × String) := []
  /-- What was done in the shell that this one is a copy of, which is shown until something is set. -/
  formerTraps : List (String × String) := []
  /-- Signals whose actions are to be taken. -/
  caught : List String := []
  /-- The status before the actions that are being taken. -/
  interrupted : Option Nat := none
  /-- How many tests the current command is a part of: its failure is no error there. -/
  tested : Nat := 0
  /-- How many shells this one is a copy of. -/
  depth : Nat := 0
  /-- The processes of the shells that this one is a copy of, the nearest first. -/
  parents : List Nat := []
  /-- Whether this is a copy that has nothing left to do behind the current statement. -/
  final : Bool := false
  /-- Whether this is a copy whose output is taken into a command, or part of one. -/
  substituting : Bool := false
  /-- How deep substitutions are in the large shell's trace. -/
  traced : Nat := 0
  /-- Parts that have been started beside the shell, the last first. -/
  jobs : List Job := []
  /-- The process of the last one. -/
  lastBeside : Option Nat := none
  /-- What such parts have still to do, the first first. -/
  deferred : List Beside := []
  /-- What has kept a command's output from being written. -/
  lost : Option OsError := none
  /-- The status of the last script whose output was taken into a command. -/
  substitution : Nat := 0
  aliases : List (String × String) := []
  /-- The commands of the large shell's script that have been kept. -/
  history : History := {}
  /-- What completes the arguments of commands. -/
  completions : Option (List (String × Specification)) := none
  /-- Programs that have been looked for and found, by name. -/
  hashed : List (String × String) := []
  /-- How often they have been run. -/
  hits : List (String × Nat) := []
  /-- Limits of what processes may use, by letter. -/
  limits : List (Char × String) := []
  /-- The bits that new files do not get. -/
  mask : Nat := 18
  /-- Options of the large shell that are not as they are at the start. -/
  changed : List String := []
  /-- Where the reading of options has come to. -/
  optionOffset : Nat := 0
  /-- The number of the argument that it has come to, in the plain shell. -/
  optionIndex : Nat := 1
  /-- The last word of the last command, in the large shell. -/
  lastWord : String := ""
  /-- Variables that are set only while the current command runs, and how they were before. -/
  lent : List (String × Option Variable) := []
  /-- The descriptor that the large shell's trace is written to. -/
  tracedTo : Nat := 2
  /-- The status of each stage of the last pipeline. -/
  stages : List Nat := []
  /-- Where numbers by chance come from. -/
  random : Random := {}
  /-- What the clock of the script showed when the machine's began. -/
  secondsAtStart : Int := 0
  /-- A name that the script has given to itself. -/
  renamed : Option String := none
  /-- Variables of the large shell that are worked out no more. -/
  ordinary : List String := []
  /-- The command that is being run. -/
  current : Statement := .nothing
  /-- The command of the large shell that sets variables, if one does. -/
  setter : Option String := none
  /-- Commands of the large shell that are not to be known. -/
  disabled : List String := []
  /-- Descriptors under which scripts in words are read and written. -/
  passages : List Nat := []
  /-- Directories to come back to. -/
  directories : List String := []
  /-- The occasions whose actions are being taken. -/
  acting : List String := []
  /-- Whether this is a copy for a part in parentheses. -/
  enclosed : Bool := false

/-- What a shell does. -/
abbrev Act := EStateM Jump State

namespace State

/-- The directory that a number stands for in the list of those to come back to, counted from its
end if there is a minus in front. -/
def listed? (s : State) (cs : List Char) : Option String :=
  let all := s.path :: s.directories
  let (backward, digits) := match cs with
    | '-' :: cs => (true, cs)
    | '+' :: cs => (false, cs)
    | cs => (false, cs)
  if digits.isEmpty ∨ !digits.all Char.isDigit then none
  else
    let n := (String.ofList digits).toNat?.getD 0
    (if backward then all.reverse else all)[n]?

/-- Whether a further option of the large shell is on. -/
def hasFurther (s : State) (name : String) : Bool :=
  ((Switch.further.lookup name).getD false) != s.changed.contains name

end State

namespace Act

def dialect : Act Dialect := return (← get).setting.dialect

def isPlain : Act Bool := return (← get).setting.dialect = .plain

/-- Does something, and something else behind it in any case. -/
def always {α : Type} (after : Act Unit) (a : Act α) : Act α := do
  try a
  finally after

def setStatus (n : Nat) : Act Unit := modify fun s => { s with status := n }

/-- Leaves what is being done if the process has been halted. -/
def heed : Act Unit := do
  if (← get).machine.halted.isSome then throw (.killed Signal.forced)

/-- Acts on the signal for writing what nobody reads. -/
def actOnBrokenPipe : Act Unit := do
  match (← get).traps.lookup "PIPE" with
  | some "" => pure ()
  | some _ => modify fun s => { s with caught := s.caught ++ ["PIPE"] }
  | none => throw (.killed Signal.brokenPipe)

/-- Writes a text; the flag says whether there is somebody who can read it. -/
def send (descriptor : Nat) (text : String) : Act Bool := do
  let s ← get
  match s.descriptors.lookup descriptor with
  | some c =>
    let (machine, taken) := s.machine.send text c
    set { s with machine }
    if !taken then actOnBrokenPipe
    heed
    return taken
  | none => return true

def write (descriptor : Nat) (text : String) : Act Unit := discard (send descriptor text)

/-- Writes to the standard output, or notes why that cannot be done. -/
def out (text : String) : Act Unit := do
  if text ≠ "" then
    match Process.obstacle? (← get).descriptors 1 with
    | some e => modify fun s => { s with lost := some e }
    | none => if !(← send 1 text) then modify fun s => { s with lost := some .brokenPipe }

def err (text : String) : Act Unit := write 2 text

/-- What stands in front of a message: the shell or the file, and the line. -/
def heading : Act String := do
  let s ← get
  match s.setting.dialect, s.label with
  | .plain, none => return s.setting.name ++ ": " ++ toString s.line ++ ": "
  | .plain, some label => return s.setting.name ++ ": " ++ toString s.line ++ ": " ++ label ++ ": "
  | .bash, label =>
    if s.switches.contains .interactive then return s.setting.program ++ ": "
    else return (label.getD s.setting.name) ++ ": line " ++ toString s.line ++ ": "

/-- Gives a message about the current line. -/
def complain (text : String) : Act Unit := do err ((← heading) ++ text ++ "\n")

/-- Ends the shell with a status. -/
def exitWith {α : Type} (n : Nat) : Act α := do
  setStatus n
  throw .exit

def isOn (o : Switch) : Act Bool := return (← get).switches.contains o

/-- Gives a message, and gives up what the script is doing. -/
def giveUp {α : Type} (text : String) : Act α := do
  complain text
  setStatus (if ← isPlain then 2 else 1)
  throw .abandon

/-- Gives a message of the large shell, which ends if it is to end at errors. -/
def protest (text : String) : Act Unit := do
  complain text
  let s ← get
  if s.setting.dialect = .bash ∧ s.switches.contains .exitOnError then
    exitWith (if s.status = 0 then 1 else s.status)

/-- A fault in the script that a message is given for. What the script is doing is given up. -/
def fault {α : Type} (text : String) : Act α := do
  protest text
  setStatus (if ← isPlain then 2 else 1)
  throw .abandon

def turn (o : Switch) (on : Bool) : Act Unit :=
  modify fun s => { s with switches := Switch.turn s.switches o on }

/-- Whether a further option of the large shell is on. -/
def isFurtherOn (name : String) : Act Bool := do
  let s ← get
  return s.setting.dialect = .bash && s.hasFurther name

end Act

end ScriptSearch.Host.Shell
