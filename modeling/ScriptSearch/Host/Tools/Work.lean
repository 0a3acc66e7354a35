import ScriptSearch.Host.Locale
import ScriptSearch.Host.ProgramPath
import ScriptSearch.Host.Quoted
import ScriptSearch.Host.Signal
import ScriptSearch.Host.Tools.Options

/-! What a tool does. It sees its process, reads and changes the machine, and gathers the text
that it writes, which goes to the standard output when it ends or before it starts another
program. It can stop where it is with a status, or let another program take its place. -/

namespace ScriptSearch.Host.Tools

/-- What a tool works with: its process, and how programs are run. -/
structure Setting where
  process : Process
  execute : Execution

/-- What a tool has come to. -/
structure Progress where
  status : UInt8 := 0
  /-- What has still to be written. -/
  written : String := ""
  /-- Why something could not be written. -/
  lost : Option OsError := none
  /-- The status for that. -/
  lostStatus : UInt8 := 1

abbrev Work := ReaderT Setting (ExceptT Outcome (StateT Progress Activity))

namespace Work

def process : Work Process := return (← read).process

def machine : Work Machine := getThe Machine

/-- The tree of files, and the directory that is worked in. -/
def place : Work (FileTree × Directory) := return ((← machine).tree, (← process).here)

/-- Whether text is characters, and not bytes. -/
def isWide : Work Bool := return Locale.ofProcess (← process)

/-- Whether a tool is told to keep to the letter of the standard. -/
def isStrict : Work Bool := return (settingOf? (← process).environment "POSIXLY_CORRECT").isSome

/-! ### Writing -/

def say (text : String) : Work Unit := modify fun g => { g with written := g.written ++ text }

/-- Ends a tool that has been halted. -/
def heed : Work Unit := do
  if (← machine).halted.isSome then throw (.ended (.killed Signal.forced))

/-- Writes what has been gathered. A tool is killed if nobody can read it any more, unless it minds
no such signal. -/
def flush : Work Unit := do
  let g ← get
  if g.written ≠ "" then
    let p ← process
    set { g with written := "" }
    match Process.obstacle? p.descriptors 1, p.channel? 1 with
    | some e, _ => modify fun g => { g with lost := some e }
    | none, some c =>
      let (m, taken) := (← machine).send g.written c
      set m
      if !taken then
        if p.ignored.contains Signal.brokenPipe then modify fun g => { g with lost := some .brokenPipe }
        else throw (.ended (.killed Signal.brokenPipe))
      heed
    | none, none => pure ()

/-- How much is written of a text that has no end: more than there is room for. -/
def endlessSize : Work Nat := do
  let p ← process
  match p.channel? 1 with
  | some (.stream n) => return (((← machine).pipes.find? (·.stream = n)).map (·.room + 1)).getD 131072
  | _ => return 131072

/-- Writes what has been gathered of a text that has no end, after which nobody takes it any more. -/
def breakOff : Work Unit := do
  flush
  let p ← process
  if (← get).lost.isNone ∧ (Process.obstacle? p.descriptors 1).isNone then
    throw (.ended (.killed Signal.brokenPipe))

/-- Gives a message under the tool's name. -/
def warn (text : String) : Work Unit := do
  let p ← process
  p.err (p.name ++ ": " ++ text ++ "\n")

def setStatus (status : UInt8) : Work Unit := modify fun g => { g with status }

/-- Gives a message, and goes on to end with a status. -/
def fault (text : String) (status : UInt8 := 1) : Work Unit := do
  warn text
  setStatus status

/-- Ends here. -/
def leave {α : Type} (status : UInt8) : Work α := throw (.ended (.exited status))

/-- Gives a message and ends. -/
def fail {α : Type} (text : String) (status : UInt8 := 1) : Work α := do
  warn text
  leave status

/-- Gives a message about how the tool was called, and ends. -/
def refuse {α : Type} (text : String) (status : UInt8 := 1) : Work α := do
  warn text
  let p ← process
  p.err ("Try '" ++ p.name ++ " --help' for more information.\n")
  leave status

/-- A name between quotes. -/
def quoted (name : String) : Work String := return Quoted.plain (← isWide) name

/-- A name as a shell would read it back, between quotes only if it needs them. -/
def bare (name : String) : Work String := return Quoted.shell (← isWide) name

/-- A name as a shell would read it back, always between quotes. -/
def always (name : String) : Work String := return Quoted.quoted (← isWide) name

/-- A message about a name. -/
def about (name : String) (e : OsError) : Work String := return (← bare name) ++ ": " ++ e.message

/-! ### Arguments -/

/-- Takes options from arguments, or refuses those that are not known. -/
def optionsOf (t : OptionTable) (args : List String) (status : UInt8 := 1) : Work Given := do
  let strict ← isStrict
  match { t with inOrder := t.inOrder || strict : OptionTable }.read args with
  | .ok g =>
    if g.hasAny ["help", "version"] then leave 0
    return g
  | .error f => refuse f.message status

/-- Takes the tool's own options. -/
def options (t : OptionTable) (status : UInt8 := 1) : Work Given := do
  optionsOf t (← process).args status

/-- Refuses what stands behind the operands that there can be. -/
def refuseExtra (g : Given) (most : Nat) (status : UInt8 := 1) : Work Unit := do
  if let some extra := g.operands[most]? then
    refuse ("extra operand " ++ (← quoted extra)) status

/-! ### Files -/

/-- The text of a file, or that of the standard input under the name `-`. -/
def contents (name : String) : Work (Except OsError String) := do
  let p ← process
  let m ← machine
  if name = "-" then
    match Process.unreadable? p.descriptors 0 with
    | some e => return .error e
    | none =>
      let (text, m) := p.input m
      set m
      return .ok text
  else
    match p.read name m with
    | .error e => return .error e
    | .ok (text, m) =>
      set m
      return .ok text

/-- Notes that all that was asked of the standard input was there, though it has been read to its end. -/
def satisfied : Work Unit := do
  let p ← process
  if let some c := p.channel? 0 then modifyThe Machine (·.starve false c)

/-- The text of a file, or a message if there is none. -/
def contents? (name : String) (status : UInt8 := 1) : Work (Option String) := do
  match ← contents name with
  | .ok text => return some text
  | .error e =>
    fault (← about name e) status
    return none

/-- The names of files to read: the standard input if there are none. -/
def inputs (g : Given) : List String := if g.operands.isEmpty then ["-"] else g.operands

/-- Changes the tree of files, unless that is not possible. -/
def change (act : FileTree → Directory → Except OsError FileTree) : Work (Option OsError) := do
  let (tree, here) ← place
  match act tree here with
  | .error e => return some e
  | .ok tree =>
    modifyThe Machine fun m => { m with tree }
    return none

/-- Writes a text under a path. -/
def store (path text : String) (opening : Opening := .replacing) : Work (Option OsError) := do
  let p ← process
  match p.openFile path opening (← machine) with
  | .error e => return some e
  | .ok (c, m) =>
    match Process.obstacle? [(1, c)] 1 with
    | some e =>
      set m
      return if text = "" then none else some e
    | none =>
      set (m.write text c)
      return none

/-! ### Other programs -/

/-- Runs a program by its name as a process of its own, which is given but for its number. -/
def runProgram (p : Process) : Work (Except OsError Termination) := do
  flush
  let own ← process
  let (number, m) := (← machine).fresh
  set m
  let p := { p with number, ancestors := own.number :: own.ancestors }
  match ProgramPath.find p.name p m with
  | .error e => return .error e
  | .ok (path, p) =>
    match (← read).execute path p m with
    | .error e => return .error e
    | .ok (m, ending) =>
      set m
      heed
      return .ok ending

/-- Lets a program take the place of the tool; gives back why that is not possible. -/
def become (p : Process) : Work OsError := do
  match ProgramPath.find p.name p (← machine) with
  | .error e => return e
  | .ok (path, p) => throw (.becomes path p)

/-- A machine on which a tool that has read all that others have written so far waits for more. -/
def waiting (m : Machine) : Machine :=
  if m.drained then { m with drained := false, halted := m.halted <|> some .hungry } else m

/-- Does a tool's work to its end. -/
def perform (work : Work Unit) (execute : Execution) (p : Process) (m : Machine) : Machine × Outcome :=
  let setting : Setting := { process := p, execute }
  let last : Work Outcome := do
    flush
    let g ← get
    match g.lost with
    | some e =>
      warn ("write error: " ++ e.message)
      return .ended (.exited g.lostStatus)
    | none => return .ended (.exited g.status)
  let ((ended, g), m) := StateT.run (StateT.run (ExceptT.run (ReaderT.run work setting)) {}) m
  let g := match ended with
    | .error (.ended (.exited status)) => { g with status }
    | _ => g
  match StateT.run (StateT.run (ExceptT.run (ReaderT.run last setting)) g) m with
  | ((.ok outcome, g), m) =>
    match ended with
    | .error (.becomes path p) => (m, .becomes path p)
    | .error (.ended (.killed signal)) => (waiting m, .ended (.killed signal))
    | _ => (waiting m, if g.lost.isSome then .ended (.exited g.lostStatus) else outcome)
  | ((.error outcome, _), m) => (waiting m, outcome)

end Work

end ScriptSearch.Host.Tools
