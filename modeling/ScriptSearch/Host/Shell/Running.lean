import ScriptSearch.Host.Shell.Assigning
import ScriptSearch.Host.Shell.Builtin.Processes
import ScriptSearch.Host.Shell.External

/-! What running a script rests on: ways to run its parts, actions that a script has set for
signals and other occasions, and copies of the shell. Parts in parentheses, stages of a pipeline
and substitutions run in a copy, of which only what it does to the machine stays. -/

namespace ScriptSearch.Host.Shell

/-- Ways to run what a command consists of. -/
structure Runner where
  statement : Statement → Act Unit
  /-- Runs a text that begins on a line. In the large shell, messages about flaws name where
  the text comes from. -/
  script : (origin : Option String) → (line : Nat) → String → Act Unit
  /-- Runs a command; functions can be left aside. -/
  command : (functions : Bool) → (name : String) → List String → Act Unit

/-- How a shell is left: at its end, by a signal, or because the program at a path takes its
place. -/
inductive Ending
  | finished
  | killed (signal : Fin 128)
  | becomes (path : String) (p : Process)

namespace Act

/-! ### Actions -/

/-- Takes the action for an occasion, after which everything is as it was before; gives the
status that the action ended with. -/
def takeAction (r : Runner) (name origin : String) (line : Nat) (action : String) : Act Nat := do
  let s ← get
  set { s with acting := name :: s.acting }
  let leave : Act Unit := modify fun now => { now with
    acting := s.acting, line := s.line, reached := s.reached, stages := s.stages }
  always leave (r.script (some origin) line action)
  let ended := (← get).status
  setStatus s.status
  return ended

/-- Takes the action for an occasion in the running of commands, if there is one and it is not
being taken already. -/
def onOccasion (r : Runner) (name origin : String) : Act Nat := do
  let s ← get
  if s.acting.contains name then return 0
  match s.traps.lookup name with
  | some action => if action = "" then return 0 else takeAction r name origin s.line action
  | none => return 0

/-- Takes actions on signals that have come. -/
def takeActions (r : Runner) : Act Unit := do
  for signal in ← received do
    Builtin.deliver signal (← get).number
  let s ← get
  if !s.caught.isEmpty then
    set { s with caught := [] }
    for name in s.caught do
      if let some action := s.traps.lookup name then discard (takeAction r name "trap" 1 action)

/-- Notes the command that comes next; while actions are taken, the one that led to them is
kept. -/
def noteCommand (statement : Statement) : Act Unit :=
  modify fun s => { s with current := if s.acting.isEmpty then statement else s.current }

/-- Notes the command that comes next, and takes the action for that. The action can keep the
command from being run. -/
def beforeCommand (r : Runner) (statement : Statement) (a : Act Unit) : Act Unit := do
  let s ← get
  if s.setting.dialect = .plain then a
  else
    noteCommand statement
    let ended ← onOccasion r "DEBUG" "debug trap"
    if ended = 0 ∨ !s.hasFurther "extdebug" then a

/-- Does something without actions for some occasions; those are set again behind it, unless
others have been set. -/
def withoutActions (names : List String) (a : Act Unit) : Act Unit := do
  let s ← get
  let hidden := s.traps.filter fun t => names.contains t.1
  if hidden.isEmpty then a
  else
    set { s with traps := s.traps.filter fun t => !names.contains t.1 }
    let leave : Act Unit := modify fun now =>
      let missing := hidden.filter fun t => (now.traps.lookup t.1).isNone
      { now with traps := now.traps ++ missing }
    always leave a

/-! ### Copies -/

/-- Runs a shell to its end, with the action for the end; the status is kept. -/
def toEnd (r : Runner) (a : Act Unit) : Act Ending := do
  let ended ← finish a
  let s ← get
  let skips := match ended with
    | .killed signal => s.setting.dialect = Dialect.plain || Signal.uncaught.contains signal
    | .becomes _ _ => true
    | .finished => false
  let ending ← match if skips then none else s.traps.lookup "EXIT" with
    | none => pure ended
    | some action => do
      set { s with
        traps := s.traps.filter (·.1 ≠ "EXIT"), interrupted := some s.status, line := 1
        acting := ["EXIT"]
        label := if s.setting.dialect = Dialect.plain then none else s.label }
      let last ← finish do
        r.script (some "exit trap") 1 action
        setStatus s.status
      pure (match ended, last with
        | .finished, last => last
        | ended, _ => ended)
  return ending
where
  finish (a : Act Unit) : Act Ending := do
    try
      a
      return .finished
    catch
      | .killed signal => return .killed signal
      | .become path p => return .becomes path p
      | _ => return .finished

/-- How a shell that has come to an end has ended. What has taken its place is run. -/
def terminationOf : Ending → Act Termination
  | .finished => return .exited (UInt8.ofNat ((← get).status % 256))
  | .killed signal => return .killed signal
  | .becomes path p => do
    match ← launch path p with
    | .ok ended => return ended
    | .error _ => return .exited 127

/-- Occasions whose actions stay in a copy of the shell. -/
def inherited (s : State) : List String :=
  (if s.switches.contains .inheritErrors then ["ERR"] else []) ++
    if s.switches.contains .inheritActions then ["DEBUG", "RETURN"] else []

/-- Runs something in a copy of the shell; tells how the copy has ended. What the copy has started
beside itself comes to its end too if that is waited for; else it goes on beside the shell. -/
def inCopyTo (r : Runner) (waits : Bool) (change : State → State) (a : Act Unit) : Act Termination := do
  makeRoom
  let s ← get
  let plain := s.setting.dialect = .plain
  let kept := inherited s
  let (number, machine) := s.machine.fresh
  let copy := change { s with
    machine, number, depth := s.depth + 1, parents := s.number :: s.parents, final := false
    traps := s.traps.filter fun t => t.2 = "" || kept.contains t.1
    formerTraps := if plain then [] else s.traps ++ s.formerTraps
    loops := if plain then s.loops else 0
    caught := [], jobs := [], deferred := [], interrupted := none }
  let whole : Act Termination := do
    let ending ← terminationOf (← toEnd r a)
    if waits then awaitEnds
    return ending
  let (ending, ended) := match EStateM.run whole copy with
    | .ok ending ended => (ending, ended)
    | .error _ ended => (.exited (UInt8.ofNat (ended.status % 256)), ended)
  set { s with
    machine := ended.machine, here := ended.machine.tree.settle s.here
    deferred := s.deferred ++ ended.deferred }
  heed
  noteEnds
  return ending

/-- Runs something in a copy of the shell, and gives the status. -/
def inCopy (r : Runner) (change : State → State) (a : Act Unit) (waits : Bool := false) : Act Nat :=
  return (← inCopyTo r waits change a).status

/-! ### Scripts in words -/

/-- Descriptors with one of them being a channel. -/
def directed (n : Nat) (c : Channel) (ds : List (Nat × Channel)) : List (Nat × Channel) :=
  (n, c) :: ds.filter (·.1 ≠ n)

/-- The file whose text a script stands for that only directs it to its input. -/
def fileIn? (script : String) : Act (Option Word) := do
  if (script.toList.dropWhile isBlank).head? ≠ some '<' then return none
  match EStateM.run (Reader.line (← ground)) { rest := script.toList } with
  | .ok (some (.simple _ [] [] [⟨.standard, .input, target⟩])) _ => return some target
  | _ => return none

/-- The text of the file that a word names. -/
def textOfFile (target : Word) : Act String := do
  let path ← textOfWord Scripts.none target.pieces
  let s ← get
  match (process s).read path s.machine with
  | .ok (text, machine) =>
    set { s with machine }
    return text
  | .error e =>
    if e ≠ .isDirectory then complain (path ++ ": " ++ e.message)
    modify fun s => { s with substitution := 1, status := 1 }
    return ""

/-- What a script writes, taken from a copy of the shell. -/
def outputOf (r : Runner) (line : Nat) (script : String) : Act String := do
  awaitJobs
  let s ← get
  let large := s.setting.dialect = .bash
  let file? ← if large then fileIn? script else pure none
  match file? with
  | some target => textOfFile target
  | none =>
    let s ← get
    let (c, machine) := s.machine.supply ""
    set { s with machine }
    let strict := s.hasFurther "inherit_errexit" || s.switches.contains .posix
    let change (copy : State) : State := { copy with
      descriptors := directed 1 c copy.descriptors
      traced := copy.traced + 1
      jobs := if large then s.jobs else []
      final := true, substituting := true
      switches := if large && !strict then copy.switches.filter (· ≠ .exitOnError) else copy.switches }
    let ending ← inCopyTo r true change
      (r.script (some "command substitution") (if large then s.line else line) script)
    if !large then tellEnding ending
    let status := ending.status
    modify fun s => { s with substitution := status, status := if large then status else s.status }
    noteChildren 1
    let s ← get
    let (text, machine) := s.machine.read c
    set { s with machine }
    return text

/-- The descriptor that a script's output or input gets first; others are below it. -/
def firstPassage : Nat := 63

/-- Does something to its end, and what it has started beside itself, for which it does not wait. -/
def workOf (start : State) (a : Act Termination) (m : Machine) : Machine × Termination :=
  let whole : Act Termination := do
    let ending ← a
    elapse none
    return ending
  match EStateM.run whole { start with machine := m, deferred := [] } with
  | .ok ending after => (after.machine, ending)
  | .error _ after => (after.machine, .exited (UInt8.ofNat (after.status % 256)))

/-- Starts something beside the shell, with the text and the number of stages that lists show if it
is to be listed. -/
def startBeside (r : Runner) (listed : Option (String × Nat)) (change : State → State) (a : Act Unit) :
    Act Nat := do
  makeRoom
  let now ← get
  let (number, machine) := now.machine.fresh
  let machine := { machine with running := number :: machine.running }
  let start := change { now with machine }
  let clock := now.machine.clock
  let b : Beside :=
    { number, start := clock, wake := clock + Beside.latency
      work := workOf start (inCopyTo r false (fun s => { s with number }) a) }
  let places := (now.jobs.filter (·.listed)).map (·.place)
  let place := if now.setting.dialect = .bash then places.foldl max 0 + 1
    else ((List.range (places.length + 1)).map (· + 1)).find? (!places.contains ·) |>.getD 1
  let job : Job := match listed with
    | some (text, stages) => { place, number, text, stages }
    | none => { place := 0, number, listed := false }
  set { now with
    machine, jobs := job :: now.jobs, lastBeside := some number, deferred := now.deferred ++ [b] }
  return number

/-- The path under which a script's output is read, or its input written, while the current
command runs. -/
def passageOf (r : Runner) (writes : Bool) (_ : Nat) (script : String) : Act String := do
  let s ← get
  let held := s.descriptors.map (·.1)
  let n := (((List.range 54).map (firstPassage - ·)).find? (!held.contains ·)).getD firstPassage
  let (c, machine) := s.machine.supply ""
  set { s with machine }
  let run : Act Unit := r.script (some "process substitution") s.line script
  if writes then
    discard (startBeside r none (fun now => { now with descriptors := directed 0 c now.descriptors }) run)
  else
    discard (inCopy r (fun copy => { copy with
      descriptors := directed 1 c copy.descriptors, traced := copy.traced + 1, jobs := s.jobs }) run true)
  modify fun now => { now with
    descriptors := directed n c now.descriptors, passages := n :: now.passages }
  return "/dev/fd/" ++ toString n

/-- How scripts in words are run. -/
def scriptsOf (r : Runner) : Scripts := { output := outputOf r, process := passageOf r }

/-- Does something, and takes away the passages that it has opened. -/
def withPassages (a : Act Unit) : Act Unit := do
  let before := (← get).passages
  let leave : Act Unit := modify fun s =>
    let opened := s.passages.filter (!before.contains ·)
    { s with
      passages := before
      descriptors := s.descriptors.filter fun d => !opened.contains d.1 }
  always leave a

end Act

end ScriptSearch.Host.Shell
