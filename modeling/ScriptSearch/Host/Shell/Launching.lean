import ScriptSearch.Host.Shell.Bindings

/-! The shell among other processes: what programs get from it and how they are run, what it reads,
signals, and the time that passes. Parts of a script that run beside the shell go on when time has
passed for the shell. -/

namespace ScriptSearch.Host.Shell.Act

/-! ### What programs get -/

/-- The row that the plain shell keeps a name in, in a table of so many rows. -/
def place (rows : Nat) (name : String) : Nat :=
  let codes := (Octet.bytes name).map (·.toNat)
  codes.foldl (· + ·) (codes.headD 0 * 16) % rows

/-- The variables that programs get. In the large shell those for the current command come
first, and functions last. -/
def environment (s : State) : List String :=
  let large := s.setting.dialect = .bash
  let isLent (b : String × Variable) : Bool := (s.lent.lookup b.1).isSome
  let bindings := if large then
      inRows 4 (s.bindings.filter isLent) ++ inRows 1024 (s.bindings.filter fun b => !isLent b)
    else s.bindings.mergeSort fun a b => place 39 a.1 ≤ place 39 b.1
  let functions := if large then inRows 1024 (s.functions.filter (·.2.exported)) else []
  bindings.filterMap (fun b =>
    if !b.2.exported then none
    else match ((s.bound? b.1).getD b.2).content with
      | .text v => v.map fun v => b.1 ++ "=" ++ v
      | _ => none) ++
  functions.map fun f => "BASH_FUNC_" ++ f.1 ++ "%%=" ++ Printed.function "" false f.2.body

/-! ### Processes -/

/-- Takes what there is to read up to a character, or to a number of them. -/
def readUpTo (descriptor : Nat) (stop : Char) (limit : Option Nat) : Act String := do
  let wide ← isWide
  let s ← get
  match s.descriptors.lookup descriptor with
  | some c =>
    let (text, machine) := s.machine.readUpTo wide stop limit c
    set { s with machine }
    heed
    return text
  | none => return ""

/-- Signals that have no effect. -/
def ignored (s : State) : List (Fin 128) :=
  s.traps.filterMap fun t => if t.2 = "" then (Signal.names true).lookup t.1 else none

/-- The shell as a process. -/
def process (s : State) : Process :=
  { number := s.number, ancestors := s.setting.ancestors, ignored := ignored s
    name := s.setting.name, args := s.args, environment := environment s, here := s.here
    descriptors := s.descriptors, mask := s.mask }

/-- The first signal on its way to the shell that it has no action for and that ends it. -/
def fatal? (s : State) : Option Sent :=
  let ends (sent : Sent) : Bool :=
    sent.number = s.number && !Signal.harmless.contains sent.signal &&
      (Signal.certain.contains sent.signal ||
        ((Signal.name? sent.signal).bind (s.traps.lookup ·)).isNone)
  (s.machine.signals.filter ends).foldl
    (fun found sent => match found with
      | some first => if sent.time < first.time then some sent else found
      | none => some sent) none

/-- How long a program takes to be started. -/
def startingTime : Nat := 500

/-- Runs the file at a path, as a process that is given. The shell can be ended meanwhile. -/
def launch (path : String) (p : Process) : Act (Except OsError Termination) := do
  let s ← get
  let fatal := fatal? s
  if let some sent := fatal then
    if sent.time ≤ s.machine.clock then throw (.killed sent.signal)
  let deadline := Beside.sooner s.machine.deadline (fatal.map (·.time))
  let start := { s.machine with deadline }.pass startingTime
  match s.setting.execute path p start with
  | .error e => return .error e
  | .ok (machine, ending) =>
    let restored := { machine with deadline := s.machine.deadline }
    let here := machine.tree.settle s.here
    match fatal, machine.halted with
    | some sent, some (.asleep _) =>
      if machine.clock = sent.time ∧ s.machine.deadline.all (sent.time < ·) then
        set { s with machine := { restored with halted := none }, here }
        throw (.killed sent.signal)
    | _, _ => pure ()
    set { s with machine := restored, here }
    heed
    return .ok ending

/-- Whether a program takes the place of this shell, which has nothing else to do. -/
def givesPlace (s : State) : Bool := s.final && s.depth ≠ 0 && (s.traps.lookup "EXIT").isNone

/-- Runs the file at a path as a process of its own. -/
def run (path name : String) (args : List String) : Act (Except OsError Termination) := do
  let s ← get
  let (number, machine) := if givesPlace s then (s.number, s.machine) else s.machine.fresh
  set { s with machine }
  let p := process s
  let environment := p.environment ++ if s.setting.dialect = .bash then ["_=" ++ path] else []
  launch path { p with
    environment, number, name, args
    ancestors := (if givesPlace s then [] else [s.number]) ++ s.parents ++ p.ancestors }

/-- Notes that so many processes that the shell has waited for have come to an end. -/
def noteChildren (count : Nat) : Act Unit := do
  if ((← get).traps.lookup "CHLD").any (· ≠ "") then
    let count := if ← isPlain then min 1 count else count
    modify fun s => { s with caught := s.caught ++ List.replicate count "CHLD" }

/-- Takes the signals that other processes have sent. -/
def received : Act (List (Fin 128)) := do
  let s ← get
  let (mine, others) := s.machine.signals.partition fun sent =>
    sent.number = s.number && sent.time ≤ s.machine.clock
  if !mine.isEmpty then set { s with machine := { s.machine with signals := others } }
  return mine.map (·.signal)

/-! ### Time -/

/-- The texts on their way that the shell can still write to. -/
def live (s : State) : List Nat :=
  s.descriptors.filterMap fun d =>
    match d.2 with
    | .stream n => if d.1 = 0 then none else some n
    | _ => none

/-- Lets a part beside the shell go on up to a time, or to its end; gives the time of its end. -/
def advance (limit : Option Nat) (number : Nat) : Act (Option Nat) := do
  let s ← get
  match s.deferred.find? (·.number = number) with
  | none => return none
  | some b =>
    let progress := b.run limit (live s) s.machine
    let now := { s with machine := progress.machine }
    match progress.ended with
    | some (ending, time) =>
      set { now with
        deferred := s.deferred.filter (·.number ≠ number), jobs := Job.withEnd s.jobs number ending time }
      return some time
    | none =>
      set { now with deferred := s.deferred.map fun (d : Beside) => if d.number = number then progress.left else d }
      heed
      return none

/-- The parts beside the shell that do something up to a time, in the order in which they end. -/
def inOrder (limit : Option Nat) : Act (List Nat) := do
  let s ← get
  let isCalled (b : Beside) : Bool :=
    s.machine.signals.any fun sent => sent.number = b.number && limit.all (sent.time ≤ ·)
  match s.deferred.filter fun b => limit.all (b.wake ≤ ·) || isCalled b with
  | [] => return []
  | [b] => return [b.number]
  | due =>
    let timed := due.map fun b => (b.number, (b.run limit (live s) s.machine).ended.map (·.2))
    let before (a b : Nat × Option Nat) : Bool :=
      match a.2, b.2 with
      | some x, some y => x ≤ y
      | none, some _ => false
      | _, none => true
    return (timed.mergeSort before).map (·.1)

/-- Lets the parts beside the shell go on up to a time, or to their ends. -/
def elapse (limit : Option Nat) : Act Unit := do
  for number in ← inOrder limit do discard (advance limit number)

/-- How far ahead of the shell the parts beside it can be when it does something that takes time. -/
def lead : Nat := 10000

/-- Lets the parts beside the shell go on while it does something that takes time. -/
def awaitJobs : Act Unit := do
  let s ← get
  if !s.deferred.isEmpty then elapse (some (s.machine.clock + lead))

/-- Lets the parts beside the shell come to their ends. -/
def awaitEnds : Act Unit := do
  let s ← get
  if !s.deferred.isEmpty then
    let mut last := s.machine.clock
    for number in ← inOrder none do
      if let some time := ← advance none number then last := max last time
    modify fun now => { now with machine := { now.machine with clock := last } }

/-- Notes the ends of parts beside the shell after it has waited for something. In the large shell, the
variables and descriptors for such a part go away. -/
def noteEnds : Act Unit := do
  let s ← get
  let ended := s.jobs.filter (·.hasEnded s.machine.clock)
  if s.setting.dialect = .plain then
    modify fun s => { s with jobs := ended.foldl (fun jobs j => Job.change jobs j.number ({ · with noticed := true })) s.jobs }
  else
    for j in ended do
      if let some (name, held) := j.companion then
        removeVariable name
        removeVariable (name ++ "_PID")
        modify fun s => { s with
          jobs := Job.change s.jobs j.number ({ · with companion := none })
          descriptors := s.descriptors.filter fun d => !held.contains d.1 }

/-- Makes room for something that is started in the plain shell. -/
def makeRoom : Act Unit :=
  modify fun s => if s.setting.dialect = .plain then { s with jobs := Job.withoutAwaited s.jobs } else s

/-- How long a command takes. -/
def step : Nat := 10

/-- Lets time pass while a command is run. -/
def spend (time : Nat) : Act Unit := do
  modify fun s => { s with machine := s.machine.pass time }
  heed
  let s ← get
  if !s.deferred.isEmpty then elapse (some s.machine.clock)

end ScriptSearch.Host.Shell.Act
