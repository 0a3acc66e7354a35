import ScriptSearch.Host.Shell.Builtin.Processes
import ScriptSearch.Host.Shell.Builtin.Variables
import ScriptSearch.Host.Shell.External

/-! Commands about parts that run beside the shell: lists of them, and waiting. -/

namespace ScriptSearch.Host.Shell.Builtin

open Act

/-! ### Lists -/

/-- What a list says of how a job stands. -/
def stateText (d : Dialect) (j : Job) : String :=
  match j.ended with
  | none => "Running"
  | some (.exited 0, _) => "Done"
  | some (.exited code, _) =>
    match d with
    | .plain => "Done(" ++ toString code.toNat ++ ")"
    | .bash => "Exit " ++ toString code.toNat
  | some (.killed signal, _) => (Signal.description? signal).getD ("Signal " ++ toString signal.val)

/-- The mark of a job among those that are listed, the last first. -/
def markOf (jobs : List Job) (j : Job) : String :=
  match jobs.findIdx? (·.number = j.number) with
  | some 0 => "+"
  | some 1 => "-"
  | _ => " "

def padded (width : Nat) (text : String) : String := text.pushn ' ' (width - text.length)

/-- The line of a job; with the number of its process if that is asked for. -/
def jobLine (d : Dialect) (jobs : List Job) (long : Bool) (j : Job) : String :=
  let mark := markOf jobs j
  let place := "[" ++ toString j.place ++ "]"
  match d with
  | .bash =>
    let front := if long then mark ++ " " ++ toString j.number ++ " " else mark ++ "  "
    let behind := if j.isRunning then j.text ++ " &" else j.text
    place ++ front ++ padded 24 (stateText d j) ++ behind ++ "\n"
  | .plain =>
    let front := place ++ " " ++ mark ++ " " ++ if long then toString j.number ++ " " else ""
    padded 33 (front ++ stateText d j) ++ String.join (List.replicate (j.stages - 1) " | ") ++ "\n"

/-- Forgets jobs. -/
def forget (numbers : List Nat) : Act Unit :=
  modify fun s => { s with jobs := s.jobs.filter fun j => !numbers.contains j.number }

/-- Takes jobs off the list. -/
def unlist (numbers : List Nat) : Act Unit :=
  modify fun s => { s with
    jobs := s.jobs.map fun j => if numbers.contains j.number then { j with listed := false } else j }

def listedJobs : Act (List Job) := return (← get).jobs.filter (·.listed)

/-- Shows jobs. Those that have ended are shown only once. -/
def showJobs (command : String) (g : Given) (jobs : List Job) : Act Unit := do
  let d ← dialect
  for j in jobs do
    let listed ← listedJobs
    let wasKilled := match j.ended with
      | some (.killed _, _) => true
      | _ => false
    let suits := (!g.has 'r' || j.isRunning) && !g.has 's' && !(d = .bash && wasKilled)
    if suits then
      if g.has 'p' then out (toString j.number ++ "\n")
      else out (jobLine d listed (g.has 'l') j)
    if command = "jobs" ∧ d = .plain ∧ !j.isRunning then forget [j.number]
  if d = .bash then unlist ((jobs.filter fun j => !j.isRunning).map (·.number))

/-- Does something for the jobs that arguments name, or tells that there is none. -/
def eachNamed (command : String) (args : List String) (act : Job → Act Unit) : Act Nat := do
  let plain ← isPlain
  let mut status := 0
  for arg in args do
    let named ← match arg.toNat?, plain with
      | some number, false =>
        pure (match (← listedJobs).find? (·.number = number) with
          | some j => .found j
          | none => .missing)
      | _, _ => jobNamed (if arg.startsWith "%" ∨ plain then arg else "%" ++ arg)
    match named with
    | .found j => act j
    | .ambiguous text =>
      complain (command ++ ": " ++ text ++ ": ambiguous job spec")
      status ← refuse command (arg ++ ": no such job") 1
    | .missing =>
      if plain then status ← refuse command ("No such job: " ++ arg) 2
      else status ← refuse command (arg ++ ": no such job") 1
  return status

def listJobs (args : List String) : Act Nat := do
  let plain ← isPlain
  options "jobs" (if plain then "lp" else "lnprs") "" args fun g => do
    if g.rest.isEmpty then
      let jobs ← listedJobs
      showJobs "jobs" g (if plain then jobs else jobs.reverse)
      return 0
    else eachNamed "jobs" g.rest fun j => showJobs "jobs" g [j]

/-- Forgets jobs: those that are named, all, those that run, or the last one. -/
def disown (args : List String) : Act Nat :=
  options "disown" "ahr" "" args fun g => do
    let forget (numbers : List Nat) : Act Unit := if g.has 'h' then pure () else forget numbers
    let jobs ← listedJobs
    if !g.rest.isEmpty then eachNamed "disown" g.rest fun j => forget [j.number]
    else if g.has 'a' ∨ g.has 'r' then
      forget ((jobs.filter fun j => !g.has 'r' || j.isRunning).map (·.number))
      return 0
    else
      match jobs with
      | j :: _ =>
        forget [j.number]
        return 0
      | [] => refuse "disown" "current: no such job" 1

/-! ### Waiting -/

/-- The first signal on its way to the shell up to a time that keeps it from waiting. -/
def alarm? (time : Nat) : Act (Option Sent) := do
  let s ← get
  let minds (sent : Sent) : Bool :=
    match (Signal.name? sent.signal).bind (s.traps.lookup ·) with
    | some action => action ≠ ""
    | none => !Signal.harmless.contains sent.signal
  let mine := s.machine.signals.filter fun sent =>
    sent.number = s.number && sent.time ≤ time && minds sent
  return mine.foldl (fun found sent => match found with
    | some first => if sent.time < first.time then some sent else found
    | none => some sent) none

/-- Sets the clock forward. -/
def forward (time : Nat) : Act Unit :=
  modify fun s => { s with machine := { s.machine with clock := max s.machine.clock time } }

/-- Waits for a process to end. If a signal comes first, gives the status for that. -/
def awaitNumber (number : Nat) : Act (Option Nat) := do
  let s ← get
  match s.deferred.find? (·.number = number) with
  | none => return none
  | some b =>
    match (b.run none (live s) s.machine).ended with
    | some (_, time) =>
      elapse (some (max time s.machine.clock))
      noteChildren 1
      match ← alarm? (max time s.machine.clock) with
      | some sent =>
        forward sent.time
        return some (128 + sent.signal.val)
      | none =>
        forward time
        return none
    | none =>
      if s.machine.deadline.isSome then spend (Nat.pow 10 15)
      return none

/-- Waits for processes in the order in which they end, up to a signal. -/
def awaitNumbers : List Nat → Act (Option Nat)
  | [] => return none
  | number :: rest => do
    match ← awaitNumber number with
    | some status => return some status
    | none => awaitNumbers rest

/-- Waits for all processes beside the shell. -/
def waitAll : Act Nat := do
  let known := ((← get).jobs.filter (·.isRunning)).map (·.number)
  match ← awaitNumbers ((← inOrder none).filter known.contains) with
  | some status => return status
  | none =>
    if (← dialect) = .bash then unlist ((← get).jobs.map (·.number))
    else modify fun s => { s with jobs := s.jobs.map ({ · with awaited := true, noticed := true }) }
    return 0

/-- The job that a text names, or nothing with a message. -/
def waitedFor (spec : String) : Act (Option Job) := do
  match ← jobNamed spec with
  | .found j => return some j
  | .ambiguous text =>
    complain ("wait: " ++ text ++ ": ambiguous job spec")
    return none
  | .missing =>
    if ← isPlain then discard (refuse "wait" ("No such job: " ++ spec) 2)
    else complain ("wait: " ++ spec ++ ": no such job")
    return none

/-- The processes that arguments name. -/
def namedProcesses (args : List String) : Act (List Nat) := do
  let mut found := []
  for arg in args do
    match arg.toNat? with
    | some number =>
      if (← get).jobs.any (·.number = number) then found := found ++ [number]
      else complain ("wait: " ++ arg ++ ": no such job")
    | none =>
      let named ← jobNamed arg
      if let .ambiguous text := named then complain ("wait: " ++ text ++ ": ambiguous job spec")
      match named with
      | .found j => found := found ++ [j.number]
      | _ => complain ("wait: " ++ arg ++ ": no such job")
  return found

/-- Waits for the next process that ends, of all or of those that are named, and gives its number. -/
def waitNext (args : List String) : Act (Nat × Option Nat) := do
  let named ← namedProcesses args
  let suits (j : Job) : Bool := j.listed && (args.isEmpty || named.contains j.number)
  let take (j : Job) : Act (Nat × Option Nat) := do
    unlist [j.number]
    return (j.status, some j.number)
  match (((← get).jobs.reverse).filter suits).find? (!·.isRunning) with
  | some j => take j
  | none =>
    let running := ((← get).jobs.filter suits).map (·.number)
    match ((← inOrder none).filter running.contains).head? with
    | none => return (127, none)
    | some number =>
      match ← awaitNumber number with
      | some status => return (status, none)
      | none =>
        match (← get).jobs.find? (·.number = number) with
        | some j => take j
        | none => return (127, none)

/-- Waits for processes that are named; the status is that of the last one. -/
def waitFor (args : List String) : Act (Nat × Option Nat) := do
  let plain ← isPlain
  let mut last : Nat × Option Nat := (0, none)
  for arg in args do
    let named : Option Job ← match arg.toList with
      | '%' :: _ => do
        let named ← waitedFor arg
        if named.isNone then last := (127, none)
        pure named
      | _ => do
        let jobs := (← get).jobs
        if plain then
          let n ← count "wait" arg
          last := (127, none)
          pure (jobs.find? (·.number = n))
        else match count? arg with
          | some n =>
            match jobs.find? (·.number = n) with
            | some j => pure (some j)
            | none =>
              complain ("wait: pid " ++ arg ++ " is not a child of this shell")
              last := (127, none)
              pure none
          | none =>
            last := (← refuse "wait" ("\x60" ++ arg ++ "': not a pid or valid job spec") 1, none)
            pure none
    if let some j := named then
      match ← awaitNumber j.number with
      | some status => return (status, none)
      | none =>
        let now := (← get).jobs.find? (·.number = j.number)
        let status := (now.map (·.status)).getD 127
        if plain then
          match now.bind (·.ended), (now.map (·.noticed)).getD true with
          | some (.killed signal, _), false => tellKilled signal
          | _, _ => pure ()
          modify fun s => { s with jobs := Job.change s.jobs j.number ({ · with awaited := true, noticed := true }) }
        else unlist [j.number]
        last := (status, some j.number)
  return last

def wait (args : List String) : Act Nat := do
  let plain ← isPlain
  awaitJobs
  options "wait" (if plain then "" else "nf") (if plain then "" else "p") args fun g => do
    if let some name := g.valued.lookup 'p' then
      if !isName (State.splitKey name).1 then return ← refuse "wait" (noName name) 1
      if ((← bound? name).map (·.fixed)).getD false then
        return ← refuse "wait" (name ++ ": cannot unset: readonly variable") 1
      removeVariable name
    let (status, number?) ← if g.has 'n' then waitNext g.rest
      else if g.rest.isEmpty then pure (← waitAll, none)
      else waitFor g.rest
    noteEnds
    match g.valued.lookup 'p', number? with
    | some name, some number => assign name (toString number)
    | _, _ => pure ()
    return status

end ScriptSearch.Host.Shell.Builtin
