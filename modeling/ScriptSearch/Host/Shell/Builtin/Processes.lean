import ScriptSearch.Host.Shell.Builtin.Basic

/-! Commands about processes: sending signals, and what is done on signals. -/

namespace ScriptSearch.Host.Shell.Builtin

open Act

/-- What ends a message about a process that is not there. -/
def notThere : String := "No such process"

/-- Acts on a signal to this shell, or leaves it for a process that waits. -/
def deliver (signal : Fin 128) (number : Nat) : Act Unit := do
  let s ← get
  if number = s.number ∨ number = 0 then
    let action := if Signal.certain.contains signal then none
      else (Signal.name? signal).bind (s.traps.lookup ·)
    match action with
    | some "" => pure ()
    | some _ =>
      modify fun s => { s with caught := s.caught ++ [(Signal.name? signal).getD ""] }
    | none =>
      let minds := s.setting.dialect = .plain ∨ signal ≠ Signal.quit
      if minds ∧ signal ∉ Signal.harmless then throw (.killed signal)
  else if signal ≠ Signal.question then
    modify fun s => { s with machine := { s.machine with
      signals := s.machine.signals ++ [{ number, signal, time := s.machine.clock }] } }

/-- Whether a process can be sent a signal. -/
def isThere (number : Nat) : Act Bool := do
  let s ← get
  return number = 0 ∨ number = s.number ∨ number = s.setting.process ∨ s.setting.ancestors.contains number ∨
    s.machine.running.contains number

/-- What a text that is to name a job leads to. -/
inductive JobName
  | found (j : Job)
  | ambiguous (text : String)
  | missing

/-- The job that a text names: by its place, as the last one or the one before, by how its text begins
or by what is in it. The plain shell keeps no text. -/
def jobNamed (spec : String) : Act JobName := do
  let s ← get
  let plain := s.setting.dialect = .plain
  let jobs := s.jobs.filter (·.listed)
  let only (text : String) (suits : Job → Bool) : JobName :=
    match jobs.filter suits with
    | [j] => .found j
    | [] => .missing
    | _ => .ambiguous text
  let given (j : Option Job) : JobName := match j with
    | some j => .found j
    | none => .missing
  match spec.toList with
  | ['%'] | ['%', '%'] | ['%', '+'] => return given jobs.head?
  | ['%', '-'] => return given (jobs[1]? <|> jobs[0]?)
  | '%' :: cs =>
    let text := String.ofList cs
    match text.toNat?, cs with
    | some n, _ => return given (jobs.find? (·.place = n))
    | none, _ =>
      if plain then return .missing
      match cs with
      | '?' :: cs =>
        return only (String.ofList cs) fun j => (j.text.splitOn (String.ofList cs)).length > 1
      | _ => return only text (·.text.startsWith text)
  | _ => return .missing

/-! ### Sending -/

/-- Writes the names of signals, or that of one. -/
def listSignals (command : String) (args : List String) : Act Nat := do
  let plain ← isPlain
  match args with
  | [] =>
    if plain then out (String.join ((List.range 65).map fun n => plainName n ++ "\n"))
    else out (signalTable)
    return 0
  | args =>
    let mut status := 0
    for arg in args do
      match (if plain then count? arg else (whole? arg).map Int.toNat) with
      | some n =>
        let n := if 128 < n then n - 128 else n
        match (Signal.names true).find? fun row => row.2.val = n with
        | some (name, _) => out ((if plain then plainName n else name) ++ "\n")
        | none =>
          if !plain ∧ n = 0 then out "EXIT\n"
          else if !plain ∧ 0 < n ∧ n < 34 then pure ()
          else status ← refuse command (if plain then "invalid signal number or exit status: " ++ arg
            else arg ++ ": invalid signal specification") 1
      | none =>
        match plain, Signal.ofString? true arg <|> furtherNumber? arg with
        | true, _ => status ← refuse command ("Illegal number: " ++ arg) 2
        | false, some n => out (toString n.val ++ "\n")
        | false, none => status ← refuse command (arg ++ ": invalid signal specification") 1
      if plain then return status
    return status
where
  /-- The numbers of occasions of the large shell that are no signals. -/
  furtherNumber? (arg : String) : Option (Fin 128) :=
    [("EXIT", Signal.question), ("DEBUG", Signal.farNumber 65), ("ERR", Signal.farNumber 66),
      ("RETURN", Signal.farNumber 67)].lookup (String.ofList (arg.toList.map Char.toUpper))
  /-- The name that the plain shell has for a number, or the number. -/
  plainName (n : Nat) : String :=
    (((Signal.names false).find? fun row => row.2.val = n).map (·.1)).getD (toString n)
  /-- Numbers and names in five columns. -/
  signalTable : String :=
    let rows := (Signal.names true).map fun row => (row.2.val, "SIG" ++ row.1)
    String.join (rows.zipIdx.map fun (row, i) =>
      (if row.1 < 10 then " " else "") ++ toString row.1 ++ ") " ++ row.2 ++
        (if i % 5 = 4 then "\n" else "\t")) ++ "\n"

/-- Sends a signal to a process by number, in the plain shell. A job is no group of processes of its
own there that could be sent one. -/
def sendPlain (signal : Fin 128) (target : String) : Act Bool := do
  let number ← match target.toList with
    | '%' :: _ => do
      match ← jobNamed target with
      | .found _ => pure none
      | _ => discard (refuse "kill" ("No such job: " ++ target) 2); pure none
    | '-' :: cs => discard (count "kill" (String.ofList cs)); pure none
    | _ => some <$> count "kill" target
  match number with
  | some n =>
    if ← isThere n then
      deliver signal n
      return true
  | none => pure ()
  complain (notThere ++ "\n")
  return false

def killPlain (args : List String) : Act Nat := do
  let usage := "Usage: kill [-s sigspec | -signum | -sigspec] [pid | job]... or\nkill -l [exitstatus]"
  match args with
  | [] => refuse "kill" usage 2
  | first :: rest =>
    let direct := match first.toList with
      | '-' :: cs => Signal.ofString? false (String.ofList cs)
      | _ => none
    match direct with
    | some signal => send usage signal rest
    | none =>
      options "kill" "l" "s" args fun g => do
        if g.has 'l' then return ← listSignals "kill" g.rest
        match g.valued.getLast? with
        | none => send usage Signal.termination g.rest
        | some (_, name) =>
          match Signal.ofString? false name with
          | some signal => send usage signal g.rest
          | none => refuse "kill" ("invalid signal number or name: " ++ name) 2
where
  send (usage : String) (signal : Fin 128) (targets : List String) : Act Nat := do
    if targets.isEmpty then return ← refuse "kill" usage 2
    let mut status := 0
    for target in targets do
      if !(← sendPlain signal target) then status := 1
    return status

/-- How a signal is chosen in the large shell, and the targets. -/
inductive Wanted
  | usage
  | listing (names : List String)
  | missing (option : String)
  | send (written : String) (targets : List String)

def choice (seen : Bool) (written : String) : List String → Wanted
  | [] => .send written []
  | arg :: args =>
    match arg.toList with
    | ['-', 'l'] | ['-', 'L'] => .listing args
    | ['-', 's'] | ['-', 'n'] =>
      match args with
      | name :: args => choice seen name args
      | [] => .missing arg
    | ['-', '-'] => .send written args
    | ['-', '?'] => .usage
    | '-' :: letter :: c :: cs =>
      if (letter = 's' ∧ c.isAlpha) ∨ (letter = 'n' ∧ c.isDigit) then
        choice seen (String.ofList (c :: cs)) args
      else if seen then .send written (arg :: args)
      else choice true (String.ofList (letter :: c :: cs)) args
    | '-' :: cs =>
      if seen then .send written (arg :: args) else choice true (String.ofList cs) args
    | _ => .send written (arg :: args)

def killLarge (args : List String) : Act Nat := do
  if args.isEmpty then tellUsage "kill"; return 2
  match choice false "TERM" args with
  | .usage => tellUsage "kill"; return 2
  | .listing names => listSignals "kill" names
  | .missing option => refuse "kill" (option ++ ": option requires an argument") 1
  | .send written targets =>
    match Signal.ofString? true written with
    | none => refuse "kill" (written ++ ": invalid signal specification") 1
    | some signal =>
      if targets.isEmpty then tellUsage "kill"; return 2
      let mut reached := false
      for target in targets do
        match target.toList, whole? target with
        | _, some n =>
          if 0 ≤ n ∧ (← isThere n.toNat) then
            deliver signal n.toNat
            reached := true
          else complain ("kill: (" ++ toString n ++ ") - " ++ notThere)
        | '%' :: _, _ =>
          match ← jobNamed target with
          | .found j =>
            if j.isRunning then
              deliver signal j.number
              reached := true
            else complain ("kill: " ++ target ++ ": no such job")
          | .ambiguous text => complain ("kill: " ++ text ++ ": ambiguous job spec")
          | .missing => complain ("kill: " ++ target ++ ": no such job")
        | [], _ => complain "kill: \x60': not a pid or valid job spec"
        | _, _ => complain ("kill: " ++ target ++ ": arguments must be process or job IDs")
      return if reached then 0 else 1

def kill (args : List String) : Act Nat := do
  if ← isPlain then killPlain args else killLarge args

/-! ### Actions -/

/-- What can be acted on, in the order in which it is shown. -/
def occasions : List String := "EXIT" :: (Signal.names true).map (·.1) ++ ["DEBUG", "ERR", "RETURN"]

/-- The occasion that an argument names. -/
def occasion? (d : Dialect) (arg : String) : Option String :=
  let name := Signal.upper arg
  if arg = "0" ∨ name = "EXIT" then some "EXIT"
  else if d = .bash ∧ ["DEBUG", "ERR", "RETURN"].contains name then some name
  else (Signal.ofString? (d = .bash) arg).bind fun signal =>
    some ((Signal.name? signal).getD (toString signal.val))

def showTraps (names : List String) : Act Nat := do
  let s ← get
  let d := s.setting.dialect
  for name in names do
    if let some action := s.traps.lookup name <|> s.formerTraps.lookup name then
      let shown := match d, (Signal.names true).lookup name with
        | .bash, some _ => "SIG" ++ name
        | .plain, some signal =>
          if ((Signal.names false).lookup name).isSome then name else toString signal.val
        | _, none => name
      out ("trap -- " ++ singleQuoted d action ++ " " ++ shown ++ "\n")
  return 0

def setTrap (name : String) (action : Option String) : Act Unit :=
  modify fun s => { s with
    formerTraps := []
    traps := s.traps.filter (·.1 ≠ name) ++ (action.map fun a => (name, a)).toList }

/-- Sets an action for occasions, or takes it away. -/
def setTraps (action : Option String) (args : List String) : Act Nat := do
  let d ← dialect
  let mut status := 0
  for arg in args do
    match occasion? d arg with
    | some name => setTrap name action
    | none =>
      if d = .plain then
        err ("trap: " ++ arg ++ ": bad trap\n")
        return 1
      else status ← refuse "trap" (arg ++ ": invalid signal specification") 1
  return status

def trap (args : List String) : Act Nat := do
  let d ← dialect
  options "trap" (if d = .plain then "" else "lp") "" args fun g => do
    if g.has 'l' then return ← listSignals "trap" []
    if g.has 'p' ∧ !g.rest.isEmpty then
      return ← showTraps (g.rest.filterMap (occasion? d))
    match g.rest with
    | [] => showTraps occasions
    | first :: rest =>
      let isNumber := first != "" && first.toList.all Char.isDigit && (occasion? d first).isSome
      if isNumber ∨ (rest.isEmpty ∧ (d = .plain ∨ (occasion? d first).isSome)) then
        setTraps none g.rest
      else if rest.isEmpty then
        tellUsage "trap"
        return 2
      else setTraps (if first = "-" then none else some first) rest

end ScriptSearch.Host.Shell.Builtin
