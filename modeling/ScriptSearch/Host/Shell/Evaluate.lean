import ScriptSearch.Host.Shell.Commands

/-! Running statements. A loop goes on as long as its condition says so or for every word; a choice
runs what stands behind the first pattern that matches. Parts in parentheses and stages of a
pipeline run in copies of the shell, and what is left to run beside it runs when its end is waited
for. -/

namespace ScriptSearch.Host.Shell.Act

/-! ### Errors -/

/-- Does something whose failure is no error. -/
def asTest (a : Act Unit) : Act Unit := do
  modify fun s => { s with tested := s.tested + 1 }
  always (modify fun s => { s with tested := s.tested - 1 }) a

/-- Does something on a line. The large shell is on the line before it again behind that, unless it
gives up. -/
def standing (line : Nat) (a : Act Unit) : Act Unit := do
  let s ← get
  set { s with line, errorLine := line }
  let back : Act Unit :=
    if s.setting.dialect = .bash then modify fun now => { now with line := s.line } else pure ()
  try a
  catch j =>
    match j with
    | .break _ | .continue _ => back
    | _ => pure ()
    throw j
  back

/-- Takes the action for errors after one, and ends the shell if errors are to end it. -/
def checkError (r : Runner) : Act Unit := do
  let s ← get
  if s.status ≠ 0 ∧ s.tested = 0 then
    if s.setting.dialect = .bash ∧ (s.traps.lookup "ERR").isSome then
      set { s with line := s.errorLine }
      discard (onOccasion r "ERR" "error trap")
    if s.switches.contains .exitOnError then throw .exit

/-- Does something that keeps the line. -/
def keepingLine (a : Act Unit) : Act Unit := do
  let line := (← get).line
  a
  if !(← isPlain) then modify fun s => { s with line }

/-- Keeps the status as that of the only stage. -/
def keepStage : Act Unit := modify fun s => { s with stages := [s.status] }

/-! ### Loops -/

/-- Runs a pass of a loop, and says whether the loop goes on. -/
def pass (a : Act Unit) : Act Bool := do
  try
    a
    return true
  catch
    | .break n => if n ≤ 1 then return false else throw (.break (n - 1))
    | .continue n => if n ≤ 1 then return true else throw (.continue (n - 1))
    | j => throw j

/-- Does something within a loop. -/
def inLoop (a : Act Unit) : Act Unit := do
  modify fun s => { s with loops := s.loops + 1 }
  always (modify fun s => { s with loops := s.loops - 1 }) a

/-- How often loops are gone through at most. -/
def passLimit : Nat := 1000000

/-- Goes through a loop as long as its condition says so; the status is that of the last
pass. -/
def repeated (r : Runner) (untilSuccess : Bool) (condition body : Statement) :
    Nat → (last : Nat) → Act Unit
  | 0, last => setStatus last
  | steps + 1, last => do
    let entered ← pass (asTest (r.statement condition))
    if !entered || ((← get).status == 0) == untilSuccess then setStatus last
    else
      let goesOn ← pass (r.statement body)
      let status := (← get).status
      if goesOn then repeated r untilSuccess condition body steps status

/-- A statement that stands for the head of another one. -/
def headOf (line : Nat) (texts : List String) : Statement :=
  .simple line [] (texts.map fun source => { source }) []

/-- The words of a loop as they are written. -/
def loopSources : Option (List Word) → List String
  | some ws => ws.map (·.source)
  | none => ["\"$@\""]

/-- Shows the head of a statement of the large shell, and takes the action for it. -/
def atHead (r : Runner) (line : Nat) (texts : List String) (a : Act Unit) : Act Unit := do
  if ← isPlain then a
  else
    beforeCommand r (headOf line texts) do
      traceLine (expandPrompt (scriptsOf r)) (String.intercalate " " (texts.filter (· ≠ "")))
      a

/-- Sets the variable of a loop to a word. One that stands for another variable stands for the one that
the word names then. -/
def turnTo (name word : String) : Act Unit := do
  match ← binding? name with
  | some v =>
    if v.reference ∧ !v.fixed then
      if isName (State.splitKey word).1 then putBinding name { v with content := .text (some word) }
      else
        complain ("\x60" ++ word ++ "': not a valid identifier")
        setStatus 1
        throw (.break 1)
    else set
  | none => set
where
  set : Act Unit := do
    if !(← managed (assign name word)) then
      setStatus 1
      throw (if ← isOn .posix then .exit else .break 1)

/-- Goes through a loop over words. -/
def eachOf (name : String) (body : Act Unit) (head : Act Unit → Act Unit) : List String → Act Unit
  | [] => pure ()
  | word :: rest => do
    let goesOn ← pass do
      head do
        turnTo name word
        body
    if goesOn then eachOf name body head rest

/-- The words that a loop goes through. -/
def loopFields (x : Scripts) : Option (List Word) → Act (List String)
  | some ws => return (← ws.mapM (bracedFields x)).flatten
  | none => return (← get).args

/-! ### Calculations -/

/-- The result of a calculation of the large shell, which is shown; nothing if there is a fault
in it. -/
def shownResult (r : Runner) (expression : Word) : Act (Option Int) := do
  let x := scriptsOf r
  let text ← textOfWord x expression.pieces
  traceLine (expandPrompt x) ("(( " ++ text ++ " ))")
  try
    let n ← calculate "((: " text
    return some n
  catch
    | .abandon => return none
    | j => throw j

/-- One of the calculations of a loop; nothing to calculate counts as true. -/
def loopResult (r : Runner) (line : Nat) (expression : Word) : Act (Option Int) := do
  if expression.source.toList.all isBlank then return some 1
  modify fun s => { s with line }
  noteCommand (.calculation line expression)
  discard (onOccasion r "DEBUG" "debug trap")
  shownResult r expression

/-- Goes through a loop as long as a calculation gives something else than zero. -/
def counted (r : Runner) (line : Nat) (condition after : Word) (body : Statement) :
    Nat → (last : Nat) → Act Unit
  | 0, last => setStatus last
  | steps + 1, last => do
    match ← loopResult r line condition with
    | none => setStatus 1
    | some 0 => setStatus last
    | some _ =>
      let goesOn ← pass (r.statement body)
      let status := (← get).status
      if goesOn then
        match ← loopResult r line after with
        | none => setStatus 1
        | some _ => counted r line condition after body steps status

/-! ### Selections -/

/-- The columns that are there for a list. -/
def columns : Act Nat := do
  return match ((← value? "COLUMNS").bind Builtin.whole?).map Int.toNat with
    | some 0 | none => 80
    | some n => n

/-- Blanks from one column to another, as tabs where these reach. The first argument bounds the
steps. -/
def gap : Nat → (start finish : Nat) → String
  | 0, _, _ => ""
  | steps + 1, start, finish =>
    if finish ≤ start then ""
    else if start / 8 < finish / 8 then "\t" ++ gap steps (start + 8 - start % 8) finish
    else " " ++ gap steps (start + 1) finish

/-- Words with numbers in rows, for so many columns. -/
def menu (width : Nat) (words : List String) : String :=
  let count := words.length
  let digits := (toString count).length
  let longest := (words.map String.length).foldl max 0 + digits + 4
  let across := max 1 (width / longest)
  let rows := (count + across - 1) / across
  let across := (count + rows - 1) / rows
  let rows := if rows = 1 then across else rows
  let firstDigits := (toString rows).length
  let entry (column row : Nat) : String :=
    let i := row + column * rows
    let digits := if column = 0 then firstDigits else digits
    let number := toString (i + 1)
    let word := words.getD i ""
    let start := column * longest
    let last := count ≤ i + rows
    let finish := start + word.length + digits + 2
    "".pushn ' ' (digits - number.length) ++ number ++ ") " ++ word ++
      if last then "" else gap longest finish (start + longest)
  String.join ((List.range rows).map fun row =>
    let filled := (List.range count).filter fun column => row + column * rows < count
    String.join (filled.map (entry · row)) ++ "\n")

/-- Lets a word be chosen by its number: the word, which is empty for any other answer, or nothing
at the end of the input. The first argument bounds the questions. -/
def chosen? (r : Runner) (words : List String) : Nat → (shows : Bool) → Act (Option String)
  | 0, _ => return none
  | steps + 1, shows => do
    if shows then err (menu (← columns) words)
    err ((← value? "PS3").getD "#? ")
    let before := (← get).status
    r.command false "read" []
    let ended := (← get).status
    setStatus before
    if ended ≠ 0 then
      out "\n"
      return none
    let answer := (← value? "REPLY").getD ""
    if answer = "" then chosen? r words steps true
    else match Builtin.whole? answer with
      | some (.ofNat (n + 1)) => return some (words.getD n "")
      | _ => return some ""

/-- Goes through a loop in which words are chosen. -/
def select (r : Runner) (name : String) (words : List String) (body : Statement) :
    Nat → (shows : Bool) → Act Unit
  | 0, _ => pure ()
  | steps + 1, shows => do
    match ← chosen? r words passLimit shows with
    | none => setStatus 1
    | some word =>
      if !(← managed (assign name word)) then setStatus 1
      else if ← pass (r.statement body) then
        select r name words body steps (((← value? "REPLY").getD "x") = "")

/-! ### Choices -/

/-- Whether one of the patterns matches a text. -/
def matchesAny (x : Scripts) (subject : String) : List Word → Act Bool
  | [] => return false
  | w :: ws => do
    let p := Pattern.ofGlyphs (← patternRule true) (← patternOfWord x w.pieces)
    if p.accepts subject then return true else matchesAny x subject ws

/-- Runs the arms of a choice from the first that matches. The flags say whether the next one is run
without being asked, and whether one has been run. -/
def choose (r : Runner) (subject : String) (entered ran : Bool) :
    List (List Word × Statement × After) → Act Unit
  | [] => do if !ran then setStatus 0
  | (patterns, body, after) :: rest => do
    if entered || (← matchesAny (scriptsOf r) subject patterns) then
      match body with
      | .nothing => setStatus 0
      | body => r.statement body
      match after with
      | .done => pure ()
      | .next => choose r subject true true rest
      | .matching => choose r subject false true rest
    else choose r subject false ran rest

/-! ### Pipelines -/

/-- Runs a part in parentheses in a copy of the shell. -/
def enclosed (r : Runner) (change : State → State) (body : Statement) (waits : Bool := false) :
    Act Termination :=
  inCopyTo r waits (fun copy => { change copy with enclosed := true, final := true }) (r.statement body)

/-- Runs a stage in a copy of the shell. A simple command is known before it runs there, and its
failure is only that of the stage. The large shell stays on the line of a part in parentheses that
is not the last stage. What a stage that is not the last one starts beside itself can still write to
the next one. -/
def stageIn (r : Runner) (change : State → State) (last : Bool) (stage : Statement) : Act Termination := do
  let large := !(← isPlain)
  match stage with
  | .simple line assignments words rs =>
    let s ← get
    set { s with line, errorLine := line }
    if large then
      noteCommand stage
      discard (onOccasion r "DEBUG" "debug trap")
    let lists := large && (words.head?.map (·.source)) == some "jobs"
    let told (copy : State) : State :=
      { change copy with final := true, jobs := if lists then s.jobs else copy.jobs }
    let ending ← inCopyTo r (!last) told (simple r assignments words rs)
    if large then modify fun now => { now with line := s.line }
    return ending
  | .subshell line body =>
    let s ← get
    set { s with line, errorLine := line }
    let ending ← enclosed r change body (!last)
    if large ∧ last then
      modify fun now => { now with status := ending.status }
      if ending.status ≠ 0 ∧ s.tested = 0 then discard (onOccasion r "ERR" "error trap")
      modify fun now => { now with line := s.line }
    return ending
  | stage =>
    modify fun s => { s with errorLine := s.line }
    inCopyTo r (!last) change (r.statement stage)

/-- What is left of a stage that has written more than was read of it: it is run again, and what it
had not written yet is added to the texts on their way. -/
def breakPipe (base : State) (pipe : Pipe) (blocked : Machine) (stage : Act Termination) :
    Act Termination := do
  let s ← get
  set { base with machine := { base.machine with
    pipes := { pipe with broken := true } :: base.machine.pipes } }
  let status ← stage
  let ended := (← get).machine
  let added := (Beside.additions blocked ended).filter (·.1 ≠ pipe.stream)
  set { s with machine := { Beside.adding s.machine [] added with
    clock := max s.machine.clock ended.clock, started := max s.machine.started ended.started
    signals := s.machine.signals ++ ended.signals.filter fun sent => !s.machine.signals.contains sent } }
  return status

/-- How much can be written at first before it is read. -/
def pipeRoom : Nat := 65536

/-- Runs a stage that writes to a text on its way, and the stages behind it. It can write so much
before something is read; if more is asked for than that, all is done again with more room. -/
def withPipe (base : State) (n : Nat) (stage : Act Termination) (onward : Act (List Termination)) :
    (attempts : Nat) → (room : Nat) → Act (List Termination)
  | 0, _ => return []
  | attempts + 1, room => do
    let pipe : Pipe := { stream := n, room }
    set { base with machine := { base.machine with pipes := pipe :: base.machine.pipes } }
    let isBlocked : Act Bool := return (← get).machine.halted = some (.blocked n)
    let status ← try stage
      catch j => if ← isBlocked then pure (.exited 0) else throw j
    let others (m : Machine) : List Pipe := m.pipes.filter (·.stream ≠ n)
    let blocked ← isBlocked
    let now := (← get).machine
    if !blocked then
      modify fun s => { s with machine := { now with pipes := others now } }
      return status :: (← onward)
    else
      modify fun s => { s with machine := { now with halted := none } }
      let statuses ← onward
      let after := (← get).machine
      if after.pipes.any fun p => p.stream = n && p.starved then
        withPipe base n stage onward attempts (if room < 4 * pipeRoom then 2 * room else 8 * room)
      else
        modify fun s => { s with machine := { after with pipes := others after } }
        return (← breakPipe base pipe now stage) :: statuses

/-- How often stages are run again with more room. -/
def pipeAttempts : Nat := 12

/-- Runs stages one after the other, each in a copy of the shell that reads what the stage
before has written; gives the status of each. The last one can run in the shell itself. A stage that
nobody reads does not ask for more itself. -/
def stagesOf (r : Runner) (lastHere : Bool) (input : Option Channel) :
    List Statement → Act (List Termination)
  | [] => return []
  | [stage] => do
    let direct (ds : List (Nat × Channel)) : List (Nat × Channel) :=
      match input with
      | some c => directed 0 c ds
      | none => ds
    if lastHere then
      let s ← get
      set { s with descriptors := direct s.descriptors }
      let leave : Act Unit := modify fun now => { now with descriptors := s.descriptors }
      always leave (r.statement stage)
      return [.exited (UInt8.ofNat ((← get).status % 256))]
    else return [← stageIn r (fun copy => { copy with descriptors := direct copy.descriptors }) true stage]
  | stage :: rest => do
    let s ← get
    let n := s.machine.streams.size
    let (c, machine) := s.machine.supply ""
    let change (copy : State) : State := { copy with
      descriptors := directed 1 c <|
        match input with
        | some c => directed 0 c copy.descriptors
        | none => copy.descriptors }
    let statuses ← withPipe { s with machine } n (stageIn r change false stage)
      (stagesOf r lastHere (some c) rest) pipeAttempts pipeRoom
    if let some source := input then
      if (statuses.head?.map (·.status)) = some (Termination.killed Signal.brokenPipe).status then
        modify fun s => { s with machine := s.machine.starve false source }
    return statuses

/-- Runs the stages of a pipeline. -/
def pipeline (r : Runner) (stages : List Statement) : Act Unit := do
  awaitJobs
  match stages with
  | [stage] => r.statement stage
  | stages =>
    let lastHere ← isFurtherOn "lastpipe"
    let endings ← stagesOf r lastHere none stages
    if ← isPlain then endings.forM tellEnding else tellEnding (endings.getLastD (.exited 0))
    noteChildren (endings.length - if lastHere then 1 else 0)
    let statuses := endings.map (·.status)
    let failed := if ← isOn .pipeStatus then statuses.filter (· ≠ 0) else []
    setStatus ((failed.getLast?).getD (statuses.getLastD 0))
    modify fun s => { s with stages := statuses }
    takeActions r

/-! ### Parts beside the shell -/

/-- Starts a statement beside the shell, with nothing to read. -/
def background (r : Runner) (statement : Statement) : Act Unit := do
  let run : Act Unit := match statement with
    | .simple line assignments words rs => do
      modify fun s => { s with line, final := true }
      simple r assignments words rs
    | .subshell line body => do
      modify fun s => { s with line, errorLine := line, enclosed := true, final := true }
      r.statement body
    | .redirected line (.subshell _ body) rs => do
      modify fun s => { s with line, enclosed := true }
      withPassages (redirected (scriptsOf r) rs (r.statement body))
    | statement => r.statement statement
  if let .simple line _ _ _ := statement then
    standing line do
      noteCommand statement
      discard (onOccasion r "DEBUG" "debug trap")
  let (shown, stages) := match statement with
    | .pipeline true [.simple line assignments words rs] => (.simple line assignments words rs, 1)
    | .pipeline true (first :: second :: rest) => (.pipeline false (first :: second :: rest), 1)
    | .pipeline _ stages => (statement, stages.length)
    | _ => (statement, 1)
  discard (startBeside r (some (Printed.command shown, stages))
    (fun s => { s with descriptors := directed 0 .null s.descriptors }) run)
  setStatus 0

/-- The descriptors under which a part that runs beside the shell is read and written. -/
def companionDescriptors : Nat × Nat := (63, 60)

/-- Starts a part that runs beside the shell and is read and written by it. -/
def startCompanion (r : Runner) (name : String) (body : Statement) : Act Unit := do
  let s ← get
  let (input, machine) := s.machine.supply ""
  let (output, machine) := machine.supply ""
  set { s with machine }
  let (reading, writing) := companionDescriptors
  for j in s.jobs do
    if let some (other, _) := j.companion then
      complain ("warning: execute_coproc: coproc [" ++ toString j.number ++ ":" ++ other ++ "] still exists")
  let direct (copy : State) : State := { copy with
    descriptors := directed 0 input (directed 1 output copy.descriptors) }
  let shown := "coproc " ++ name ++ " " ++ Printed.command body
  let number ← startBeside r (some (shown, 1)) direct (r.statement body)
  modify fun s => { s with
    jobs := Job.change s.jobs number ({ · with companion := some (name, [reading, writing]) })
    descriptors := directed reading output (directed writing input s.descriptors) }
  if ((← binding? name).map (·.fixed)).getD false then complain (fixedMessage .bash name)
  else
    putBinding name { content := State.listOf [toString reading, toString writing] }
    discard (managed (assign (name ++ "_PID") (toString number)))
  setStatus 0

/-! ### Times -/

/-- The time that something took, in a format. Nothing takes any time here. -/
def timeText (format : String) : String := String.ofList (go format.toList)
where
  go : List Char → List Char
    | '%' :: rest =>
      match rest with
      | '%' :: rest => '%' :: go rest
      | 'P' :: rest => "0.00".toList ++ go rest
      | 'l' :: c :: rest => amount true 3 c ++ go rest
      | d :: 'l' :: c :: rest =>
        if d.isDigit then amount true (d.toNat - 48) c ++ go rest else amount false 3 d ++ go ('l' :: c :: rest)
      | d :: c :: rest =>
        if d.isDigit then amount false (d.toNat - 48) c ++ go rest else amount false 3 d ++ go (c :: rest)
      | [d] => amount false 3 d
      | [] => ['%']
    | c :: rest => c :: go rest
    | [] => []
  amount (long : Bool) (places : Nat) (c : Char) : List Char :=
    if "RUS".toList.contains c then
      let places := min places 3
      let part := if places = 0 then [] else '.' :: List.replicate places '0'
      if long then "0m0".toList ++ part ++ ['s'] else '0' :: part
    else ['%', c]

/-- Runs a statement, and tells the time that it took. -/
def timed (standard : Bool) (a : Act Unit) : Act Unit := do
  a
  let usual := "\nreal\t%3lR\nuser\t%3lU\nsys\t%3lS"
  let format ← if standard then pure "real %2R\nuser %2U\nsys %2S"
    else pure ((← value? "TIMEFORMAT").getD usual)
  if format ≠ "" then err (timeText format ++ "\n")

/-! ### Statements -/

/-- Keeps a function. -/
def define (line : Nat) (name : String) (body : Statement) : Act Unit := do
  let s ← get
  let old := (s.functions.lookup name).getD { body }
  let posix := s.switches.contains .posix
  let refused? : Option String :=
    if name.toList.any "'\"\\$".toList.contains ∨ (posix ∧ !isName name) then some "not a valid identifier"
    else if posix ∧ Reader.special.contains name then some "is a special builtin"
    else none
  if let some reason := refused? then
    modify fun s => { s with line }
    complain ("\x60" ++ name ++ "': " ++ reason)
    setStatus (if posix then 2 else 1)
    if posix then throw .exit
  else if old.fixed then
    modify fun s => { s with line }
    complain (name ++ ": readonly function")
    setStatus 1
  else
    let file := (s.sources.head?).getD (if s.setting.inline then "environment" else "main")
    let f : Function := { body, line, file, exported := old.exported, traced := old.traced }
    let others := s.functions.filter fun g => g.1 ≠ name
    set { s with functions := others ++ [(name, f)], status := 0 }

/-- Runs a statement whose own failure is no error. What it consists of is not concerned. -/
def unchecked (r : Runner) (statement : Statement) : Act Unit := do
  match statement with
  | .simple line assignments words rs =>
    standing line (beforeCommand r statement (simple r assignments words rs))
  | .subshell line body =>
    awaitJobs
    standing line do
      noteCommand statement
      let ending ← enclosed r id body
      tellEnding ending
      noteChildren 1
      setStatus ending.status
    keepStage
    takeActions r
  | .condition line c =>
    standing line do
      beforeCommand r statement do
        let x := scriptsOf r
        setStatus (← holds x (expandPrompt x) false c)
    keepStage
  | .calculation line expression =>
    standing line do
      beforeCommand r statement do
        setStatus (match ← shownResult r expression with
          | none | some 0 => 1
          | some _ => 0)
    keepStage
  | statement => r.statement statement

/-- Runs a pipeline whose status is turned round. What it consists of is a test only if errors are
to end the large shell. -/
def negated (r : Runner) (stages : List Statement) : Act Unit := do
  if (← isPlain) ∨ (← isOn .exitOnError) then asTest (pipeline r stages)
  else
    match stages with
    | [stage] =>
      awaitJobs
      unchecked r stage
    | stages => pipeline r stages
  modify fun s => { s with status := if s.status = 0 then 1 else 0 }

/-- Runs a statement, unless statements are only to be read. -/
def evaluate (r : Runner) (statement : Statement) : Act Unit := do
  if !(← isOn .readOnly) then
    spend step
    let final := (← get).final
    if final ∧ !canBeFinal statement then modify fun s => { s with final := false }
    go final statement
where
  canBeFinal : Statement → Bool
    | .simple _ _ _ _ | .pipeline false [_] => true
    | _ => false
  /-- Runs what comes last in a statement: it is final if that is. -/
  lastly (final : Bool) (statement : Statement) : Act Unit := do
    if final then modify fun s => { s with final }
    r.statement statement
  go (final : Bool) : Statement → Act Unit
  | .nothing => setStatus 0
  | .pipeline true stages => negated r stages
  | .pipeline false stages => do
    pipeline r stages
    keepingLine (checkError r)
  | .timed standard s => timed standard (r.statement s)
  | .chain onSuccess first second => do
    asTest (r.statement first)
    if ((← get).status == 0) == onSuccess then lastly final second
  | .sequence _ first second => do
    match second with
    | .nothing => lastly final first
    | second => do
      r.statement first
      lastly final second
  | .background s => background r s
  | .group body => r.statement body
  | .redirected line body rs => do
    let redirect := withPassages (redirected (scriptsOf r) rs (r.statement body))
    match ← dialect, body with
    | .plain, _ =>
      modify fun s => { s with line }
      redirect
    | .bash, .counted _ _ _ _ _ =>
      keepingLine do
        modify fun s => { s with line }
        redirect
    | .bash, _ => redirect
  | .branch condition body otherwise => do
    keepingLine (asTest (r.statement condition))
    if (← get).status = 0 then r.statement body
    else match otherwise with
      | some s => r.statement s
      | none => setStatus 0
  | .repetition untilSuccess condition body =>
    inLoop (repeated r untilSuccess condition body passLimit 0)
  | .each line name words body => standing line <| withPassages do
    if !isName name then
      complain ("\x60" ++ name ++ "': not a valid identifier")
      setStatus 1
    else
      let fields ← loopFields (scriptsOf r) words
      if fields.isEmpty then setStatus 0
      let head (a : Act Unit) : Act Unit := do
        if !(← isPlain) then modify fun s => { s with line }
        atHead r line (["for", name, "in"] ++ loopSources words) a
      inLoop (eachOf name (r.statement body) head fields)
  | .selection line name words body => standing line <| withPassages do
    let fields ← loopFields (scriptsOf r) words
    if fields.isEmpty then setStatus 0
    else
      atHead r line (["select", name, "in"] ++ loopSources words) do
        inLoop (select r name fields body passLimit true)
  | .counted line first condition after body => standing line do
    match ← loopResult r line first with
    | none => setStatus 1
    | some _ => inLoop (counted r line condition after body passLimit 0)
  | .choice line subject arms => standing line <| withPassages do
    atHead r line ["case", subject.source, "in", ""] do
      let text ← textOfWord (scriptsOf r) subject.pieces
      choose r text false false arms
  | .definition line name body => define line name body
  | .companion line name body => standing line (startCompanion r name body)
  | .simple line assignments words rs => do
    unchecked r (.simple line assignments words rs)
    keepingLine (checkError r)
  | .subshell line body => do
    unchecked r (.subshell line body)
    keepingLine (checkError r)
  | .condition line c => do
    unchecked r (.condition line c)
    keepingLine (checkError r)
  | .calculation line expression => do
    unchecked r (.calculation line expression)
    keepingLine (checkError r)

end ScriptSearch.Host.Shell.Act
