import ScriptSearch.Host.Interpreter
import ScriptSearch.Host.Shell.Builtin.Table
import ScriptSearch.Host.Shell.External
import ScriptSearch.Host.Shell.Redirecting
import ScriptSearch.Host.Shell.Running

/-! Running a command. Its words are expanded to fields, of which the first names a function, a
command of the shell or a program; variables can be set for it, and its descriptors directed. -/

namespace ScriptSearch.Host.Shell.Act

/-! ### Functions -/

/-- How deep functions are run in functions at most, if that is limited. -/
def functionLimit? : Act (Option Nat) := do
  if ← isPlain then return none
  match ((← value? "FUNCNEST").bind Builtin.whole?).map Int.toNat with
  | some 0 | none => return none
  | n => return n

/-- Runs a function. The large shell takes actions in it only if they are to be taken there. -/
def call (r : Runner) (name : String) (f : Function) (args : List String) : Act Unit := do
  let s ← get
  let large := s.setting.dialect = .bash
  if let some n ← functionLimit? then
    if n ≤ s.calls then
      giveUp (name ++ ": maximum function nesting level exceeded (" ++ toString n ++ ")")
  let hidden := if !large then [] else
    (if s.switches.contains .inheritErrors then [] else ["ERR"]) ++
      if s.switches.contains .inheritActions || f.traced then [] else ["DEBUG", "RETURN"]
  let frame : Frame := { name := some name, file := f.file, line := s.line, args }
  set { s with
    args, calls := s.calls + 1, loops := 0, saved := [] :: s.saved, frames := frame :: s.frames
    keptSwitches := none
    line := if large then f.line else s.line, label := if large then some f.file else s.label
    optionIndex := 1, optionOffset := if large then s.optionOffset else 0 }
  let leave : Act Unit := do
    restoreSaved ((← get).saved.headD [])
    modify fun now => { now with
      args := s.args, calls := s.calls, loops := s.loops, saved := now.saved.drop 1, frames := s.frames
      keptSwitches := s.keptSwitches, switches := now.keptSwitches.getD now.switches
      line := s.line, errorLine := s.errorLine, label := s.label, optionIndex := s.optionIndex
      optionOffset := if large then now.optionOffset else s.optionOffset }
  withoutActions hidden <| always leave do
    if large then discard (onOccasion r "DEBUG" "debug trap")
    try
      r.statement f.body
      if large then modify fun now => { now with line := f.line }
    catch
      | .return => pure ()
      | j => throw j
    if large then discard (onOccasion r "RETURN" "return trap")

/-! ### Programs -/

/-- Acts on the end of a program. -/
def ended : Except Nat Termination → Act Unit
  | .ok (.exited code) => setStatus code.toNat
  | .ok (.killed signal) => do
    if givesPlace (← get) then throw (.killed signal)
    tellKilled signal
    setStatus (Termination.killed signal).status
  | .error status => setStatus status

/-- Runs a program as a process of its own. Where a program has been found is kept, unless it was
looked for in other directories than usual. -/
def external (name : String) (args paths : List String) : Act Unit := do
  awaitJobs
  makeRoom
  let s ← get
  let keeps := s.setting.dialect = .plain ||
    (s.switches.contains .hashing && (s.lent.lookup "PATH").isNone)
  if keeps ∧ !name.toList.contains '/' then
    if let path :: _ := paths then
      let known := decide (s.hashed.lookup name = some path)
      Builtin.remember name path (1 + if known then (s.hits.lookup name).getD 0 else 0)
  ended (← runProgram run name args paths)
  noteChildren 1
  if !(← get).deferred.isEmpty then elapse (some (← get).machine.clock)
  noteEnds

/-- A path from the root on. -/
def fullPath (path : String) : Act String := do
  let below := match path.toList with
    | '.' :: '/' :: cs => String.ofList cs
    | _ => path
  let here := (← get).path
  if path.startsWith "/" ∨ here = "" then return path
  else return (if here = "/" then "" else here) ++ "/" ++ below

/-- The variables that a program gets which takes the place of the large shell: a shell there is
as deep in others as this one, unless this is a part in parentheses. -/
def environmentInPlace : Act (List String) := do
  let s ← get
  let above := ((((s.bindings.lookup "SHLVL").bind (·.text?)).bind Builtin.whole?).getD 0) - 1
  let level := toString (if above < 0 then 0 else above)
  let bindings := if s.enclosed then s.bindings else
    s.bindings.map fun b => if b.1 = "SHLVL" then (b.1, { b.2 with content := .text (some level) }) else b
  return environment { s with bindings }

/-- Lets a program take the place of the plain shell, or says why it cannot. -/
def replacePlain {α : Type} (start : Start) (name : String) (args : List String) : Act α := do
  let paths ← match ← if name.toList.contains '/' then pure (Meaning.program [name]) else search name with
    | .program paths => pure paths
    | .missing e =>
      complain (name ++ ": " ++ plainMessage e)
      exitWith 127
    | _ => pure []
  match ← runProgram start name args paths with
  | .ok _ => exitWith 0
  | .error status => exitWith status

/-- Lets a program take the place of the large shell, or says why it cannot and gives the
status. -/
def replaceLarge (start : Start) (name shown : String) (args : List String) : Act Nat := do
  let path? ← match ← meaningOfProgram name with
    | .program (path :: _) => pure (some path)
    | _ => pure none
  match path? with
  | none =>
    complain ("exec: " ++ name ++ ": not found")
    return 127
  | some path =>
    let path ← fullPath path
    match ← start path shown args with
    | .ok _ => return 0
    | .error .badFormat =>
      match ← runProgram start shown args [path] with
      | .ok _ => return 0
      | .error status =>
        complain (path ++ ": Success")
        return status
    | .error e =>
      let status ← refuseLarge path e
      if !(← isProgram path) then
        if status = 126 then
          let s ← get
          let reason := if s.machine.tree.leadsToDirectory s.here path then OsError.isDirectory else e
          complain ("exec: " ++ path ++ ": cannot execute: " ++ reason.message)
      else if status = 126 then complain (path ++ ": Success")
      return status

/-- Lets a program take the place of the shell, if one is named. -/
def replace (args : List String) : Act Nat := do
  let plain ← isPlain
  Builtin.options "exec" (if plain then "" else "cl") (if plain then "" else "a")
    (if plain then "--" :: args else args) fun g => do
      match g.rest with
      | [] => return 0
      | name :: rest =>
        awaitJobs
        let environment ← if plain then pure (environment (← get))
          else if g.has 'c' then pure [] else environmentInPlace
        let start : Start := fun path shown args => do
          let s ← get
          let environment := environment ++ if plain ∨ g.has 'c' then [] else ["_=" ++ path]
          let p : Process := { process s with name := shown, args, environment }
          match Interpreter.resolve s.machine path p with
          | .ok _ => throw (.become path p)
          | .error e => return .error e
        if plain then replacePlain start name rest
        else
          let shown := (if g.has 'l' then "-" else "") ++ (g.valued.lookup 'a').getD name
          let status ← replaceLarge start name shown rest
          if ← isFurtherOn "execfail" then return status
          modify fun s => { s with traps := s.traps.filter (·.2 = "") }
          exitWith status

/-! ### Files of commands -/

/-- The file that is to be run in the shell itself. -/
def sourceFile? (name : String) : Act (Except OsError String) := do
  let s ← get
  let large := s.setting.dialect = .bash
  let tree := s.machine.tree
  if name.toList.contains '/' then return .ok name
  let paths ← if large ∧ !s.hasFurther "sourcepath" then pure [] else programPaths name
  let near := "./" ++ name
  let isFile (e : Entry) : Bool := e matches .file _ | .tool _ | .record _
  let usable (path : String) : Bool :=
    match tree.find s.here path with
    | .ok e => isFile e && (!large || tree.suits s.here .read isFile path)
    | .error _ => false
  match paths.find? usable with
  | some path => return .ok path
  | none =>
    return if large && !s.switches.contains .posix && (tree.find s.here near).isOk then .ok near
      else .error .noEntry

/-- Whether there is no command in a script. -/
def isIdle (script : String) : Act Bool :=
  return EStateM.run (Reader.line (← ground)) { rest := script.toList } matches .ok none _

/-- Runs the text of a file in this shell, with arguments of its own if there are any. -/
def runFile (r : Runner) (label : String) (args : List String) (text : String) : Act Unit := do
  let s ← get
  let large := s.setting.dialect = .bash
  let frame : Frame := { name := none, file := label, line := s.line, args }
  set { s with
    files := s.files + 1, label := some label
    frames := if large then frame :: s.frames else s.frames
    args := if args.isEmpty then s.args else args }
  let leave : Act Unit := modify fun now => { now with
    files := s.files, label := s.label, line := s.line, reached := s.reached, frames := s.frames
    args := if args.isEmpty then now.args else s.args }
  let hidden := if large && !s.switches.contains .inheritActions then ["DEBUG"] else []
  if ← isIdle text then setStatus 0
  withoutActions hidden do
    always leave do
      try r.script none 1 text
      catch
        | .return => pure ()
        | j => throw j
    if large then discard (onOccasion r "RETURN" "return trap")

/-- Runs a file in the shell itself. -/
def source (r : Runner) (command : String) (args : List String) : Act Nat := do
  let s ← get
  let plain := s.setting.dialect = .plain
  if plain then
    match args with
    | [] => return 0
    | name :: rest => run plain name rest
  else
    Builtin.options command "" "" args fun g => do
      match g.rest with
      | [] =>
        let status ← Builtin.refuse command "filename argument required" 2
        Builtin.tellUsage command
        return status
      | name :: rest => run plain name rest
where
  run (plain : Bool) (name : String) (rest : List String) : Act Nat := do
    let s ← get
    match ← sourceFile? name with
    | .error _ =>
      if plain then Builtin.refuse command (name ++ ": not found") 2
      else
        complain (name ++ ": " ++ OsError.noEntry.message)
        return 1
    | .ok path =>
      match (process s).read path s.machine with
      | .error .isDirectory =>
        if plain then return 0 else Builtin.refuse command (name ++ ": is a directory") 1
      | .error e =>
        if plain then
          let text := if e = .noEntry ∨ e = .notDirectory then "No such file" else e.message
          Builtin.refuse command ("cannot open " ++ path ++ ": " ++ text) 2
        else
          complain (name ++ ": " ++ e.message)
          return 1
      | .ok (text, machine) =>
        set { s with machine }
        let rest := if plain then [] else rest
        runFile r (if plain ∨ path ≠ "./" ++ name then path else name) rest text
        return (← get).status

/-- Runs the file that a variable names before the script of the large shell. -/
def runFirst (r : Runner) : Act Unit := do
  if let some setting ← value? "BASH_ENV" then
    let path ← (expander (scriptsOf r) false wordDepth).expanded setting
    let s ← get
    let refuse (text : String) : Act Unit := err (s.setting.name ++ ": " ++ path ++ ": " ++ text ++ "\n")
    if path ≠ "" then
      match (process s).read path s.machine with
      | .error .noEntry => pure ()
      | .error .isDirectory => refuse "is a directory"
      | .error e => refuse e.message
      | .ok (text, machine) =>
        set { s with machine }
        runFile r path [] text
        setStatus 0

/-! ### Commands of the shell -/

/-- Runs the arguments as a script. -/
def evaluateText (r : Runner) (args : List String) : Act Nat := do
  let s ← get
  let plain := s.setting.dialect = .plain
  let run (args : List String) : Act Nat := do
    if args.isEmpty then return 0
    let text := String.intercalate " " args
    if ← isIdle text then setStatus 0
    if !plain then modify fun s => { s with traced := s.traced + 1 }
    always (modify fun now => { now with line := s.line, reached := s.reached, traced := s.traced }) do
      r.script (some "eval") (if plain then 1 else s.line) text
    return (← get).status
  if plain then run args else Builtin.options "eval" "" "" args fun g => run g.rest

/-- Runs what a shell's own command is given to run, or performs the command. -/
def perform (r : Runner) (name : String) (args : List String) : Act Nat := do
  let plain ← isPlain
  match name with
  | "eval" => evaluateText r args
  | "." | "source" => source r name args
  | "exec" => replace args
  | "fc" => Builtin.callAgain args fun text => do
    r.script none (← get).line (text ++ "\n")
    return (← get).status
  | "command" =>
    Builtin.options "command" "pvV" "" args fun g => do
      match g.rest with
      | [] => return 0
      | inner :: rest =>
        let usual (a : Act Nat) : Act Nat := do
          if g.has 'p' then
            let old ← binding? "PATH"
            putBinding "PATH" { old.getD {} with content := .text (some standardPath) }
            try a
            finally match old with
              | some v => putBinding "PATH" v
              | none => removeBinding "PATH"
          else a
        usual do
          if g.has 'v' ∨ g.has 'V' then
            Builtin.describe "command" (g.has 'V') (if plain then [inner] else g.rest)
          else
            r.command false inner rest
            return (← get).status
  | "builtin" =>
    Builtin.options "builtin" "" "" args fun g => do
      match g.rest with
      | [] => return 0
      | inner :: rest =>
        if ← isBuiltin inner then
          r.command false inner rest
          return (← get).status
        else Builtin.refuse "builtin" (inner ++ ": not a shell builtin") 1
  | "read" => do
    awaitJobs
    Builtin.perform name args
  | "mapfile" | "readarray" => do
    awaitJobs
    Builtin.mapfile (fun text => do
      let s ← get
      always (modify fun now => { now with line := s.line, reached := s.reached })
        (r.script (some name) s.line text)) name args
  | name => Builtin.perform name args
where
  /-- The directories in which the usual programs are. -/
  standardPath : String := "/usr/local/bin:/usr/bin:/bin"

/-- Performs a command of the shell. In the plain shell its failure ends what is being done
if the command is special and was called without further ado. -/
def own (r : Runner) (special : Bool) (name : String) (args : List String) : Act Unit := do
  let s ← get
  let plain := s.setting.dialect = .plain
  let passes := name = "command" && args.head?.all fun arg =>
    !arg.startsWith "-" || (arg.toList.drop 1).all "p-".toList.contains
  if plain ∧ !passes then modify fun s => { s with label := some name }
  if !plain then modify fun s => { s with setter := some name }
  let leave : Act Unit := modify fun now => { now with
    label := if plain then s.label else now.label, lost := none }
  always leave do
    try
      setStatus (← perform r name args)
      if let some e := (← get).lost then
        modify fun s => { s with lost := none }
        if plain then complain (name ++ ": I/O error")
        else complain (name ++ ": write error: " ++ e.message)
        setStatus 1
    catch
      | .abandon => if plain ∧ !special then pure () else throw .abandon
      | j => throw j

/-- Tells that a name stands for nothing. The large shell lets a function act on that, in a
copy. -/
def runMissing (r : Runner) (name : String) (args : List String) (e : OsError) : Act Unit := do
  let handler := "command_not_found_handle"
  let s ← get
  match if s.setting.dialect = .bash then s.functions.lookup handler else none with
  | some f => setStatus (← inCopy r id (call r handler f (name :: args)))
  | none => setStatus (← refuseMissing name e)

/-- Runs a command by what its name stands for. In the large shell, one that begins with `%`
stands for a job. -/
def invoke (r : Runner) (functions : Bool) (name : String) (args : List String) : Act Unit := do
  if name.startsWith "%" ∧ (← dialect) = .bash then return ← own r false "fg" args
  let found ← meaning functions name
  if !(found matches .program _) then modify fun s => { s with final := false }
  match found with
  | .function f => call r name f args
  | .builtin => own r (functions && specialBuiltins.contains name) name args
  | .program paths => external name args paths
  | .missing e => runMissing r name args e

/-! ### Words -/

/-- Commands whose arguments can be assignments. -/
def declarers : Dialect → List String
  | .plain => ["export", "readonly", "local", "alias"]
  | .bash => ["export", "readonly", "local", "declare", "typeset", "alias"]

/-- The assignment that an argument of such a command is, as a field. Values between parentheses
are given to the variable at once. -/
def declaredField (x : Scripts) (command : String) (before : List String) (a : Assignment) :
    Act String := do
  match a.value with
  | .list _ elements :: _ =>
    Builtin.declareList x command before a elements
    return a.name
  | value => return targetText a ++ (← textOfValue x value)

/-- An argument as fields. In the large shell, what looks like a value counts for one as far as
home directories are concerned. -/
def argumentFields (x : Scripts) (declarer : Option String) (before : List String) (w : Word) :
    Act (List String) := do
  let d ← dialect
  match Assignment.ofWord? d w, declarer with
  | some a, some command => return [← declaredField x command before a]
  | some a, none =>
    if d = .bash ∧ !(← isOn .posix) then
      fieldsOfWord x (.text false (targetText a) :: (← withHomes a.value))
    else fieldsOfWord x w.pieces
  | none, _ => fieldsOfWord x w.pieces

/-- The command that is called by fields, behind any that only says where it is looked for. -/
def calledBy (fields : List String) : Option String :=
  fields.find? fun field => !(["command", "-p", "--"] : List String).contains field

/-- The words of a command of the plain shell as fields: the command decides what the words behind
it are. -/
def fieldsPlain (x : Scripts) : (found : List String) → List Word → Act (List String)
  | found, [] => return found
  | found, w :: ws => do
    let declarer := (calledBy found).filter (declarers .plain).contains
    fieldsPlain x (found ++ (← argumentFields x declarer found w)) ws

/-- The words of a command of the large shell as fields; the first decides as it is written. -/
def fieldsLarge (x : Scripts) (words : List Word) : Act (List String) := do
  let declarer := ((words.head?).bind (·.bare?)).filter (declarers .bash).contains
  go declarer [] words
where
  go (declarer : Option String) : List String → List Word → Act (List String)
    | found, [] => return found
    | found, w :: ws => do
      let before := found.drop 1
      let fields ← if found.isEmpty then fieldsOfWord x w.pieces else argumentFields x declarer before w
      go declarer (found ++ fields) ws

/-- The words of a command as fields. -/
def fieldsOf (x : Scripts) (words : List Word) : Act (List String) := do
  if ← isPlain then fieldsPlain x [] words
  else if ← isOn .braces then fieldsLarge x (words.flatMap Braces.expand)
  else fieldsLarge x words

/-! ### Variables for a command -/

/-- Sets the variables of a command without a name. -/
def setAll (x : Scripts) (assignments : List Assignment) : Act Unit := do
  for a in assignments do assignWord x a
  if ← isPlain then
    let shown ← assignments.mapM fun a => do pure (a.name, (← value? a.name).getD "")
    traceCommand (expandPrompt x) shown []

/-- Sets the variables of a command of the plain shell: their values, and how they were before,
the latest first. -/
def lendPlain (x : Scripts) (keep : Bool) :
    List Assignment → Act (List (String × String) × List (String × Option Variable))
  | [] => return ([], [])
  | a :: rest => do
    let text ← textOfValue x a.value
    let old ← binding? a.name
    let fixed := (old.map (·.fixed)).getD false
    if fixed ∨ keep then assign a.name text
    else
      checkPosition a.name text
      putBinding a.name { content := .text (some text), exported := true }
    let (shown, before) ← lendPlain x keep rest
    return ((a.name, text) :: shown, if keep then before else before ++ [(a.name, old)])

/-- Sets the variables of a command of the large shell: how they were before, the latest
first. -/
def lendLarge (x : Scripts) : List Assignment → Act (List (String × Option Variable))
  | [] => return []
  | a :: rest => do
    let old ← binding? a.name
    match a.subscript, a.value with
    | some (source, _), _ =>
      complain ("\x60" ++ a.name ++ "[" ++ source ++ "]': not a valid identifier")
      lendLarge x rest
    | none, value =>
      let text ← match value with
        | .list source _ :: _ => pure source
        | value => textOfValue x value
      let text ← if a.append then valueFor (old.getD {}) none true text else pure text
      traceSetting (expandPrompt x) (a.name ++ "=") text
      if (old.map (·.fixed)).getD false then
        protest (fixedMessage .bash a.name)
        lendLarge x rest
      else
        putBinding a.name { content := .text (some text), exported := true }
        return (← lendLarge x rest) ++ [(a.name, old)]

/-- Puts variables back to how they were. -/
def putBack (before : List (String × Option Variable)) : Act Unit := do
  for (name, old) in before do
    match old with
    | some v => putBinding name v
    | none => removeBinding name

/-- Runs a command with variables that have been set for it, and puts those back that it has not
made its own. -/
def withLent (before : List (String × Option Variable)) (fields : List String) (a : Act Unit) :
    Act Unit := do
  let lent := (← get).lent
  modify fun now => { now with lent := before }
  let leave : Act Unit := do
    let still := (← get).lent
    putBack (before.filter fun b => (still.lookup b.1).isSome)
    modify fun now => { now with lent, lastWord := fields.getLastD "" }
  always leave a

/-! ### Simple commands -/

/-- Whether a command's redirections stay in force. -/
def staysRedirected : List String → Bool
  | "command" :: rest | "builtin" :: rest => staysRedirected rest
  | "exec" :: rest => rest.all fun arg => arg = "--" || arg = "-c" || arg = "-l"
  | _ => false

/-- Runs a command of the plain shell, which directs its descriptors first. -/
def plainly (r : Runner) (x : Scripts) (assignments : List Assignment) (rs : List Redirection)
    (name : String) (args : List String) : Act Unit := do
  let s ← get
  let special := specialBuiltins.contains name && (s.functions.lookup name).isNone
  if ← redirectAll x rs then
    let (shown, before) ← lendPlain x (special && name ≠ "local") assignments
    let directed := (← get).descriptors
    modify fun now => { now with descriptors := s.descriptors }
    traceCommand (expandPrompt x) shown (name :: args)
    modify fun now => { now with descriptors := directed }
    withLent before (name :: args) (r.command true name args)
  else if special then throw .abandon

/-- Whether a command of the large shell is a program, which is run in a copy of the shell. -/
def runsApart (name : String) (args : List String) : Act Bool := do
  if ((← get).functions.lookup name).isSome then return false
  else if name = "command" then
    match args.dropWhile fun arg => arg = "-p" || arg = "--" with
    | inner :: _ => return !inner.startsWith "-" && !(← isBuiltin inner)
    | [] => return false
  else return !(← isBuiltin name)

/-- Runs a command of the large shell. It sets variables for it last, but it works out their
values and shows the command before the descriptors are directed. -/
def largely (r : Runner) (x : Scripts) (assignments : List Assignment) (rs : List Redirection)
    (name : String) (args : List String) : Act Unit := do
  let strict ← isOn .posix
  let special := Reader.special.contains name && (← get).disabled.all (· ≠ name)
  let before ← lendLarge x assignments
  let values ← before.mapM fun b => do pure (b.1, (← binding? b.1).getD {})
  traceCommand (expandPrompt x) [] (name :: args)
  putBack before
  let directed ← if ← runsApart name args then redirectApart x rs else redirectAll x rs
  if directed then
    if strict ∧ special then
      for b in before.reverse do assign b.1 ((values.lookup b.1).bind (·.text?) |>.getD "")
      withLent [] (name :: args) (r.command true name args)
    else
      for b in before.reverse do putBinding b.1 ((values.lookup b.1).getD {})
      withLent before (name :: args) (r.command true name args)
  else if strict ∧ special then throw .exit

/-- Runs a command: its words are expanded, its descriptors directed, its variables set. -/
def simple (r : Runner) (assignments : List Assignment) (words : List Word)
    (rs : List Redirection) : Act Unit := do
  let x := scriptsOf r
  modify fun s => { s with substitution := 0 }
  withPassages do
    match ← fieldsOf x words with
    | [] =>
      let assign : Act Unit := do
        setAll x assignments
        modify fun s => { s with status := s.substitution, lastWord := "" }
      if ← isPlain then redirected x rs assign
      else
        assign
        redirected x rs (pure ())
    | name :: args =>
      let s ← get
      let leave : Act Unit := putBackDescriptors rs s.descriptors
      always (if staysRedirected (name :: args) then pure () else leave) do
        if s.setting.dialect = .plain then plainly r x assignments rs name args
        else largely r x assignments rs name args
  modify fun s => { s with stages := [s.status] }
  takeActions r

end ScriptSearch.Host.Shell.Act
