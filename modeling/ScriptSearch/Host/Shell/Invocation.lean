import ScriptSearch.Host.Shell.Lines

/-! How a shell is called: options, then a script as an argument, in a file or on the
standard input, then the script's arguments. -/

namespace ScriptSearch.Host.Shell

/-- What is wrong with a call. -/
inductive CallFault
  | option (text : String)
  | optionName (name : String)
  | furtherName (name : String)
  | argumentMissing (option : String)
  | scriptMissing

/-- A call as its options say. -/
structure Call where
  choices : List Choice := []
  args : List String := []

namespace Call

/-- Options of the large shell that are words, and what they ask for. -/
def words : List (String × List Choice) :=
  [("debug", []), ("debugger", []), ("dump-po-strings", [.turn .readOnly true]),
    ("dump-strings", [.turn .readOnly true]), ("login", []), ("noediting", []), ("noprofile", []),
    ("norc", []), ("posix", [.turn .posix true]), ("pretty-print", [.turn .readOnly true]),
    ("restricted", [.turn (.idle "restricted") true]), ("verbose", [.turn .echoLines true])]

/-- Takes the words at the start of the arguments, which begin with one dash or two. -/
def ofWords : List String → Except CallFault (List Choice × List String)
  | [] => .ok ([], [])
  | arg :: rest =>
    let (long, name) := match arg.toList with
      | '-' :: '-' :: cs => (!cs.isEmpty, String.ofList cs)
      | '-' :: cs => (false, String.ofList cs)
      | _ => (false, "")
    if name = "rcfile" ∨ name = "init-file" then
      match rest with
      | _ :: rest => ofWords rest
      | [] => .error (.argumentMissing name)
    else
      match words.lookup name with
      | some found => (fun r => (found ++ r.1, r.2)) <$> ofWords rest
      | none => if long then .error (.option arg) else .ok ([], arg :: rest)

def ofArgs (d : Dialect) (args : List String) : Except CallFault Call := do
  let (found, rest) ← match d with
    | .plain => pure ([], args)
    | .bash => ofWords args
  let (more, rest) := Choice.ofArgs d true rest
  return { choices := found ++ more, args := rest.getD [] }

/-- Whether the script is an argument. -/
def inline (call : Call) : Bool := call.choices.contains (.call 'c')

/-- The options that are on after some choices. -/
def switches (d : Dialect) (choices : List Choice) : List Switch :=
  choices.foldl
    (fun on c => match c with
      | .turn o set => Switch.turn on o set
      | .call 's' => Switch.turn on .fromInput true
      | .call 'D' => Switch.turn on .readOnly true
      | _ => on)
    (Switch.standard d)

/-- Further options that are to be changed. -/
def further (call : Call) : List (String × Bool) :=
  call.choices.filterMap fun
    | .further name on => some (name, on)
    | _ => none

/-- The options that are shown before a shell is set up. In the plain shell all of them count
as on then. -/
def listing (d : Dialect) (on : List Switch) : Choice → String
  | .listing asCommands =>
    Switch.listing d asCommands fun o => d = .plain || on.contains o || o = .idle "emacs"
  | .furtherListing asCommands =>
    String.join (Switch.further.map fun o => Switch.furtherLine asCommands o.1 o.2)
  | _ => ""

/-- What is shown while the choices are taken one by one, what is wrong with them, and the
options that are on where that comes up. -/
def check (d : Dialect) : List Choice → List Choice → String × Option (CallFault × List Switch)
  | _, [] => ("", none)
  | before, c :: cs =>
    let on := switches d before
    match c with
    | .unknownLetter sign letter =>
      ("", some (.option (match d with
        | .plain => "-" ++ String.ofList [letter]
        | .bash => String.ofList [sign, letter]), on))
    | .unknownName name => ("", some (.optionName name, on))
    | c =>
      let (text, fault) := check d (before ++ [c]) cs
      (listing d on c ++ text, fault)

/-- How the large shell is to be called, under a name. -/
def usage (name : String) : String :=
  let long := ["debug", "debugger", "dump-po-strings", "dump-strings", "help", "init-file", "login",
    "noediting", "noprofile", "norc", "posix", "pretty-print", "rcfile", "restricted", "verbose",
    "version"]
  "Usage:\t" ++ name ++ " [GNU long option] [option] ...\n" ++
  "\t" ++ name ++ " [GNU long option] [option] script-file ...\nGNU long options:\n" ++
  String.join (long.map fun name => "\t--" ++ name ++ "\n") ++
  "Shell options:\n" ++
  "\t-ilrsD or -c command or -O shopt_option\t\t(invocation only)\n" ++
  "\t-abefhkmnptuvxBCEHPT or -o option\n"

end Call

/-- The message about a fault, and the status. A large shell that is to end at errors does so
without telling how it is to be called. -/
def CallFault.message (d : Dialect) (name : String) (on : List Switch) : CallFault → String × UInt8
  | option text =>
    match d with
    | .plain => (name ++ ": 0: Illegal option " ++ text ++ "\n", 2)
    | .bash =>
      let message := name ++ ": " ++ text ++ ": invalid option\n"
      if on.contains .exitOnError then (message, 1) else (message ++ Call.usage name, 2)
  | optionName text =>
    match d with
    | .plain => (name ++ ": 0: Illegal option -o " ++ text ++ "\n", 2)
    | .bash => (name ++ ": line 0: " ++ name ++ ": " ++ text ++ ": invalid option name\n", 2)
  | furtherName text => (name ++ ": line 0: " ++ text ++ ": invalid shell option name\n", 2)
  | argumentMissing text => (name ++ ": " ++ text ++ ": option requires an argument\n", 2)
  | scriptMissing =>
    match d with
    | .plain => (name ++ ": 0: -c requires an argument\n", 2)
    | .bash =>
      (name ++ ": -c: option requires an argument\n", if on.contains .exitOnError then 1 else 2)

/-- Where programs are looked for if no variable says so. -/
def standardPath : String := "/usr/local/sbin:/usr/local/bin:/usr/sbin:/usr/bin:/sbin:/bin"

/-- How deep a shell says that it is in others, and whether that is too deep to be counted. -/
def level (p : Process) : Int × Bool :=
  let above := ((settingOf? p.environment "SHLVL").bind Builtin.whole?).getD 0
  (max 0 (if above + 1 < 1000 then above + 1 else 1), decide (1000 ≤ above + 1))

/-- The version of the large shell, as it tells it, and its parts. -/
def version : String := "5.2.15(1)-release"

def versionParts : List String := ["5", "2", "15", "1", "release", "x86_64-pc-linux-gnu"]

/-- Variables that only the large shell has: those that are what they are, and those that can be
given to it. -/
def largeVariables (p : Process) : List (String × Variable) × List (String × Variable) :=
  let fixed (text : String) : Variable := { content := .text (some text), fixed := true }
  let number (text : String) : Variable := { fixed text with integer := true }
  let user := toString Account.current
  ([("BASH_VERSION", .ofText version),
      ("BASH_VERSINFO", { content := State.listOf versionParts, fixed := true }),
      ("UID", number user), ("EUID", number user), ("PPID", number (toString (p.ancestors.headD 0))),
      ("HOSTTYPE", .ofText "x86_64"), ("OSTYPE", .ofText "linux-gnu"),
      ("MACHTYPE", .ofText "x86_64-pc-linux-gnu"),
      ("SHELLOPTS", { fixed "" with exported := (settingOf? p.environment "SHELLOPTS").isSome }),
      ("BASHOPTS", { fixed "" with exported := (settingOf? p.environment "BASHOPTS").isSome })],
    [("OPTERR", { Variable.ofText "1" with integer := true }), ("BASH", .ofText "/bin/bash"),
      ("TERM", .ofText "dumb"), ("SHELL", .ofText "/bin/sh"), ("HOSTNAME", .ofText "localhost")])

/-- The variables that a process hands to a shell. Functions are no variables. -/
def givenBindings (d : Dialect) (p : Process) : List (String × Variable) :=
  let all : List (String × Variable) := p.environment.filterMap fun setting =>
    let (name, value) := Builtin.splitSetting setting
    if d = .bash || isName name then some (name, { content := .text value, exported := true }) else none
  all.filter fun b => b.1 ≠ "IFS" && (d = .plain || (b.1 ≠ "_" && !b.1.endsWith "%%"))

/-- The variables of a new shell. -/
def initialBindings (d : Dialect) (p : Process) (path : String) : List (String × Variable) :=
  let set (name : String) (v : Variable) (bs : List (String × Variable)) :=
    bs.filter (·.1 ≠ name) ++ [(name, v)]
  let unlessSet (name : String) (v : Variable) (bs : List (String × Variable)) :=
    if (bs.lookup name).isSome then bs else bs ++ [(name, v)]
  let common := unlessSet "PATH" (.ofText standardPath) (unlessSet "PS4" (.ofText "+ ")
    (set "OPTIND" { Variable.ofText "1" with integer := d = .bash }
      (set "IFS" (.ofText " \t\n") (givenBindings d p))))
  let place (bs : List (String × Variable)) :=
    if path = "" then bs else set "PWD" { Variable.ofText path with exported := true } bs
  match d with
  | .plain =>
    let common := set "PPID" (.ofText (toString (p.ancestors.headD 0))) common
    place (unlessSet "PS1" (.ofText "$ ") (unlessSet "PS2" (.ofText "> ") common))
  | .bash =>
    let depth : Variable := { Variable.ofText (toString (level p).1) with exported := true }
    let (own, usual) := largeVariables p
    let bs := own.foldl (fun bs v => set v.1 v.2 bs) (place (set "SHLVL" depth common))
    usual.foldl (fun bs v => unlessSet v.1 v.2 bs) bs

/-- The functions that a process hands to the large shell. -/
def givenFunctions (p : Process) : List (String × Function) :=
  p.environment.filterMap fun setting =>
    let (name, value) := Builtin.splitSetting setting
    let inner := ((name.toList.drop 10).reverse.drop 2).reverse
    if !(name.startsWith "BASH_FUNC_" && name.endsWith "%%" && (value.getD "").startsWith "() \x7b") then
      none
    else
      let text := inner ++ ' ' :: (value.getD "").toList
      match EStateM.run (Reader.line (Reader.ground .bash (Locale.ofProcess p))) { rest := text } with
      | .ok (some (.definition line name body)) _ =>
        some (name, { body, line, file := "environment", exported := true })
      | _ => none

/-- Names of options that a variable gives to the large shell. -/
def givenOptions (p : Process) : List String :=
  match settingOf? p.environment "SHELLOPTS" with
  | some text => if text = "" then [] else Text.split ':' text
  | none => []

/-- The options that are on when a script begins. The large shell edits lines and keeps a
history when it is interactive; no shell here controls processes. -/
def initialSwitches (d : Dialect) (p : Process) (call : Call) : List Switch :=
  let on := Call.switches d call.choices
  match d with
  | .plain => on.filter (· ≠ .jobControl)
  | .bash =>
    let on := (givenOptions p).foldl
      (fun on name => match Switch.ofName? d name with
        | some o => Switch.turn on o true
        | none => on)
      (on.filter (· ≠ .jobControl))
    let on := if (settingOf? p.environment "POSIXLY_CORRECT").isSome then Switch.turn on .posix true else on
    if on.contains .interactive then
      ["emacs", "histexpand", "history"].foldl (fun on name => Switch.turn on (.idle name) true) on
    else on

/-- The directory that was left last before, which counts only if it is there. -/
def withLastPlace (p : Process) (m : Machine) (bs : List (String × Variable)) : List (String × Variable) :=
  let isPlace := match settingOf? p.environment "OLDPWD" with
    | some path => m.tree.leadsToDirectory p.here path
    | none => false
  if isPlace then bs else bs.filter (·.1 ≠ "OLDPWD") ++ [("OLDPWD", { exported := true })]

/-- A shell at its start, under the name that its messages give. -/
def initial (d : Dialect) (execute : Execution) (p : Process) (m : Machine) (call : Call)
    (name : String) (args : List String) : State :=
  let path := if p.here.removed = 0 then Builtin.pathOf p.here.location else ""
  let switches := initialSwitches d p call
  let further := (if switches.contains .interactive then [("expand_aliases", true)] else []) ++ call.further
  { setting :=
      { dialect := d, name, program := if call.inline then name else p.name, inline := call.inline, process := p.number
        ancestors := p.ancestors, execute }
    machine := m, here := p.here, descriptors := p.descriptors, args, path, switches
    number := p.number, mask := p.mask
    functions := if d = .bash ∧ !switches.contains (.idle "privileged") then givenFunctions p else []
    lastWord := (settingOf? p.environment "_").getD p.name
    bindings :=
      let bs := initialBindings d p path
      if d = .bash then withLastPlace p m bs else bs
    traps := p.ignored.filterMap fun signal => (Signal.name? signal).map (·, "")
    changed := further.filterMap fun (name, on) =>
      if (Switch.further.lookup name).any (· ≠ on) then some name else none }

/-- Runs a script in a new shell. -/
def runScript (start : State) (script : String) : Machine × Outcome :=
  let r := Act.runner Act.depthLimit
  let first : Act Unit := do
    let s ← get
    if s.setting.dialect = .bash ∧ !s.switches.contains .interactive ∧
        !s.switches.contains .posix then
      Act.runFirst r
  let exited (ended : State) : Outcome := .ended (.exited (UInt8.ofNat (ended.status % 256)))
  match EStateM.run (Act.toEnd r (do first; r.script none 1 script)) start with
  | .ok .finished ended => (left ended, exited ended)
  | .ok (.killed signal) ended => (left ended, .ended (.killed signal))
  | .ok (.becomes path p) ended => (left ended, .becomes path p)
  | .error _ ended => (left ended, exited ended)
where
  /-- The machine when what goes on beside a shell that has ended has come to its end too. -/
  left (ended : State) : Machine :=
    match EStateM.run (Act.elapse none) { ended with descriptors := [] } with
    | .ok _ s | .error _ s => s.machine

/-- The path and the text of the file that holds a script. The large shell also looks for it
where programs are. -/
def scriptFile (d : Dialect) (p : Process) (m : Machine) (name : String) :
    Except OsError (String × Machine) :=
  match d, p.read name m with
  | .plain, .error .isDirectory => .ok ("", m)
  | .bash, .error .noEntry =>
    if name.toList.contains '/' ∨ name = "" then .error .noEntry
    else
      let directories := Text.split ':' ((settingOf? p.environment "PATH").getD standardPath)
      let paths := directories.map fun directory =>
        if directory = "" then name else directory ++ "/" ++ name
      match paths.find? (m.tree.isProgram p.here) with
      | some path => p.read path m
      | none => .error .noEntry
  | _, result => result

/-- Says why a script cannot be read, and gives the status; a large shell that is to end at
errors has another one. -/
def refuseScript (d : Dialect) (strict : Bool) (p : Process) (name : String) (e : OsError) :
    String × UInt8 :=
  match d, e with
  | .plain, e =>
    let text := if e = .noEntry ∨ e = .notDirectory then "No such file" else e.message
    (p.name ++ ": 0: cannot open " ++ name ++ ": " ++ text ++ "\n", 2)
  | .bash, .isDirectory => (name ++ ": " ++ name ++ ": " ++ e.message ++ "\n", if strict then 1 else 126)
  | .bash, .badFormat => (name ++ ": " ++ name ++ ": cannot execute binary file\n", 126)
  | .bash, e =>
    let status := if strict then 1 else if e = .noEntry then 127 else 126
    (p.name ++ ": " ++ name ++ ": " ++ e.message ++ "\n", status)

/-- What a shell says that does not know where it is. -/
def lostMessage (d : Dialect) : String :=
  match d with
  | .plain => "sh: 0: getcwd() failed: No such file or directory\n"
  | .bash => "shell-init: error retrieving current directory: getcwd: cannot access parent " ++
      "directories: No such file or directory\n"

/-- What the large shell says about variables that it cannot make sense of. -/
def largeWarnings (p : Process) : String :=
  let warning (text : String) : String := p.name ++ ": warning: " ++ text ++ "\n"
  let locale := (settingOf? p.environment "LC_ALL").getD ""
  (if Locale.isKnown locale then ""
    else warning ("setlocale: LC_ALL: cannot change locale (" ++ locale ++ ")" ++
      if locale.toList.contains '/' then ": " ++ OsError.invalid.message else "")) ++
  (if (level p).2 then
    let above := ((settingOf? p.environment "SHLVL").bind Builtin.whole?).getD 0
    warning ("shell level (" ++ toString (above + 1) ++ ") too high, resetting to 1")
  else "")

/-- What a shell says that is to control processes, under a name: it has no terminal. -/
def terminalWarnings (d : Dialect) (p : Process) (name : String) (on : List Switch) : String :=
  if !on.contains .interactive ∧ !on.contains .jobControl then ""
  else
    match d with
    | .plain => name ++ ": 0: " ++ Builtin.noTerminal ++ "\n"
    | .bash =>
      p.name ++ ": cannot set terminal process group (-1): Inappropriate ioctl for device\n" ++
        p.name ++ ": no job control in this shell\n"

/-- Runs the script that a call stands for. -/
def runCall (d : Dialect) (execute : Execution) (p : Process) (m : Machine) (call : Call) :
    Machine × Outcome :=
  let say (text : String) (status : UInt8) (m : Machine) : Machine × Outcome :=
    ((p.err text m).2, .ended (.exited status))
  let on := Call.switches d call.choices
  let begin (name : String) (args : List String) (script : String) (m : Machine) :
      Machine × Outcome :=
    let m := if d = .plain then (p.err (terminalWarnings d p name on) m).2 else m
    runScript (initial d execute p m call name args) script
  match call.inline, call.args with
  | true, script :: rest => begin (rest.headD p.name) rest.tail script m
  | _, args =>
    match if on.contains .fromInput then [] else args with
    | [] =>
      if d = .bash ∧ Process.unreadable? p.descriptors 0 = some .isDirectory then
        say (p.name ++ ": error reading input file: " ++ OsError.isDirectory.message ++ "\n") 2 m
      else
        let (script, m) := p.input m
        let call := { call with choices := call.choices ++ [.turn .fromInput true] }
        let m := if d = .plain then (p.err (terminalWarnings d p p.name on) m).2 else m
        runScript (initial d execute p m call p.name args) script
    | name :: rest =>
      let strict := (initialSwitches d p call).contains .exitOnError
      match scriptFile d p m name with
      | .error e =>
        let (text, status) := refuseScript d strict p name e
        say text status m
      | .ok (script, m) =>
        if d = .bash ∧ Act.isBinary script then
          let (text, status) := refuseScript d strict p name .badFormat
          say text status m
        else begin name rest script m

/-- Runs a shell. -/
def run (d : Dialect) (execute : Execution) (p : Process) (m : Machine) : Machine × Outcome :=
  let fail (f : CallFault) (on : List Switch) (m : Machine) : Machine × Outcome :=
    let (text, status) := f.message d p.name on
    ((p.err text m).2, .ended (.exited status))
  let m := if p.here.removed = 0 then m else (p.err (lostMessage d) m).2
  let position := (settingOf? p.environment "OPTIND").getD "1"
  if d = .plain ∧ !Act.isPosition position then
    ((p.err (p.name ++ ": 0: Illegal number: " ++ position ++ "\n") m).2, .ended (.exited 2))
  else
    match Call.ofArgs d p.args with
    | .error f => fail f [] m
    | .ok call =>
      let (shown, fault) := Call.check d [] call.choices
      let m := (p.out shown m).2
      let on := Call.switches d call.choices
      let unknown := call.further.find? fun o => (Switch.further.lookup o.1).isNone
      match fault, unknown with
      | some (f, on), _ => fail f on m
      | none, unknown =>
        if call.inline ∧ call.args.isEmpty then fail .scriptMissing on m
        else if d = .plain then runCall d execute p m call
        else
          let unknownNames := (givenOptions p).filter fun name => (Switch.ofName? d name).isNone
          let about (name : String) : String :=
            p.name ++ ": line 0: " ++ name ++ ": invalid option name\n"
          let m := (p.err (largeWarnings p ++ terminalWarnings d p p.name on ++
            String.join (unknownNames.map about)) m).2
          match unknown with
          | some (name, _) => fail (.furtherName name) on m
          | none => runCall d execute p m call

end ScriptSearch.Host.Shell
