import ScriptSearch.Host.Numeral
import ScriptSearch.Host.Real
import ScriptSearch.Host.Tools.Lines
import ScriptSearch.Host.Tools.Work

/-! Tools that start other programs, in changed surroundings or with arguments that they read. -/

namespace ScriptSearch.Host.Tools

open Work

/-- Lets the program that operands name take the place of the tool, or says why that is not
possible. -/
def becomeOperands (operands : List String) (change : Process → Process)
    (told : String → Work String) : Work Unit := do
  match operands with
  | [] => pure ()
  | program :: args =>
    let e ← become (change { (← process) with name := program, args })
    fail ((← told program) ++ ": " ++ e.message) (if e = .noEntry then 127 else 126)

/-- How a failure to run a program is told. -/
def failureToRun (program : String) : Work String :=
  return "failed to run command " ++ (← quoted program)

/-! ### Variables -/

/-- Where a text that is to be split stands: the words before, the word that has begun, and the
quote that is open. -/
structure Splitting where
  words : List String := []
  word : Option (List Char) := none
  quote : Option Char := none

def Splitting.add (s : Splitting) (cs : List Char) : Splitting :=
  { s with word := some (cs.reverse ++ s.word.getD []) }

/-- Ends the word that has begun. -/
def Splitting.separate (s : Splitting) : Splitting :=
  match s.word with
  | some w => { s with words := s.words ++ [String.ofList w.reverse], word := none }
  | none => s

/-- What a backslash and a letter stand for in a text that is to be split. -/
def splitEscapes : List (Char × Char) :=
  [('"', '"'), ('#', '#'), ('$', '$'), ('\'', '\''), ('\\', '\\'), ('f', '\x0c'), ('n', '\n'),
    ('r', '\r'), ('t', '\t'), ('v', '\x0b')]

/-- The words of a text between blanks; quotes hold a word together, a backslash protects, and
variables stand for their values. -/
def splitWords (environment : List String) : Splitting → Nat → List Char → Except String (List String)
  | s, 0, _ | s, _, [] =>
    if s.quote.isSome then .error "no terminating quote in -S string" else .ok s.separate.words
  | s, steps + 1, c :: rest =>
    if c = '\'' ∨ c = '"' then
      if s.quote = some c then splitWords environment { s.add [] with quote := none } steps rest
      else if s.quote = none then splitWords environment { s.add [] with quote := some c } steps rest
      else splitWords environment (s.add [c]) steps rest
    else if s.quote = none ∧ Numeral.isSpace c then splitWords environment s.separate steps rest
    else if c = '#' ∧ s.quote = none ∧ s.word = none then .ok s.words
    else if c = '\\' ∧ !(s.quote = some '\'' ∧ rest.head? ≠ some '\\' ∧ rest.head? ≠ some '\'') then
      match rest with
      | [] => .error "invalid backslash at end of string in -S"
      | '_' :: rest => splitWords environment (if s.quote = some '"' then s.add [' '] else s.separate) steps rest
      | 'c' :: _ =>
        if s.quote = some '"' then .error "'\\c' must not appear in double-quoted -S string"
        else .ok s.separate.words
      | c :: rest =>
        match splitEscapes.lookup c with
        | some c => splitWords environment (s.add [c]) steps rest
        | none => .error ("invalid sequence '\\" ++ String.ofList [c] ++ "' in -S")
    else if c = '$' ∧ s.quote ≠ some '\'' then
      let name := (rest.drop 1).takeWhile fun c => c.isAlphanum || c = '_'
      if rest.head? = some '\x7b' ∧ (rest.drop (1 + name.length)).head? = some '\x7d' ∧
          !(name.head?.all Char.isDigit) then
        let s := match settingOf? environment (String.ofList name) with
          | some value => s.add value.toList
          | none => s
        splitWords environment s steps (rest.drop (2 + name.length))
      else .error ("only $\x7bVARNAME\x7d expansion is supported, error at: " ++ String.ofList (c :: rest))
    else splitWords environment (s.add [c]) steps rest

/-- The arguments with a text that is to be split in them taken apart. -/
def splitArgs (environment : List String) (args : List String) : Except String (List String) :=
  let split (text : String) : Except String (List String) :=
    splitWords environment {} (text.length + 1) text.toList
  match args with
  | [] => .ok []
  | arg :: rest =>
    match arg.toList, rest with
    | ['-', 'S'], text :: rest => (· ++ rest) <$> split text
    | '-' :: 'S' :: c :: cs, rest => (· ++ rest) <$> split (String.ofList (c :: cs))
    | '-' :: 'v' :: 'S' :: cs, rest => (fun words => "-v" :: words ++ rest) <$> split (String.ofList cs)
    | _, rest =>
      if arg.startsWith "--split-string=" then (· ++ rest) <$> split ((arg.drop 15).toString)
      else .ok (arg :: rest)

def environmentRules : List OptionRule :=
  [flag "i" "ignore-environment", flag "0" "null", valued "u" "unset", valued "C" "chdir",
    valued "S" "split-string", flag "v" "debug", perhaps "" "default-signal", perhaps "" "ignore-signal",
    perhaps "" "block-signal", flag "" "list-signal-handling"]

/-- Whether a setting is of a variable. -/
def isSettingOf (name setting : String) : Bool := (name ++ "=").toList.isPrefixOf setting.toList

/-- What is said about blanks that have not been taken for separators. -/
def splitHint : String := "use -[v]S to pass options in shebang lines"

/-- Variables with a setting put in its place. -/
def withSetting (environment : List String) (setting : String) : List String :=
  let name := String.ofList (setting.toList.takeWhile (· ≠ '='))
  if environment.any (isSettingOf name) then
    environment.map fun s => if isSettingOf name s then setting else s
  else environment ++ [setting]

/-- Runs a program with other variables, or writes the variables. -/
def environment : Work Unit := do
  let p ← process
  let args ← match splitArgs p.environment p.args with
    | .ok args => pure args
    | .error text => fail text 125
  match ({ rules := environmentRules, inOrder := true } : OptionTable).read args with
  | .error f =>
    let blank := f matches .unknown ' ' | .unknown '\t'
    if blank then warn f.message
    refuse (if blank then splitHint else f.message) 125
  | .ok g =>
    if g.hasAny ["help", "version"] then leave 0
    let (bare, operands) := match g.operands with
      | "-" :: rest => (true, rest)
      | operands => (g.has "i", operands)
    let unset := g.all "u"
    if let some name := unset.find? fun name => name = "" || name.toList.contains '=' then
      fail ("cannot unset " ++ (← quoted name) ++ ": " ++ OsError.invalid.message) 125
    let isSetting (s : String) : Bool := s.toList.contains '='
    let settings := operands.takeWhile isSetting
    let command := operands.drop settings.length
    let old := if bare then [] else p.environment.filter fun s => !unset.any (isSettingOf · s)
    let changed := settings.foldl withSetting old
    match command with
    | [] =>
      if g.has "C" then refuse "must specify command with --chdir (-C)" 125
      say (ofLines (lineStop (g.has "0")) changed)
    | program :: args =>
      if g.has "0" then refuse "cannot specify --null (-0) with command" 125
      let here ← match g.last? "C" with
        | none => pure p.here
        | some path =>
          match (← machine).tree.directory p.here path with
          | .ok here => pure here
          | .error e => fail ("cannot change directory to " ++ (← quoted path) ++ ": " ++ e.message) 125
      if g.has "v" then
        p.err ("executing: " ++ program ++ "\n")
        for (arg, i) in (program :: args).zipIdx do
          p.err ("   arg[" ++ toString i ++ "]= " ++ (← quoted arg) ++ "\n")
      let e ← become { p with name := program, args, environment := changed, here }
      warn ((← quoted program) ++ ": " ++ e.message)
      if e = .noEntry ∧ program.toList.any Numeral.isSpace then warn splitHint
      leave (if e = .noEntry then 127 else 126)

/-! ### Other surroundings -/

/-- Runs a program with another priority. -/
def withPriority : Work Unit := do
  let p ← process
  -- numbers can stand right behind the dash
  let args := match p.args with
    | arg :: rest =>
      match arg.toList with
      | '-' :: cs =>
        let digits := if cs.head? = some '-' ∨ cs.head? = some '+' then cs.drop 1 else cs
        if digits.head?.any Char.isDigit then ("-n" ++ String.ofList cs) :: rest else arg :: rest
      | _ => arg :: rest
    | [] => []
  let g ← optionsOf { rules := [valued "n" "adjustment"], inOrder := true } args 125
  match g.last? "n" with
  | some text =>
    if (Numeral.decimal? text).isNone then fail ("invalid adjustment " ++ (← quoted text)) 125
    if g.operands.isEmpty then refuse "a command must be given with an adjustment" 125
  | none => if g.operands.isEmpty then say "0\n"
  becomeOperands g.operands id quoted

/-- Runs a program that goes on when its terminal is gone. -/
def withoutTerminal : Work Unit := do
  let g ← options { inOrder := true } 125
  if g.operands.isEmpty then refuse "missing operand" 125
  becomeOperands g.operands id failureToRun

/-- Runs a program in a session of its own. -/
def inOwnSession : Work Unit := do
  let g ← options { rules := [flag "c" "ctty", flag "f" "fork", flag "w" "wait"], inOrder := true }
  if g.operands.isEmpty then refuse "no command specified"
  becomeOperands g.operands id fun program => return "failed to execute " ++ program

/-- Runs a program that gathers less text before it writes. -/
def withBuffering : Work Unit := do
  let g ← options { rules := [valued "i" "input", valued "o" "output", valued "e" "error"], inOrder := true } 125
  for (letter, mode) in g.options do
    let isSize := match count true mode with
      | .ok _ => true
      | .error _ => false
    if !(mode = "L" ∧ letter ≠ "i") ∧ !isSize then
      if mode = "L" then refuse "line buffering stdin is meaningless" 125
      fail ("invalid mode " ++ (← quoted mode)) 125
  if g.operands.isEmpty then refuse "missing operand" 125
  if g.options.isEmpty then refuse "you must specify a buffering mode option" 125
  becomeOperands g.operands id failureToRun

/-- Ends as a program has ended. -/
def endAs (t : Termination) : Work Unit := throw (.ended t)

/-- Does something for so many microseconds at most; gives nothing if that is not enough. -/
def limited {α : Type} (limit : Option Nat) (work : Work α) : Work (Option α) := do
  let m ← machine
  let own := limit.map (m.clock + ·)
  let deadline := match m.deadline, own with
    | some a, some b => some (min a b)
    | a, b => a <|> b
  set { m with deadline }
  let result ← try some <$> work
    catch e =>
      let now ← machine
      let isOver := match now.halted with
        | some (.asleep _) => own = some now.clock && m.deadline ≠ own
        | _ => false
      if isOver then
        set { now with halted := none }
        pure none
      else throw e
  modifyThe Machine fun now => { now with deadline := m.deadline }
  return result

/-- Runs a program for so long at most. -/
def withTimeLimit (isTime : String → Bool) (microseconds : String → Nat) (signal? : String → Option (Fin 128)) :
    Work Unit := do
  let g ← options
    { rules := [valued "k" "kill-after", valued "s" "signal", flag "v" "verbose",
        flag "" "preserve-status", flag "" "foreground"], inOrder := true } 125
  let tryHelp : Work Unit := do
    let p ← process
    p.err ("Try '" ++ p.name ++ " --help' for more information.\n")
    leave 125
  for (name, value) in g.options do
    if name = "k" ∧ !isTime value then refuse ("invalid time interval " ++ (← quoted value)) 125
    if name = "s" ∧ (signal? value).isNone then
      warn ((← quoted value) ++ ": invalid signal")
      tryHelp
  match g.operands with
  | [] | [_] => tryHelp
  | time :: program :: args =>
    if !isTime time then refuse ("invalid time interval " ++ (← quoted time)) 125
    let limit := microseconds time
    let signal := ((g.last? "s").bind signal?).getD Signal.termination
    match ← limited (if limit = 0 then none else some limit)
        (runProgram { (← process) with name := program, args }) with
    | none =>
      if signal = Signal.forced then endAs (.killed signal)
      else if g.has "preserve-status" then leave (UInt8.ofNat (128 + signal.val))
      else leave 124
    | some (.ok t) => endAs t
    | some (.error e) =>
      fail ((← failureToRun program) ++ ": " ++ e.message) (if e = .noEntry then 127 else 126)

/-- Runs a program while a file is locked. -/
def withLock : Work Unit := do
  let g ← options
    { rules := [flag "s" "shared", flag "x" "exclusive", flag "e", flag "u" "unlock", flag "n" "nonblocking",
        flag "n" "nb", flag "n" "nonblock", valued "w" "timeout", valued "w" "wait",
        valued "E" "conflict-exit-code", flag "o" "close", flag "c" "command", flag "F" "no-fork",
        flag "" "verbose"], inOrder := true }
  match g.operands with
  | [] => refuse "not enough arguments" 64
  | [descriptor] =>
    if !descriptor.toList.all Char.isDigit then fail ("bad file descriptor: '" ++ descriptor ++ "'") 64
  | file :: program :: args =>
    let p ← process
    match p.openFile file .appending (← machine) with
    | .error .isDirectory => pure ()
    | .error e => fail ("cannot open lock file " ++ file ++ ": " ++ e.message) 66
    | .ok (_, m) => set m
    let (program, args) ← match program, args with
      | "-c", [script] | "--command", [script] => pure ("/bin/sh", ["-c", script])
      | "-c", _ | "--command", _ => fail (program ++ " requires exactly one command argument") 64
      | _, _ => pure (program, args)
    match ← runProgram { p with name := program, args } with
    | .ok t => setStatus (UInt8.ofNat t.status)
    | .error e => fail ("failed to execute " ++ program ++ ": " ++ e.message) 69

/-! ### Arguments from the input -/

/-- How arguments are read and given to programs. -/
structure Feeding where
  /-- The character between arguments, if blanks and quotes have no meaning. -/
  delimiter : Option Char := none
  /-- Whether each line is one argument. -/
  byLine : Bool := false
  /-- An argument that ends the input. -/
  last : Option String := none

/-- Arguments of a text: each with whether its line ends behind it. -/
structure Fed where
  words : List (String × Bool) := []
  fault : Option String := none

/-- Takes a text apart at blanks and line ends; quotes and backslashes protect. The quote that is
open, the word that has begun, in reverse order, and whether the last character was a blank. -/
def fedWords (byLine : Bool) : (quote : Option Char) → (word : Option (List Char)) → (blank : Bool) →
    List Char → Fed
  | some q, _, _, [] => { fault := some (unmatched q) }
  | none, word, _, [] => { words := (word.map fun w => (String.ofList w.reverse, true)).toList }
  | quote, word, blank, c :: rest =>
    let more (c : Char) : Option (List Char) := some (c :: word.getD [])
    match quote with
    | some q =>
      if c = '\n' then { fault := some (unmatched q) }
      else if c = q then fedWords byLine none (some (word.getD [])) false rest
      else fedWords byLine quote (more c) false rest
    | none =>
      if c = '\n' then
        match word with
        | some w =>
          let found := fedWords byLine none none false rest
          { found with words := (String.ofList w.reverse, true) :: found.words }
        | none =>
          let found := fedWords byLine none none false rest
          if blank then found else found
      else if (c = ' ' ∨ c = '\t') ∧ (!byLine ∨ word.isNone) then
        match word with
        | some w =>
          -- a blank at the end of a line goes on with the next one
          let found := fedWords byLine none none true rest
          let ends := (rest.dropWhile fun c => c = ' ' || c = '\t').isEmpty
          { found with words := (String.ofList w.reverse, ends) :: found.words }
        | none => fedWords byLine none none true rest
      else if c = '\'' ∨ c = '"' then fedWords byLine (some c) (some (word.getD [])) false rest
      else if c = '\\' then
        match rest with
        | next :: rest => fedWords byLine none (more next) false rest
        | [] => fedWords byLine none (more c) false []
      else fedWords byLine none (more c) false rest
where
  unmatched (q : Char) : String :=
    "unmatched " ++ (if q = '"' then "double" else "single") ++
      " quote; by default quotes are special to xargs unless you use the -0 option"

/-- The arguments that a text means. -/
def Feeding.read (f : Feeding) (text : String) : Fed :=
  let found : Fed := match f.delimiter with
    | some c => { words := (linesOf c text).map (·, true) }
    | none => fedWords f.byLine none none false text.toList
  match f.last with
  | some last =>
    if f.delimiter.isNone ∧ found.words.any (·.1 = last) then
      { words := found.words.takeWhile (·.1 ≠ last) }
    else found
  | none => found

/-- Arguments in groups of so many, or of so many lines. -/
def groupsOfWords (most : Option Nat) (lines : Option Nat) (budget : Nat) (words : List (String × Bool)) :
    List (List String) :=
  let rec go : List (String × Bool) → (group : List String) → (count ended size : Nat) → List (List String)
    | [], group, _, _, _ => if group.isEmpty then [] else [group.reverse]
    | (word, endsLine) :: rest, group, count, ended, size =>
      let size' := size + Octet.size word + 1
      let full := most.any (· ≤ count) || lines.any (· ≤ ended) || (budget < size' && !group.isEmpty)
      let end' := if endsLine then 1 else 0
      if full ∧ !group.isEmpty then group.reverse :: go rest [word] 1 end' (Octet.size word + 1)
      else go rest (word :: group) (count + 1) (ended + end') size'
  go words [] 0 0 0

/-- A number as the value of an option that has to be large enough. -/
def feedingNumber (letter text : String) (least : Int) : Work Nat := do
  match Numeral.decimal? text with
  | none => refuse ("invalid number \"" ++ text ++ "\" for -" ++ letter ++ " option")
  | some n =>
    if n < least then
      refuse ("value " ++ text ++ " for -" ++ letter ++ " option should be >= " ++ toString least)
    return n.toNat

/-- Runs a program with arguments from the input, as often as that takes. -/
def feedArguments : Work Unit := do
  let g ← options
    { rules := [flag "0" "null", valued "a" "arg-file", valued "d" "delimiter", valued "E", perhaps "e" "eof",
        perhaps "i" "replace", valued "I", perhaps "l" "max-lines", valued "L", valued "n" "max-args",
        flag "o" "open-tty", valued "P" "max-procs", flag "p" "interactive", valued "" "process-slot-var",
        flag "r" "no-run-if-empty", valued "s" "max-chars", flag "" "show-limits", flag "t" "verbose",
        flag "x" "exit"], inOrder := true }
  let number? (letter : String) (least : Int) : Work (Option Nat) := do
    match g.last? letter with
    | none => return none
    | some "" => return some 1
    | some text => return some (← feedingNumber letter text least)
  let most ← number? "n" 1
  let linesL ← number? "L" 1
  let linesl ← number? "l" 1
  let size ← number? "s" 1
  discard (number? "P" 0)
  let delimiter ← match g.lastOf ["0", "d"] with
    | none => pure none
    | some "0" => pure (some '\x00')
    | some _ =>
      let text := (g.last? "d").getD ""
      match text.toList with
      | [c] => pure (some c)
      | ['\\', 'n'] => pure (some '\n')
      | ['\\', 't'] => pure (some '\t')
      | ['\\', '0'] => pure (some '\x00')
      | ['\\', '\\'] => pure (some '\\')
      | _ =>
        fail ("Invalid input delimiter specification " ++ text ++ ": the delimiter must be either a " ++
          "single character or an escape sequence starting with \\.")
  let last := g.lastOf ["E", "e", "n", "L", "l", "I", "i"]
  let replaced? : Option String := match g.lastOf ["I", "i"] with
    | some "I" => g.last? "I"
    | some _ => (g.last? "i").map fun s => if s = "" then "\x7b\x7d" else s
    | none => none
  -- of options that exclude each other the last one counts
  let kind := g.lastOf ["n", "L", "l", "I", "i"]
  let replaces := kind = some "I" || kind = some "i" ||
    (kind = some "n" && most = some 1 && replaced?.isSome)
  if replaces ∧ most.isSome ∧ kind ≠ some "n" then
    warn ("warning: options --max-args and --replace/-I/-i are mutually exclusive, ignoring previous --max-args value")
  else if !replaces ∧ replaced?.isSome ∧ kind = some "n" then
    warn ("warning: options --replace and --max-args/-n are mutually exclusive, ignoring previous --replace value")
  else if kind = some "n" ∧ (linesL.isSome ∨ linesl.isSome) then
    warn ("warning: options --max-lines and --max-args/-n are mutually exclusive, ignoring previous --max-lines value")
  discard (pure last)
  let lines? := if kind = some "L" then linesL else if kind = some "l" then linesl else none
  let source := (g.last? "a").getD "-"
  let text ← match ← contents source with
    | .ok text => pure text
    | .error e => fail ("Cannot open input file " ++ (← quoted source) ++ ": " ++ e.message)
  let feeding : Feeding :=
    { delimiter, byLine := replaces, last := (g.last? "E").orElse fun _ => g.last? "e" }
  let fed := feeding.read text
  let (program, fixed) := match g.operands with
    | [] => ("echo", [])
    | program :: args => (program, args)
  let p ← process
  let descriptors := if g.has "a" then p.descriptors
    else (0, .null) :: p.descriptors.filter (·.1 ≠ 0)
  let fixedSize := ((program :: fixed).map fun s => Octet.size s + 1).foldl (· + ·) 0
  let budget := match size with
    | some n => n - fixedSize
    | none => 131072 - fixedSize
  if replaces then
    let mark := replaced?.getD "\x7b\x7d"
    for (word, _) in fed.words do
      let put (s : String) : String := String.intercalate word (s.splitOn mark)
      runOne g { p with name := put program, args := fixed.map put, descriptors }
  else
    let tooLong := fed.words.any fun w => budget < Octet.size w.1 + 1
    if tooLong then fail "argument line too long"
    let groups := groupsOfWords (if kind = some "n" then most else if lines?.isNone then most else none) lines?
      budget fed.words
    let groups := if groups.isEmpty ∧ !g.has "r" ∧ fed.fault.isNone then [[]] else groups
    for group in groups do
      runOne g { p with name := program, args := fixed ++ group, descriptors }
  if let some fault := fed.fault then fail fault
where
  runOne (g : Given) (p : Process) : Work Unit := do
    if g.has "t" then
      let shown ← (p.name :: p.args).mapM bare
      p.err (String.intercalate " " shown ++ "\n")
    match ← runProgram p with
    | .error e => fail (p.name ++ ": " ++ e.message) (if e = .noEntry then 127 else 126)
    | .ok (.killed signal) => fail (p.name ++ ": terminated by signal " ++ toString signal.val) 125
    | .ok (.exited 0) => pure ()
    | .ok (.exited 255) => fail (p.name ++ ": exited with status 255; aborting") 124
    | .ok (.exited _) => setStatus 123

end ScriptSearch.Host.Tools
