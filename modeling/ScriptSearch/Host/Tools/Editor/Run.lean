import ScriptSearch.Host.Tools.Editor.Reading
import ScriptSearch.Host.Tools.Lines
import ScriptSearch.Host.Tools.Work

/-! Running scripts of the stream editor over the lines of files. -/

namespace ScriptSearch.Host.Editor

open Tools Tools.Work

/-- How a script is run. -/
structure Options where
  silent : Bool := false
  /-- Whether each file has line numbers and a last line of its own. -/
  separate : Bool := false
  /-- Whether files are changed, and what is put behind the names of the old ones. -/
  inPlace : Option String := none
  stop : Char := '\n'
  width : Nat := 70
  wide : Bool := false
  posix : Bool := false

/-- Text that is written somewhere; the last line may be without an end. -/
structure Sink where
  text : String := ""
  unended : Bool := false

def Sink.add (s : Sink) (text : String) : Sink :=
  { text := (if s.unended then s.text ++ "\n" else s.text) ++ text }

/-- Adds a line that ends if it ended where it was read. -/
def Sink.addLine (s : Sink) (stop : Char) (line : String) (ended : Bool) : Sink :=
  let s := s.add line
  if ended then { s with text := s.text.push stop } else { s with unended := true }

/-- What is written behind a line. -/
inductive Later
  | text (s : String)
  | file (name : String)

/-- Where the lines of a command stand. -/
inductive Stage
  | before
  /-- Among them; up to a line, if it has a number. -/
  | among (last : Option Nat)
  | past

structure Run where
  options : Options
  script : Script
  files : List String
  /-- The lines of a file that are left, and whether they end. -/
  lines : List (String × Bool) := []
  current : String := "-"
  number : Nat := 0
  pattern : String := ""
  ended : Bool := true
  held : String := ""
  heldEnded : Bool := true
  later : List Later := []
  changed : Bool := false
  stages : Array Stage
  lastSearch : Option Search := none
  /-- Files that are read line by line. -/
  read : List (String × List (String × Bool)) := []
  /-- Files that are written. -/
  written : List (String × Sink) := []
  out : Sink := {}
  /-- Whether the last line that a command has written to the standard output is without an end. -/
  shared : Bool := false
  /-- Whether a file is open that is to be changed. -/
  editing : Bool := false
  status : UInt8 := 0

/-! ### Reading lines -/

/-- The lines of a text, each with whether it ends. -/
def endedLines (stop : Char) (text : String) : List (String × Bool) :=
  let lines := linesOf stop text
  let whole := text = "" || text.endsWith stop
  lines.zipIdx.map fun (line, i) => (line, whole || i + 1 < lines.length)

/-- Ends the file that is being changed. -/
def Run.closeFile (r : Run) : Work Run := do
  if !r.editing then return r
  match r.options.inPlace with
  | none => return r
  | some ending =>
    if ending ≠ "" then
      let name := if ending.toList.contains '*' then ending.replace "*" r.current else r.current ++ ending
      if let .ok old := ← contents r.current then discard (store name old)
    discard (store r.current r.out.text)
    return { r with out := {}, editing := false }

/-- Opens files up to one that has lines. The first argument bounds the steps. -/
def Run.openNext (r : Run) : Nat → Work Run
  | 0 => return r
  | steps + 1 => do
    if !r.lines.isEmpty then return r
    match r.files with
    | [] => return r
    | name :: files =>
      let r ← r.closeFile
      let r := { r with files, current := name }
      let (tree, here) ← place
      let editable : Bool := match tree.find here name with
        | .ok (.file _) => true
        | _ => false
      match ← if name = "-" ∧ r.options.inPlace.isNone then contents "-" else contents (if name = "-" then "./-" else name) with
      | .error .isDirectory =>
        if r.options.inPlace.isSome then
          warn ("couldn't edit " ++ name ++ ": not a regular file")
          openNext { r with status := 4 } steps
        else
          say r.out.text
          fail ("read error on " ++ name ++ ": " ++ OsError.isDirectory.message) 4
      | .error e =>
        warn ("can't read " ++ name ++ ": " ++ e.message)
        openNext { r with status := if r.status = 0 then 2 else r.status } steps
      | .ok text =>
        if r.options.inPlace.isSome ∧ !editable then
          warn ("couldn't edit " ++ name ++ ": not a regular file")
          openNext { r with status := 4 } steps
        else
          let r := { r with lines := endedLines r.options.stop text, editing := r.options.inPlace.isSome }
          let r := if r.options.separate then { r with number := 0 } else r
          openNext r steps

/-- Whether there are lines in files that have still to be opened. -/
def Run.hasMore (r : Run) : Work Bool := do
  if r.options.separate then return false
  let p ← process
  let m ← machine
  return r.files.any fun name =>
    if name = "-" then (p.channel? 0).any fun c => m.unread c ≠ ""
    else match p.read name m with
      | .ok (text, _) => text ≠ ""
      | .error _ => false

/-- Whether there is no line behind the present one. -/
def Run.isLast (r : Run) : Work Bool := do
  if !r.lines.isEmpty then return false
  return !(← r.hasMore)

/-- Whether there is nothing more to read at all. -/
def Run.isDone (r : Run) : Work Bool := do
  if !r.lines.isEmpty then return false
  return !(← { r with options := { r.options with separate := false } }.hasMore)

/-! ### Writing -/

/-- Changes what is written under a name. -/
def Run.intoFile (r : Run) (name : String) (f : Sink → Sink) : Run :=
  if name = "/dev/stdout" then
    -- what is written here is followed by the rest, whether its last line ends or not
    let sink := f { unended := r.shared }
    { r with out := { r.out with text := r.out.text ++ sink.text }, shared := sink.unended }
  else if r.written.any (·.1 = name) then
    { r with written := r.written.map fun (n, s) => if n = name then (n, f s) else (n, s) }
  else { r with written := (name, f {}) :: r.written }

def Run.print (r : Run) (text : String) : Run := { r with out := r.out.add text }

def Run.printLine (r : Run) (line : String) : Run :=
  { r with out := r.out.addLine r.options.stop line r.ended }

/-- Writes what has been put off. -/
def Run.release (r : Run) : Work Run := do
  let mut r := r
  for item in r.later do
    match item with
    | .text s => r := r.print s
    | .file name =>
      if let .ok text := ← contents (if name = "/dev/stdin" then "-" else name) then
        r := r.print text
  return { r with later := [] }

/-- Reads the next line, if there is one; behind the present text if that is asked for. -/
def Run.readNext (r : Run) (append : Bool) : Work (Bool × Run) := do
  let r ← r.release
  let r ← r.openNext (r.files.length + 1)
  match r.lines with
  | [] =>
    return (false, r)
  | (line, ended) :: lines =>
    let pattern := if append then (r.pattern.push r.options.stop) ++ line else line
    return (true, { r with lines, ended, pattern, number := r.number + 1, changed := false })

/-! ### Addresses -/

/-- The search that counts: one without an expression is the last that was used. -/
def Run.searching (r : Run) (s : Search) : Work (Search × Regex × Run) := do
  match s.regex with
  | some regex => return (s, regex, { r with lastSearch := some s })
  | none =>
    match r.lastSearch.bind fun last => last.regex.map (last, ·) with
    | some (last, regex) => return (last, regex, r)
    | none =>
      say r.out.text
      fail (r.script.place ++ Flaw.noSearch.message)

def Run.matchesSearch (r : Run) (s : Search) : Work (Bool × Run) := do
  let (s, regex, r) ← r.searching s
  let text := (Octet.units s.rule.wide r.pattern).toArray
  return ((Regex.find? s.rule text regex 0).isSome, r)

def Run.startsAt (r : Run) : Start → Work (Bool × Run)
  | .line n => return (r.number = n, r)
  | .step first size => return (first ≤ r.number && (r.number - first) % size = 0, r)
  | .last => return (← r.isLast, r)
  | .found s => r.matchesSearch s

/-- Whether a command is for the present line; notes where its lines stand. -/
def Run.applies (r : Run) (i : Nat) (g : Guard) : Work (Bool × Run) := do
  match g.start, g.finish with
  | none, _ => return (!g.negated, r)
  | some start, none =>
    let (found, r) ← r.startsAt start
    return (found != g.negated, r)
  | some start, some finish =>
    let set (stage : Stage) (r : Run) : Run := { r with stages := r.stages.setIfInBounds i stage }
    let ends (r : Run) : Work (Bool × Run) := do
      match finish with
      | .last => return (← r.isLast, r)
      | .found s => r.matchesSearch s
      | _ => return (false, r)
    let (inside, r) ← match (r.stages[i]?).getD .before with
      | .past => pure (false, r)
      | .before => do
        if start matches .line 0 then
          let (ended, r) ← ends r
          pure (true, set (if ended then .past else .among none) r)
        else
          let (found, r) ← r.startsAt start
          if !found then pure (false, r)
          else
            let last : Option Nat := match finish with
              | .line n => some n
              | .behind n => some (r.number + n)
              | .multiple 0 => some r.number
              | .multiple n => some ((r.number + n - 1) / n * n)
              | _ => none
            match last with
            | some n => pure (true, if n ≤ r.number then r else set (.among (some n)) r)
            | none =>
              let ended ← if finish matches .last then r.isLast else pure false
              pure (true, if ended then r else set (.among none) r)
      | .among (some n) => pure (r.number ≤ n, if n ≤ r.number then set .before r else r)
      | .among none => do
        let (ended, r) ← ends r
        pure (true, if ended then set (if start matches .line 0 then .past else .before) r else r)
    return (inside != g.negated, r)

/-! ### Substitution -/

/-- Text of a replacement so far, in reverse order, and the changes of case that are on. -/
structure Casting where
  text : List Char := []
  lasting : Casing := .asIs
  once : Option Casing := none

def Casting.char (wide : Bool) (s : Casting) (c : Char) : Casting :=
  let changed := match s.once with
    | some .upperNext => Letters.upper wide c
    | some _ => Letters.lower wide c
    | none =>
      match s.lasting with
      | .upper => Letters.upper wide c
      | .lower => Letters.lower wide c
      | _ => c
  { s with text := changed :: s.text, once := none }

/-- The text of a replacement for a match. -/
def replacementText (wide : Bool) (parts : List Part) (group : Nat → List Char) : List Char :=
  let s := parts.foldl
    (fun (s : Casting) part => match part with
      | .text cs => cs.foldl (Casting.char wide) s
      | .group n => (group n).foldl (Casting.char wide) s
      | .casing c =>
        match c with
        | .upperNext | .lowerNext => { s with once := some c }
        | c => { s with lasting := c, once := none })
    {}
  s.text.reverse

/-- A text with matches replaced: the new text in reverse order, and whether there was any. The first
argument bounds the steps; `before` is where the last match ended. -/
def substituted (s : Substitution) (rule : RegexRule) (regex : Regex) (text : Array Char) :
    Nat → (start count : Nat) → (before : Option Nat) → (done : List Char) → List Char × Bool
  | 0, start, _, _, done => ((text.extract start text.size).toList.reverse ++ done, false)
  | steps + 1, start, count, before, done =>
    let finish := ((text.extract start text.size).toList.reverse ++ done, false)
    if text.size < start then finish
    else
      match Regex.find? rule text regex start with
      | none => finish
      | some m =>
        let done := (text.extract start m.start).toList.reverse ++ done
        if m.start = m.finish ∧ before = some m.start then
          -- an empty match right behind another counts for nothing
          match text[m.start]? with
          | some c => substituted s rule regex text steps (m.start + 1) count none (c :: done)
          | none => (done, false)
        else
          let count := count + 1
          let m := Regex.withGroups rule text regex m
          let new :=
            if count < s.number then (text.extract m.start m.finish).toList
            else replacementText rule.wide s.parts fun n => (m.group text n).getD []
          let done := new.reverse ++ done
          let replaced := s.number ≤ count
          if replaced ∧ !s.every then ((text.extract m.finish text.size).toList.reverse ++ done, true)
          else if m.start = m.finish then
            match text[m.finish]? with
            | some c =>
              let (rest, more) := substituted s rule regex text steps (m.finish + 1) count (some m.finish) (c :: done)
              (rest, replaced || more)
            | none => (done, replaced)
          else
            let (rest, more) := substituted s rule regex text steps m.finish count (some m.finish) done
            (rest, replaced || more)

/-! ### Listing -/

/-- A line with what cannot be seen escaped, in pieces that fit a width. -/
def listed (width : Nat) (text : String) : String :=
  let shown (b : UInt8) : String :=
    if b = 92 then "\\\\"
    else if 32 ≤ b ∧ b < 127 then String.singleton (Char.ofNat b.toNat)
    else
      match ([(7, "\\a"), (8, "\\b"), (12, "\\f"), (10, "\\n"), (13, "\\r"), (9, "\\t"), (11, "\\v")] :
          List (UInt8 × String)).lookup b with
      | some s => s
      | none => "\\" ++ String.ofList (Nat.toDigits 8 (512 + b.toNat)).tail
  let (out, _) := (Octet.bytes text).foldl
    (fun ((out, column) : String × Nat) b =>
      let piece := shown b
      if 0 < width ∧ width ≤ column + piece.length then (out ++ "\\\n" ++ piece, piece.length)
      else (out ++ piece, column + piece.length)) ("", 0)
  out ++ "$\n"

/-! ### Commands -/

/-- Runs a command line with the shell, and gives what it writes. -/
def commandOutput (text : String) : Work String := do
  let p ← process
  let (channel, m) := (← machine).supply ""
  set m
  let descriptors := (1, channel) :: p.descriptors.filter (·.1 ≠ 1)
  discard (runProgram { p with name := "sh", args := ["-c", text], descriptors })
  let (out, m) := (← machine).read channel
  set m
  return out

/-- How a cycle goes on behind a step. -/
inductive Onward
  | step (i : Nat)
  /-- The script is at its end. -/
  | ended
  /-- The cycle ends without printing. -/
  | deleted
  /-- The next cycle begins with what is left of the text. -/
  | again
  | quit (status : Nat)

def Run.target (r : Run) (label : String) : Nat :=
  if label = "" then r.script.steps.size else (r.script.labels.lookup label).getD r.script.steps.size

/-- The first line of the text, and what is behind it. -/
def Run.firstLine (r : Run) : String × Option String :=
  match Text.split r.options.stop r.pattern with
  | [line] => (line, none)
  | line :: rest => (line, some (Text.join r.options.stop rest))
  | [] => ("", none)

/-- Substitutes in the text. -/
def Run.substitute (r : Run) (s : Substitution) : Work Run := do
  let (search, regex, r) ← r.searching s.search
  let text := (Octet.units search.rule.wide r.pattern).toArray
  let (new, found) := substituted s search.rule regex text (2 * text.size + 2) 0 0 none []
  if !found then return r
  let r := { r with pattern := Octet.join new.reverse, changed := true }
  let r ← do
    if s.evaluates then
      let out ← commandOutput r.pattern
      pure { r with pattern := if out.endsWith "\n" then (out.dropEnd 1).toString else out }
    else pure r
  let r := if s.prints then r.printLine r.pattern else r
  match s.file with
  | some name => return r.intoFile name fun sink => sink.addLine r.options.stop r.pattern r.ended
  | none => return r

/-- Does what a step says. -/
def Run.perform (r : Run) (i : Nat) (a : Action) (silent : Bool) : Work (Onward × Run) := do
  let on (r : Run) : Work (Onward × Run) := return (.step (i + 1), r)
  let stop := r.options.stop
  match a with
  | .group _ | .nothing => on r
  | .substitute s => on (← r.substitute s)
  | .translate pairs =>
    let cs := Octet.units r.options.wide r.pattern
    on { r with pattern := Octet.join (cs.map fun c => (pairs.lookup c).getD c) }
  | .append text => on { r with later := r.later ++ [.text text] }
  | .insert text => on (r.print text)
  | .change text =>
    let among := (r.stages[i]?).any fun
      | .among _ => true
      | _ => false
    let negated := (r.script.steps[i]?).any (·.guard.negated)
    return (.deleted, if among ∧ !negated then r else r.print text)
  | .jump label => return (.step (r.target label), r)
  | .jumpIfChanged label =>
    if r.changed then return (.step (r.target label), { r with changed := false }) else on r
  | .jumpUnlessChanged label =>
    if r.changed then on { r with changed := false } else return (.step (r.target label), r)
  | .delete => return (.deleted, r)
  | .deleteLine =>
    match r.firstLine.2 with
    | some rest => return (.again, { r with pattern := rest })
    | none => return (.deleted, r)
  | .print => on (r.printLine r.pattern)
  | .printLine =>
    on { r with out := r.out.addLine stop r.firstLine.1 true }
  | .next =>
    if ← r.isDone then return (if r.options.posix then .deleted else .ended, r)
    let r := if silent then r else r.printLine r.pattern
    match ← r.readNext false with
    | (true, r) => on r
    | (false, r) => return (.deleted, r)
  | .nextAppended =>
    if ← r.isDone then return (if r.options.posix then .deleted else .ended, r)
    match ← r.readNext true with
    | (true, r) => on r
    | (false, r) => return (.ended, r)
  | .hold => on { r with held := r.pattern, heldEnded := r.ended }
  | .holdAppended => on { r with held := r.held.push stop ++ r.pattern, heldEnded := r.ended }
  | .get => on { r with pattern := r.held, ended := r.heldEnded }
  | .getAppended => on { r with pattern := r.pattern.push stop ++ r.held, ended := r.heldEnded }
  | .exchange =>
    on { r with pattern := r.held, ended := r.heldEnded, held := r.pattern, heldEnded := r.ended }
  | .number => on (r.print (toString r.number ++ "\n"))
  | .fileName => on (r.print (r.current ++ "\n"))
  | .clear => on { r with pattern := "" }
  | .list width =>
    on (r.print (listed (width.getD r.options.width) r.pattern))
  | .quit status silently =>
    if silently then return (.quit status, r)
    let r := if silent then r else r.printLine r.pattern
    return (.quit status, (← r.release).print "")
  | .readFile name => on { r with later := r.later ++ [.file name] }
  | .readLine name =>
    let lines ← match r.read.lookup name with
      | some lines => pure lines
      | none => do
        match ← contents (if name = "/dev/stdin" then "-" else name) with
        | .ok text => pure (endedLines stop text)
        | .error _ => pure []
    let others := r.read.filter (·.1 ≠ name)
    match lines with
    | [] => on { r with read := (name, []) :: others }
    | (line, _) :: rest =>
      on { r with read := (name, rest) :: others, later := r.later ++ [.text (line ++ "\n")] }
  | .writeFile name => on (r.intoFile name fun s => s.addLine stop r.pattern r.ended)
  | .writeLine name => on (r.intoFile name fun s => s.addLine stop r.firstLine.1 true)
  | .evaluate command =>
    if command = "" then
      let out ← commandOutput r.pattern
      on { r with pattern := if out.endsWith "\n" then (out.dropEnd 1).toString else out, ended := true }
    else on (r.print (← commandOutput command))

/-- Goes through the steps from one on. The first argument bounds the steps. -/
def Run.steps (silent : Bool) : Nat → (i : Nat) → Run → Work (Onward × Run)
  | 0, _, r => return (.ended, r)
  | fuel + 1, i, r => do
    match r.script.steps[i]? with
    | none => return (.ended, r)
    | some step =>
      let (applies, r) ← r.applies i step.guard
      let (onward, r) ← match applies, step.action with
        | false, .group finish => pure (.step finish, r)
        | false, _ => pure (.step (i + 1), r)
        | true, a => r.perform i a silent
      match onward with
      | .step i => steps silent fuel i r
      | other => return (other, r)

/-- How many steps a cycle can take, and how many cycles there can be. -/
def stepLimit : Nat := 1000000

/-- Runs the script on lines as long as there are any. The flag says that the text of the last cycle
is taken again. -/
def Run.cycles (silent : Bool) : Nat → (again : Bool) → Run → Work (Nat × Run)
  | 0, _, r => return (0, r)
  | fuel + 1, again, r => do
    let (found, r) ← if again then (true, ·) <$> r.release else r.readNext false
    if !found then return (0, r)
    else
      let (onward, r) ← r.steps silent stepLimit 0
      match onward with
      | .quit status =>
        if !r.lines.isEmpty then satisfied
        return (status, r)
      | .deleted => cycles silent fuel false (← r.release)
      | .again => cycles silent fuel true r
      | .step _ | .ended =>
        let r := if silent then r else r.printLine r.pattern
        cycles silent fuel false (← r.release)

/-- The files that a script writes. -/
def Script.written (s : Script) : List String :=
  (s.steps.toList.filterMap fun step => match step.action with
    | .writeFile name | .writeLine name => some name
    | .substitute { file, .. } => file
    | _ => none).eraseDups

/-- Runs a script over files. -/
def Script.run (s : Script) (o : Options) (files : List String) : Work Unit := do
  let special := ["/dev/stdout", "/dev/stderr"]
  let names := s.written.filter (!special.contains ·)
  for name in names do
    if let some e := ← store name "" then fail ("couldn't open file " ++ name ++ ": " ++ e.message) 4
  let start : Run :=
    { options := o, script := s, files, stages := Array.replicate s.steps.size .before
      written := names.map (·, {}) }
  let (status, r) ← start.cycles (o.silent || s.silent) stepLimit false
  let r ← r.release
  let r ← r.closeFile
  if o.inPlace.isNone then say r.out.text
  for (name, sink) in r.written do
    if name = "/dev/stderr" then (← process).err sink.text
    else discard (store name sink.text)
  setStatus (if status ≠ 0 then UInt8.ofNat status else r.status)

/-! ### Calls -/

/-- Reads the parts of a script, each from an argument or a file. -/
def readScript (m : Manner) (parts : List (Bool × String)) : Work Script := do
  let mut draft : Draft := {}
  let mut number : Nat := 0
  let mut last := ""
  for (isFile, given) in parts do
    let text ← if !isFile then pure given
      else match ← contents given with
        | .ok text => pure text
        | .error e => fail ("couldn't open file " ++ given ++ ": " ++ e.message) 4
    number := if isFile then number else number + 1
    let n := number
    let lines (before : List Char) : String := toString ((before.filter (· = '\n')).length + 1)
    let place (before : List Char) (count : Nat) : String :=
      if isFile then "file " ++ given ++ " line " ++ lines before ++ ": "
      else "-e expression #" ++ toString n ++ ", char " ++ toString count ++ ": "
    let cs := text.toList
    match (commands m (place · 0) cs (cs.length + 1) draft).run { rest := cs } with
    | .ok (d, _) => draft := d
    | .error (f, count) => fail (place (cs.take (count - 1)) count ++ f.message)
    last := place (if text.endsWith "\n" then cs.dropLast else cs) 0
  if let (_, opening) :: _ := draft.groups then fail (opening ++ Flaw.unmatchedOpening.message)
  match draft.finished with
  | .ok s => return { s with place := last }
  | .error f => fail f.message (if f matches .noLabel _ then 4 else 1)

def usage : String :=
  "Usage: sed [OPTION]... \x7bscript-only-if-no-other-script\x7d [input-file]...\n\n" ++
  "  -n, --quiet, --silent\n                 suppress automatic printing of pattern space\n" ++
  "      --debug\n                 annotate program execution\n" ++
  "  -e script, --expression=script\n                 add the script to the commands to be executed\n" ++
  "  -f script-file, --file=script-file\n" ++
  "                 add the contents of script-file to the commands to be executed\n" ++
  "  --follow-symlinks\n                 follow symlinks when processing in place\n" ++
  "  -i[SUFFIX], --in-place[=SUFFIX]\n" ++
  "                 edit files in place (makes backup if SUFFIX supplied)\n" ++
  "  -l N, --line-length=N\n" ++
  "                 specify the desired line-wrap length for the \x60l' command\n" ++
  "  --posix\n                 disable all GNU extensions.\n" ++
  "  -E, -r, --regexp-extended\n                 use extended regular expressions in the script\n" ++
  "                 (for portability use POSIX -E).\n" ++
  "  -s, --separate\n                 consider files as separate rather than as a single,\n" ++
  "                 continuous long stream.\n" ++
  "      --sandbox\n                 operate in sandbox mode (disable e/r/w commands).\n" ++
  "  -u, --unbuffered\n                 load minimal amounts of data from the input files and flush\n" ++
  "                 the output buffers more often\n" ++
  "  -z, --null-data\n                 separate lines by NUL characters\n" ++
  "      --help     display this help and exit\n" ++
  "      --version  output version information and exit\n\n" ++
  "If no -e, --expression, -f, or --file option is given, then the first\n" ++
  "non-option argument is taken as the sed script to interpret.  All\n" ++
  "remaining arguments are names of input files; if no input files are\n" ++
  "specified, then the standard input is read.\n\n"

/-- Edits the lines of files. -/
def edit : Work Unit := do
  modify fun g => { g with lostStatus := 4 }
  let p ← process
  let rules : List OptionRule :=
    [flag "n" "quiet", flag "n" "silent", flag "" "debug", valued "e" "expression", valued "f" "file",
      flag "" "follow-symlinks", perhaps "i" "in-place", valued "l" "line-length", flag "" "posix",
      flag "E" "regexp-extended", flag "r", flag "s" "separate", flag "" "sandbox", flag "u" "unbuffered",
      flag "z" "null-data"]
  let strict ← isStrict
  let g ← match ({ rules, inOrder := strict } : OptionTable).read p.args with
    | .ok g => pure g
    | .error f => do
      warn f.message
      p.err usage
      leave 1
  if g.hasAny ["help", "version"] then leave 0
  let given := g.options.filterMap fun (name, text) =>
    if name = "e" then some (false, text) else if name = "f" then some (true, text) else none
  let (parts, files) ← match given, g.operands with
    | [], script :: files => pure ([(false, script)], files)
    | [], [] => do
      p.err usage
      leave 1
    | given, files => pure (given, files)
  let wide ← isWide
  let s ← readScript { extended := g.hasAny ["E", "r"], wide } parts
  s.run
    { silent := g.has "n", separate := g.hasAny ["s", "i"], inPlace := g.last? "i", stop := lineStop (g.has "z")
      width := ((g.last? "l").bind String.toNat?).getD 70, wide, posix := strict || g.has "posix" }
    (if files.isEmpty then ["-"] else files)

end ScriptSearch.Host.Editor
