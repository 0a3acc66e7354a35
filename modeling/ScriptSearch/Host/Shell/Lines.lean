import ScriptSearch.Host.Shell.Evaluate
import ScriptSearch.Host.Shell.Flaws

/-! Running scripts. A script is read and run a line at a time, so that what a line does can decide
how the next one is read. A flaw ends the script; the large shell goes on behind some of them. -/

namespace ScriptSearch.Host.Shell.Act

/-! ### Prompts -/

/-- Writes what asks for the next line. -/
def prompt (r : Runner) (name : String) : Act Unit := do
  err (← expandPrompt (scriptsOf r) ((← value? name).getD ""))

/-- How often the plain shell does not take the end of its script for an order to end. -/
def endLimit : Nat := 50

/-- What the plain shell says at the end of its script. -/
def sayEnd (r : Runner) (prompts : Bool) : Act Unit := do
  if ← isOn .ignoreEnd then
    for _ in List.range endLimit do
      err "\nUse \"exit\" to leave shell.\n"
      if prompts then prompt r "PS1"
  else if prompts then err "\n"

/-! ### Flaws -/

/-- A line of a text that begins on another line. -/
def lineOf (text : String) (first line : Nat) : String :=
  String.ofList ((Text.splitChars '\n' text.toList).getD (line - first) [])

/-- What stands in front of messages about how a script is written. -/
def originHeading (origin : Option String) : Act String := do
  let s ← get
  let origin := match origin with
    | some origin => origin ++ ": "
    | none => if s.setting.inline ∧ s.files = 0 then "-c: " else ""
  return s.label.getD s.setting.name ++ ": " ++ origin

/-- Gives a message about a flaw in a script. -/
def tellFlaw (origin : Option String) (text : String) (first : Nat) (e : ReadError) : Act Unit := do
  let s ← get
  match s.setting.dialect with
  | .plain =>
    modify fun s => { s with line := e.line }
    complain ("Syntax error: " ++ e.flaw.plainMessage)
  | .bash =>
    let (message, shows) := e.flaw.largeMessage
    let line := match e.flaw with
      | .unclosed mark line => if mark = "(" then e.line else line
      | _ => e.line
    let heading := (← originHeading origin) ++ "line " ++ toString line ++ ": "
    if message ≠ "" then err (heading ++ message ++ "\n")
    if s.switches.contains .exitOnError ∧ s.tested = 0 then throw .exit
    if shows then err (heading ++ "\x60" ++ lineOf text first line ++ "'\n")
    if let .loopHead _ source := e.flaw then
      err (heading ++ "syntax error: \x60" ++ source ++ "'\n")

/-- What is read next behind a flaw that only costs its line. -/
def behindFlaw? (e : ReadError) (after : Cursor) : Option Cursor :=
  match e.flaw with
  | .element _ | .unclosedList => some { rest := (after.rest.dropWhile (· ≠ '\n')).drop 1, line := after.line + 1 }
  | _ => none

/-- Warns of texts to read that end with the script, or with a script in a word. -/
def warnUnended (after : Cursor) : Act Unit := do
  let s ← get
  if s.setting.dialect = .bash then
    let name := s.label.getD s.setting.name
    for (line, count) in after.borrowed do
      err (name ++ ": line " ++ toString line ++ ": warning: command substitution: " ++
        toString count ++ " unterminated here-document" ++ (if count = 1 then "" else "s") ++ "\n")
    for (line, finish) in after.unended do
      err (name ++ ": line " ++ toString (after.line - 1) ++
        ": warning: here-document at line " ++ toString line ++
        " delimited by end-of-file (wanted \x60" ++ finish ++ "')\n")

/-! ### Lines -/

/-- Where a script comes from, and what is shown of it while it is read. -/
structure Source where
  origin : Option String
  text : String
  /-- The line that the text begins on. -/
  first : Nat
  /-- Whether this is the script that the shell was called with, from a file. -/
  own : Bool
  /-- Whether lines are asked for. -/
  prompts : Bool

/-- Asks for every further line of what has been read. -/
def askMore (r : Runner) (source : Source) (lines : String) : Act Unit := do
  if source.prompts then
    for _ in List.range (lines.toList.count '\n') do prompt r "PS2"

/-- Shows what has been read, if it is to be shown. -/
def echoLine (source : Source) (before after : Cursor) : Act Unit := do
  let s ← get
  let inline := s.setting.inline && s.files = 0
  let shows : Bool := match s.setting.dialect, source.origin with
    | .plain, origin => origin.isNone && !inline
    | .bash, origin => !([some "command substitution", some "process substitution"] : List (Option String)).contains origin
  if s.switches.contains .echoLines ∧ shows then
    err (Reader.between before after)

/-- What is done behind a line that was given up; the flag says whether the script ends. A copy of
the large shell does not go on. -/
def givenUp (r : Runner) (source : Source) : Act Bool := do
  match ← dialect with
  | .bash =>
    if (← get).depth ≠ 0 then throw .exit
    return false
  | .plain =>
    if !source.prompts then throw .abandon
    prompt r "PS1"
    sayEnd r source.prompts
    return true

/-- Runs a statement that makes up a line: the place to read the next line from, if the script goes on
there. The large shell counts on from the line that the last command has left it on. -/
def runLine (r : Runner) (source : Source) (statement : Statement) (next : Cursor) :
    Act (Option Cursor) := do
  let large := (← dialect) = .bash
  let counted : Act Cursor := do
    let line := (← get).line + 1
    return if large then { next with line } else next
  try
    if large then modify fun s => { s with line := next.line - 1 }
    if next.rest.any fun c => !isBlank c && c ≠ '\n' then modify fun s => { s with final := false }
    r.statement statement
    let ends := source.own && large && (← isOn .oneCommand)
    if ends then return none else some <$> counted
  catch
    | .abandon => if ← givenUp r source then return none else some <$> counted
    | .abandonAll =>
      if !source.own then throw .abandonAll
      if ← givenUp r source then return none else some <$> counted
    | j => throw j

/-- What is done about a flaw that ends a script. -/
def endAtFlaw (r : Runner) (source : Source) (e : ReadError) : Act Unit := do
  let s ← get
  let d := s.setting.dialect
  let unclosed := match e.flaw with
    | .unclosed mark _ => mark ≠ "("
    | _ => false
  let keeps := e.flaw.endsQuietly || (source.own && d = .bash && unclosed && s.status ≠ 0)
  if !keeps then setStatus 2
  tellFlaw source.origin source.text source.first e
  if e.flaw.endsQuietly then throw .exit
  if source.prompts then
    prompt r "PS1"
    sayEnd r source.prompts
  else if d = .plain then throw .abandon

/-- The place to read the next line from, with the names of commands that stand for a text and the
ways of writing that are in force now. -/
def readied (cursor : Cursor) : Act Cursor := do
  let s ← get
  let expands := s.setting.dialect = .plain || s.hasFurther "expand_aliases" ||
    s.switches.contains .posix
  let extended ← isFurtherOn "extglob"
  return { cursor with
    aliases := if expands then s.aliases else [], extended, unended := [], borrowed := [] }

/-- Keeps what has been read of the script, if it is to be kept. -/
def recordLines (source : Source) (lines : String) : Act Unit := do
  if source.own ∧ (← isOn (.idle "history")) then
    let controls := Text.split ':' ((← value? "HISTCONTROL").getD "")
    modify fun s => { s with history := s.history.record controls lines }

/-- Reads and runs the lines of a script. The first argument bounds the steps. -/
def runLines (r : Runner) (source : Source) : Nat → Cursor → Act Unit
  | 0, _ => pure ()
  | steps + 1, cursor => do
    let d ← dialect
    if source.prompts then prompt r "PS1"
    match EStateM.run (Reader.line (← ground)) (← readied cursor) with
    | .error e after =>
      echoLine source cursor after
      askMore r source (Reader.between cursor after)
      warnUnended after
      match if d = .bash then behindFlaw? e after else none with
      | none => endAtFlaw r source e
      | some next =>
        setStatus 1
        tellFlaw source.origin source.text source.first e
        runLines r source steps next
    | .ok statement? after =>
      echoLine source cursor after
      modify fun s => { s with reached := after.line }
      warnUnended after
      match statement? with
      | none => if source.own ∧ d = .plain then sayEnd r source.prompts
      | some statement =>
        let lines := Reader.between cursor after
        recordLines source lines
        askMore r source
          (if lines.toList.getLast? = some '\n' then String.ofList lines.toList.dropLast else lines)
        let next? ← runLine r source statement after
        if source.own then modify fun s => { s with count := s.count + 1 }
        if let some next := next? then runLines r source steps next

/-- Runs a text as a script. The large shell gives it an end of a line; a backslash at the end
of a text that is not a file counts as itself. -/
def runText (r : Runner) (origin : Option String) (line : Nat) (text : String) : Act Unit := do
  let cs := text.toList.filter (· ≠ '\x00')
  let s ← get
  let isFile := origin.isNone ∧ (!s.setting.inline ∨ s.files ≠ 0)
  let ending :=
    if s.setting.dialect = .plain ∨ cs.isEmpty ∨ cs.getLast? = some '\n' then []
    else if cs.getLast? = some '\\' ∧ !isFile then ['\\', '\n']
    else ['\n']
  let cs := cs ++ ending
  let own := origin.isNone && s.files == 0 && !s.setting.inline
  let prompts := own && s.setting.dialect = .plain && s.switches.contains .interactive
  let source : Source := { origin, text := String.ofList cs, first := line, own, prompts }
  always (modify fun now => { now with errorLine := s.errorLine })
    (runLines r source (cs.length + 1) { rest := cs, line })

/-- A runner that goes as many levels deep. -/
def runner : Nat → Runner
  | 0 => ⟨fun _ => throw .exit, fun _ _ _ => throw .exit, fun _ _ _ => throw .exit⟩
  | depth + 1 =>
    { statement := fun s => evaluate (runner depth) s
      script := fun origin line text => runText (runner depth) origin line text
      command := fun functions name args => invoke (runner depth) functions name args }

/-- How deep statements stand in statements. -/
def depthLimit : Nat := 20000

end ScriptSearch.Host.Shell.Act
