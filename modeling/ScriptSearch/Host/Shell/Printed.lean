import ScriptSearch.Host.Shell.Script

/-! Statements written out as a script, the way the large shell shows them. Lines are indented
by the depth of the statements around them; within a function every statement has a line of its
own. Texts to read stand behind the line that asks for them. -/

namespace ScriptSearch.Host.Shell.Printed

/-- A script as far as it has been written. -/
structure Page where
  text : String := ""
  indentation : Nat := 0
  /-- By how much the lines of an inner statement are indented. -/
  step : Nat := 4
  /-- How many times the indentation is to be left out. -/
  skips : Nat := 0
  /-- How many functions the statement is in. -/
  functions : Nat := 0
  /-- Texts to read that are still to be written. -/
  owed : List Redirection := []
  /-- Whether a text to read has just been written. -/
  behindText : Bool := false
  /-- Whether the script stands for its output. -/
  inner : Bool := false
  /-- How many connections the statement is in. -/
  connections : Nat := 0

abbrev Printer := StateM Page

def put (s : String) : Printer Unit := modify fun p => { p with text := p.text ++ s }

def indent : Printer Unit := do put ("".pushn ' ' (← get).indentation)

/-- Begins a line. -/
def newline (s : String) : Printer Unit := do
  put "\n"
  indent
  put s

/-- A semicolon, unless one is not needed. -/
def semicolon : Printer Unit := do
  match (← get).text.toList.getLast? with
  | some '&' | some '\n' => pure ()
  | _ => put ";"

def skipping : Printer Unit := modify fun p => { p with skips := p.skips + 1 }

/-- Writes something with its lines further in. -/
def within (a : Printer Unit) : Printer Unit := do
  modify fun p => { p with indentation := p.indentation + p.step }
  a
  modify fun p => { p with indentation := p.indentation - p.step }

def wordList (separator : String) (ws : List Word) : Printer Unit :=
  put (String.intercalate separator (ws.map (·.source)))

/-! ### Redirections -/

/-- The descriptor in front of a redirection, unless it is the usual one. -/
def descriptor (usual : Option Nat) : Descriptor → String
  | .standard => ""
  | .number n => if some n = usual then "" else toString n
  | .variable name => "\x7b" ++ name ++ "\x7d"

def isNumber (s : String) : Bool := s != "" && s.toList.all Char.isDigit

/-- A redirection of a descriptor to a copy of another. -/
def copied (toOutput : Bool) (d : Descriptor) (target : String) : String :=
  let standard := if toOutput then "1" else "0"
  let front := match d with
    | .standard => standard
    | .number n => toString n
    | .variable name => "\x7b" ++ name ++ "\x7d"
  front ++ (if toOutput || target == "-" then ">&" else "<&") ++ target

def singleQuoted (s : String) : String :=
  "'" ++ String.join (s.toList.map fun c => if c = '\'' then "'\\''" else String.ofList [c]) ++ "'"

def redirection (r : Redirection) : String :=
  let target := r.target.source
  match r.action with
  | .input => descriptor (some 0) r.descriptor ++ "< " ++ target
  | .output overwrite =>
    descriptor (some 1) r.descriptor ++ (if overwrite then ">| " else "> ") ++ target
  | .append => descriptor (some 1) r.descriptor ++ ">> " ++ target
  | .inputOutput => descriptor (some 0) r.descriptor ++ "<> " ++ target
  | .copy toOutput => copied toOutput r.descriptor target
  | .text => descriptor (some 0) r.descriptor ++ "<<< " ++ target
  | .both append => (if append then "&>> " else "&> ") ++ target
  | .document _ tabs quoted mark =>
    descriptor (some 0) r.descriptor ++ "<<" ++ (if tabs then "-" else "") ++
      if quoted then singleQuoted mark else mark

/-- The texts to read, each with the line that ends it. -/
def documents (rs : List Redirection) : Printer Unit := do
  put "\n"
  for r in rs do
    if let .document _ _ _ mark := r.action then put (r.target.source ++ mark ++ "\n")
  modify fun p => { p with behindText := true }

/-- Writes the texts that are owed, with what is to stand on the line before them. -/
def settle (between : String) : Printer Unit := do
  let owed := (← get).owed
  if !owed.isEmpty then
    put between
    documents owed
    modify fun p => { p with owed := [] }
    if between ≠ "" ∧ between ≠ ";" then put ""

def isDocument (r : Redirection) : Bool := r.action matches .document _ _ _ _

def redirections (rs : List Redirection) : Printer Unit := do
  modify fun p => { p with behindText := false }
  put (String.intercalate " " (rs.map redirection))
  let owed := rs.filter isDocument
  if !owed.isEmpty then
    if (← get).connections ≠ 0 then modify fun p => { p with owed }
    else documents owed

/-- What stands between two statements. -/
def joint (mark : String) : Printer Unit := do
  if (← get).owed.isEmpty then put mark else settle mark

/-! ### Statements -/

/-- A test between double brackets. -/
def condition : Condition → String
  | .unary op w => op ++ " " ++ w.source
  | .single w => "-n " ++ w.source
  | .binary op a b => a.source ++ " " ++ op ++ " " ++ b.source
  | .negation c => "! " ++ condition c
  | .both a b => condition a ++ " && " ++ condition b
  | .either a b => condition a ++ " || " ++ condition b
  | .enclosed c => "( " ++ condition c ++ " )"

def connected (a : Printer Unit) : Printer Unit := do
  modify fun p => { p with connections := p.connections + 1 }
  a
  modify fun p => { p with connections := p.connections - 1 }

/-- The statements of a loop. -/
def looped (body : Printer Unit) : Printer Unit := do
  newline "do\n"
  within do
    body
    settle ""
  semicolon
  newline "done"

/-- The words of a loop behind its variable. -/
def loopWords : Option (List Word) → Printer Unit
  | some ws => wordList " " ws
  | none => put "\"$@\""

mutual

def statement (s : Statement) : Printer Unit := do
  if (← get).skips ≠ 0 then modify fun p => { p with skips := p.skips - 1 } else indent
  bare s

/-- A statement without the indentation in front. -/
def bare : Statement → Printer Unit
  | .nothing => pure ()
  | .simple _ assignments words rs => do
    let settings := assignments.map fun a =>
      a.name ++ ((a.subscript.map fun s => "[" ++ s.1 ++ "]").getD "") ++
        (if a.append then "+=" else "=") ++ a.source
    put (String.intercalate " " (settings ++ words.map (·.source)))
    if !rs.isEmpty then
      if !(settings.isEmpty && words.isEmpty) then put " "
      redirections rs
  | .pipeline negated ss => do
    if negated then put "! "
    stages ss
  | .timed standard s => do
    put (if standard then "time -p " else "time ")
    bare s
  | .chain onSuccess a b => connected do
    skipping
    statement a
    joint (if onSuccess then " && " else " || ")
    skipping
    statement b
  | .sequence _ a .nothing => do
    skipping
    statement a
  | .sequence lineEnd a b => connected do
    skipping
    statement a
    match a with
    | .background _ =>
      put " "
      skipping
      statement b
    | _ =>
      let p ← get
      let mark := if p.inner && lineEnd then "\n" else ";"
      if p.owed.isEmpty then
        if p.behindText then modify fun p => { p with behindText := false } else put mark
      else settle (if p.functions ≠ 0 then "" else ";")
      if p.functions ≠ 0 then put "\n"
      else
        if mark = ";" then put " "
        skipping
      statement b
  | .background s => do
    connected do
      skipping
      statement s
      joint " &"
  | .subshell _ s => do
    put "( "
    skipping
    statement s
    settle ""
    put " )"
  | .group s => group s
  | .redirected _ s rs => do
    bare s
    put " "
    redirections rs
  | .branch c s otherwise => do
    put "if "
    skipping
    statement c
    semicolon
    put " then\n"
    within do
      statement s
      settle ""
    match otherwise with
    | some o =>
      semicolon
      newline "else\n"
      within do
        statement o
        settle ""
    | none => pure ()
    semicolon
    newline "fi"
  | .repetition untilSuccess c s => do
    put (if untilSuccess then "until " else "while ")
    skipping
    statement c
    settle ""
    semicolon
    put " do\n"
    within do
      statement s
      settle ""
    semicolon
    newline "done"
  | .each _ name words s => do
    put ("for " ++ name ++ " in ")
    loopWords words
    put ";"
    looped (statement s)
  | .selection _ name words s => do
    put ("select " ++ name ++ " in ")
    loopWords words
    put ";"
    looped (statement s)
  | .counted _ a b c s => do
    put ("for ((" ++ a.source ++ "; " ++ b.source ++ "; " ++ c.source ++ "))")
    looped (statement s)
  | .choice _ w cs => do
    put ("case " ++ w.source ++ " in ")
    within (arms cs)
    newline "esac"
  | .definition _ name s => definition name s
  | .condition _ c => put ("[[ " ++ condition c ++ " ]]")
  | .calculation _ e => put ("((" ++ e.source ++ "))")
  | .companion _ name s => do
    put ("coproc " ++ name ++ " ")
    skipping
    statement s

def stages : List Statement → Printer Unit
  | [] => pure ()
  | [s] => do
    skipping
    statement s
  | s :: rest => do
    connected do
      skipping
      statement s
      joint " | "
    stages rest

def group (s : Statement) : Printer Unit := do
  put "\x7b "
  if (← get).functions = 0 then
    skipping
    statement s
    settle ""
    semicolon
    put " "
  else
    put "\n"
    within do
      statement s
      settle ""
    put "\n"
    indent
  put "\x7d"

def arms : List (List Word × Statement × After) → Printer Unit
  | [] => pure ()
  | (patterns, s, after) :: rest => do
    newline ""
    wordList " | " patterns
    put ")\n"
    within do
      statement s
    settle ""
    newline (match after with
      | .done => ";;"
      | .next => ";&"
      | .matching => ";;&")
    arms rest

/-- The lines of a function between braces, with the redirections of its body behind them. -/
def definition (name : String) : Statement → Printer Unit
  | .redirected _ (.group s) rs => do
    heading name
    lines s
    newline "\x7d "
    redirections rs
  | .group s => do
    heading name
    lines s
    newline "\x7d"
  | s => do
    heading name
    lines s
    newline "\x7d"
where
  heading (name : String) : Printer Unit := do
    put ("function " ++ name ++ " () \n")
    indent
    put "\x7b \n"
  lines (s : Statement) : Printer Unit := do
    modify fun p => { p with functions := p.functions + 1 }
    within do
      statement s
      settle ""
    modify fun p => { p with functions := p.functions - 1 }

end

/-- The script of a statement that stands for its output. -/
def substitution (s : Statement) : String :=
  let text := ((do statement s; settle "" : Printer Unit).run { inner := true }).2.text
  if text.startsWith "(" then " " ++ text else text

/-- A function as it is shown, with its name in front. -/
def function (name : String) (multiline : Bool) (body : Statement) : String :=
  let page : Page := { functions := 1, indentation := if multiline then 4 else 1
                       step := if multiline then 4 else 0 }
  let (inner, rs) : Statement × List Redirection := match body with
    | .redirected _ (.group s) rs => (s, rs)
    | .group s => (s, [])
    | s => (s, [])
  let written : Printer Unit := do
    statement inner
    settle ""
    modify fun p => { p with indentation := 0, step := 4, functions := 0 }
    newline (if rs.isEmpty then "\x7d" else "\x7d ")
    if !rs.isEmpty then redirections rs
  let text := (written.run page).2.text
  (if name = "" then "" else name ++ " ") ++
    (if multiline then "() \n\x7b \n" else "() \x7b ") ++ text

/-- A command as it is shown while it is run. -/
def command (s : Statement) : String :=
  ((do statement s; settle "" : Printer Unit).run {}).2.text

end ScriptSearch.Host.Shell.Printed
