import ScriptSearch.Host.Shell.Builtin.Variables
import ScriptSearch.Host.Shell.Lookup

/-! Commands of the large shell that list what names there are, and that turn its own commands on
and off. -/

namespace ScriptSearch.Host.Shell.Builtin

open Act

/-- Keywords in the order in which they are listed. -/
def listedKeywords : List String :=
  ["if", "then", "else", "elif", "fi", "case", "esac", "for", "select", "while", "until", "do",
    "done", "in", "function", "time", "\x7b", "\x7d", "!", "[[", "]]", "coproc"]

def sorted (names : List String) : List String := names.mergeSort fun a b => decide (a ≤ b)

/-- The names of files that begin with a word. -/
def filesFrom (word : String) (onlyDirectories : Bool) : Act (List String) := do
  let s ← get
  let last := (FileTree.names word).getLastD ""
  let front := (word.take (word.length - last.length)).toString
  match s.machine.tree.directory s.here (if front = "" then "." else front) with
  | .ok ⟨location, 0⟩ =>
    let names := (s.machine.tree.children location).filter fun n =>
      !onlyDirectories || s.machine.tree.leadsToDirectory s.here (front ++ n)
    return (sorted names).map (front ++ ·)
  | _ => return []

/-- The names of a kind. -/
def namesOf? (kind word : String) : Act (List String) := do
  let s ← get
  let bound := s.bindings.filter fun b => b.2.content.isSet
  let directories := Text.split ':' ((← value? "PATH").getD "")
  match kind with
  | "alias" => return sorted (s.aliases.map (·.1))
  | "builtin" | "helptopic" => return builtins .bash
  | "enabled" => return (builtins .bash).filter (!s.disabled.contains ·)
  | "disabled" => return (builtins .bash).filter s.disabled.contains
  | "keyword" => return listedKeywords
  | "function" => return (← sortedFunctions).map (·.1)
  | "variable" => return sorted (bound.map (·.1))
  | "export" => return sorted ((bound.filter (·.2.exported)).map (·.1))
  | "arrayvar" => return sorted ((bound.filter fun b => !b.2.content.isText).map (·.1))
  | "setopt" => return (Switch.named .bash).map (·.1)
  | "shopt" => return Switch.further.map (·.1)
  | "signal" => return (Signal.names true).map fun row => "SIG" ++ row.1
  | "file" => filesFrom word false
  | "directory" => filesFrom word true
  | "command" =>
    let programs := directories.flatMap fun directory =>
      match s.machine.tree.directory s.here directory with
      | .ok ⟨location, 0⟩ => sorted ((s.machine.tree.children location).filter fun n =>
          s.machine.tree.isProgram s.here (directory ++ "/" ++ n))
      | _ => []
    return sorted (s.aliases.map (·.1)) ++ listedKeywords ++ (← sortedFunctions).map (·.1) ++
      builtins .bash ++ programs
  | _ => return []

/-- The words of a list that is expanded. -/
def wordsOfList (list : String) : Act (List String) := do
  let separators ← separators
  let c : Cursor := { rest := list.toList, fresh := false }
  let ground ← ground
  let rec go : Nat → Cursor → Act (List String)
    | 0, _ => return []
    | steps + 1, c => do
      let c := { c with rest := c.rest.dropWhile separators.contains }
      if c.rest.isEmpty then return []
      match EStateM.run (Reader.word ground .bare) { c with left := c.rest.length } with
      | .error _ _ => return []
      | .ok w after =>
        let rest := if after.rest.length < c.rest.length then after.rest else c.rest.drop 1
        return (← fieldsOfWord Scripts.none w.pieces) ++ (← go steps { after with rest })
  go (c.rest.length + 1) c

/-- The kinds of names that options ask for. -/
def kindsOf (g : Given) : List String :=
  (g.letters.filterMap fun c => Specification.kindLetters.lookup c) ++
    (g.valued.filter (·.1 = 'A')).map (·.2)

/-- Takes options about words that complete others. -/
def completionOptions (command letters : String) (args : List String) (next : Given → Act Nat) : Act Nat :=
  options command (String.ofList (Specification.kindLetters.map (·.1)) ++ letters) "oAGWFCXPS" args fun g => do
    let names := (g.valued.filter (·.1 = 'o')).map (·.2)
    if let some kind := (kindsOf g).find? fun kind => !Specification.isKind kind then
      refuse command (kind ++ ": invalid action name") 2
    else if let some name := names.find? fun name => !Specification.optionNames.contains name then
      refuse command (name ++ ": invalid option name") 2
    else if let some name := (g.valued.lookup 'F').filter fun name =>
        name.toList.any " \t\n;&|<>()".toList.contains then
      refuse command ("\x60" ++ name ++ "': not a valid identifier") 2
    else next g

/-- Lists names of kinds, or words, that begin with a word. -/
def compgen (args : List String) : Act Nat := do
  completionOptions "compgen" "" args fun g => do
    let kinds := kindsOf g
    let word := g.rest.headD ""
    let named ← kinds.mapM fun kind => namesOf? kind word
    let listed ← match g.valued.lookup 'W' with
      | some list => wordsOfList list
      | none => pure []
    let all := (named.flatten ++ listed).filter (·.startsWith word)
    let rule ← patternRule false
    let kept := match g.valued.lookup 'X' with
      | some filter =>
        let (negated, text) := match filter.toList with
          | '!' :: cs => (true, String.ofList cs)
          | _ => (false, filter)
        let p := Pattern.ofGlyphs rule (glyphs false text)
        all.filter fun name => p.accepts name == negated
      | none => all
    let front := (g.valued.lookup 'P').getD ""
    let behind := (g.valued.lookup 'S').getD ""
    for name in kept do out (front ++ name ++ behind ++ "\n")
    return if kept.isEmpty then 1 else 0

/-- What is said about a name in messages and lists. -/
def shownName (name : String) : String :=
  match Specification.places.find? (·.2 = name) with
  | some (letter, _) => "-" ++ String.singleton letter
  | none =>
    if name = "" ∨ name.toList.any fun c => !(c.isAlphanum || "-_./+,:@%=".toList.contains c) then
      singleQuoted .bash name
    else name

def showSpecification (name : String) (s : Specification) : Act Unit :=
  out (String.intercalate " " ("complete" :: s.parts (singleQuoted .bash) ++ [shownName name]) ++ "\n")

/-- Does something for names that something has been said about; the status tells whether that is so
for all of them. -/
def eachSpecified (command : String) (names : List String) (act : String → Specification → Act Unit) :
    Act Nat := do
  let mut status := 0
  for name in names do
    match (((← get).completions).getD []).lookup name with
    | some s => act name s
    | none => status ← refuse command (name ++ ": no completion specification") 1
  return status

/-- How many rows the names stand in when all are shown. -/
def completionRows : Nat := 512

/-- Says how the arguments of commands can be completed, shows what has been said, or takes it away. -/
def complete (args : List String) : Act Nat := do
  completionOptions "complete" "prDEI" args fun g => do
    let place? := Specification.places.find? fun row => g.has row.1
    let names := match place? with
      | some (_, name) => [name]
      | none => g.rest
    if args.isEmpty ∨ (g.has 'p' ∧ names.isEmpty) then
      for (name, s) in inRows completionRows ((← get).completions.getD []) do showSpecification name s
      return 0
    else if g.has 'p' then eachSpecified "complete" names showSpecification
    else if g.has 'r' then
      if names.isEmpty then
        modify fun s => { s with completions := some [] }
        return 0
      else if (← get).completions.isNone then return 0
      else eachSpecified "complete" names fun name _ =>
        modify fun s => { s with completions := s.completions.map (·.filter (·.1 ≠ name)) }
    else if names.isEmpty then
      tellUsage "complete"
      return 2
    else
      let new : Specification :=
        { options := (g.valued.filter (·.1 = 'o')).map (·.2), kinds := kindsOf g, valued := g.valued.reverse }
      for name in names do
        modify fun s => { s with completions := some (Content.put name new (s.completions.getD [])) }
      return 0

/-- Changes options of what has been said about commands, or shows them. -/
def compopt (args : List String) : Act Nat := do
  let rec read (settings : List (String × Bool)) (places : List String) :
      List String → Act (List (String × Bool) × List String × Option Nat)
    | [] => return (settings, places, none)
    | arg :: rest => do
      let setting (on : Bool) : Act (List (String × Bool) × List String × Option Nat) := do
        match rest with
        | name :: rest =>
          if Specification.optionNames.contains name then read (settings ++ [(name, on)]) places rest
          else return ([], [], some (← refuse "compopt" (name ++ ": invalid option name") 2))
        | [] =>
          complain ("compopt: " ++ arg ++ ": option requires an argument")
          tellUsage "compopt"
          return ([], [], some 2)
      match arg.toList with
      | ['-', 'o'] => setting true
      | ['+', 'o'] => setting false
      | ['-', '-'] => return (settings, places ++ rest, none)
      | ['-', c] =>
        match Specification.places.lookup c with
        | some name => read settings (places ++ [name]) rest
        | none =>
          complain ("compopt: " ++ arg ++ ": invalid option")
          tellUsage "compopt"
          return ([], [], some 2)
      | _ => return (settings, if places.isEmpty then arg :: rest else places, none)
  match ← read [] [] args with
  | (_, _, some status) => return status
  | (_, [], _) => refuse "compopt" "not currently executing completion function" 1
  | (settings, names, none) =>
    eachSpecified "compopt" names fun name s => do
      if settings.isEmpty then
        out (String.intercalate " " ("compopt" :: s.shownOptions ++ [shownName name]) ++ "\n")
      else
        let new := settings.foldl (fun s (name, on) => s.withOption name on) s
        modify fun s => { s with completions := some (Content.put name new (s.completions.getD [])) }

/-- Turns commands of the shell on or off, or lists them. -/
def enable (args : List String) : Act Nat :=
  options "enable" "anps" "" args fun g => do
    let s ← get
    let off := s.disabled
    if g.rest.isEmpty ∨ g.has 'p' then
      for name in builtins .bash do
        let isOff := off.contains name
        let special := Reader.special.contains name || name = "source"
        if (g.has 'a' ∨ isOff = g.has 'n') ∧ (!g.has 's' ∨ special) then
          out ("enable " ++ (if isOff then "-n " else "") ++ name ++ "\n")
      return 0
    let mut status := 0
    for name in g.rest do
      if !(builtins .bash).contains name then
        status ← refuse "enable" (name ++ ": not a shell builtin") 1
      else
        modify fun s => { s with
          disabled := s.disabled.filter (· ≠ name) ++ if g.has 'n' then [name] else [] }
    return status

/-- Tells how commands of the shell are called. -/
def help (args : List String) : Act Nat :=
  options "help" "dms" "" args fun g => do
    let mut status := 0
    let isPattern (text : String) : Bool := text.toList.any "*?[".toList.contains
    if g.rest.any isPattern then
      out ("Shell commands matching keyword" ++ (if 1 < g.rest.length then "s" else "") ++ " \x60" ++
        String.intercalate ", " g.rest ++ "'\n\n")
    for name in g.rest do
      let p := Pattern.ofGlyphs { extended := true } (glyphs false name)
      let exact := Topic.all.filter fun t => t.name = name || p.accepts t.name
      match if exact.isEmpty then Topic.all.filter (·.name.startsWith name) else exact with
      | [] =>
        status ← refuse "help" ("no help topics match \x60" ++ name ++ "'.  Try \x60help help' or \x60man -k " ++
          name ++ "' or \x60info " ++ name ++ "'.") 1
      | found =>
        for t in found do
          if g.has 'd' then out (t.name ++ " - " ++ t.purpose ++ "\n")
          else if g.has 'm' then
            out ("NAME\n    " ++ t.name ++ " - " ++ t.purpose ++ "\n\nSYNOPSIS\n    " ++ t.usage ++ "\n\n")
          else
            out (t.name ++ ": " ++ t.usage ++ "\n")
            if !g.has 's' then out ("    " ++ t.purpose ++ "\n")
    return status

/-- Tells where a function has been called from. -/
def caller (args : List String) : Act Nat := do
  let s ← get
  let texts (name : String) : List String := (s.derived name).elements.map (·.2)
  let (lines, files, names) := (texts "BASH_LINENO", texts "BASH_SOURCE", texts "FUNCNAME")
  match args with
  | [] =>
    out (lines.headD "NULL" ++ " " ++ (files[1]?).getD "NULL" ++ "\n")
    return 0
  | arg :: _ =>
    match whole? arg with
    | none =>
      complain ("caller: " ++ arg ++ ": invalid number")
      tellUsage "caller"
      return 2
    | some n =>
      match lines[n.toNat]?, files[n.toNat + 1]?, names[n.toNat + 1]? with
      | some line, some file, some name =>
        out (line ++ " " ++ name ++ " " ++ file ++ "\n")
        return 0
      | _, _, _ => return 1

end ScriptSearch.Host.Shell.Builtin
