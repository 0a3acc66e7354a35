import ScriptSearch.Host.Shell.Builtin.Variables

/-! Commands about a shell's options and arguments, and about options among the arguments of a
script. -/

namespace ScriptSearch.Host.Shell.Builtin

open Act

/-- What a shell says that has no terminal to control processes from. -/
def noTerminal : String := "can't access tty; job control turned off"

/-- Turns an option on or off. One way of editing lines turns off the other, and a variable says
whether the large shell keeps to the letter of the standard. -/
def turnSwitch (o : Switch) (on : Bool) : Act Unit := do
  let changes := on != (← isOn o)
  turn o on
  if o = .posix ∧ changes then
    if !on then removeBinding "POSIXLY_CORRECT"
    else if (← value? "POSIXLY_CORRECT").isNone then assign "POSIXLY_CORRECT" "y"
  if on ∧ o = .idle "vi" then turn (.idle "emacs") false
  if on ∧ o = .idle "emacs" then turn (.idle "vi") false

/-- Does what the arguments of `set` ask for, up to the first that cannot be done; the flag
says whether all was done. -/
def choose : List Choice → Act Bool
  | [] => return true
  | c :: cs => do
    match c with
    | .turn o on =>
      if o = .jobControl ∧ on ∧ (← isPlain) then remark "set" noTerminal
      else turnSwitch o on
      choose cs
    | .listing asCommands =>
      let s ← get
      out (Switch.listing s.setting.dialect asCommands s.switches.contains)
      choose cs
    | .unknownLetter _ c =>
      discard (refuse "set" ("Illegal option -" ++ String.ofList [c]) 2)
      return false
    | .unknownName name =>
      let message := if ← isPlain then "Illegal option -o " ++ name else name ++ ": invalid option name"
      discard (refuse "set" message 2)
      return false
    | _ => choose cs

/-- New arguments let the plain shell read options from the first one on. -/
def restartOptions : Act Unit := do
  if ← isPlain then modify fun s => { s with optionIndex := 1, optionOffset := 0 }

def setOptions (args : List String) : Act Nat := do
  let d ← dialect
  if args.isEmpty then
    showAll
    return 0
  let (choices, rest) := Choice.ofArgs d false args
  let unknown := choices.findSome? fun
    | .unknownLetter sign c => some (String.ofList [sign, c])
    | _ => none
  match d, unknown with
  | .bash, some option =>
    complain ("set: " ++ option ++ ": invalid option")
    tellUsage "set"
    return 2
  | _, _ =>
    if ← choose choices then
      if let some args := rest then
        modify fun s => { s with args }
        restartOptions
      return 0
    else return 2

def shift (args : List String) : Act Nat := do
  let held := (← get).args
  match ← dialect with
  | .plain =>
    let n ← match args with
      | [] => pure 1
      | arg :: _ => count "shift" arg
    if held.length < n then refuse "shift" "can't shift that many" 2
    else
      modify fun s => { s with args := held.drop n }
      restartOptions
      return 0
  | .bash =>
    match args with
    | arg :: _ :: _ =>
      if (whole? arg).isNone then refuse "shift" (arg ++ ": numeric argument required") 1
      else tooMany "shift"
    | _ =>
      let arg := args.headD "1"
      match whole? arg with
      | none => refuse "shift" (arg ++ ": numeric argument required") 1
      | some n =>
        if n < 0 then refuse "shift" (arg ++ ": shift count out of range") 1
        else if held.length < n then return 1
        else
          modify fun s => { s with args := held.drop n.toNat }
          return 0

/-! ### Further options of the large shell -/

/-- Shows or turns the options that `set` has too. -/
def shoptCommon (g : Given) : Act Nat := do
  let names := if g.rest.isEmpty then (Switch.named .bash).map (·.1) else g.rest
  let mut status := 0
  for name in names do
    match Switch.ofName? .bash name with
    | none => status ← refuse "shopt" (name ++ ": invalid option name") 1
    | some o =>
      let isOn ← isOn o
      if (g.has 's' ∨ g.has 'u') ∧ !g.rest.isEmpty then turnSwitch o (g.has 's')
      else if !g.has 'q' ∧ (!g.has 's' ∨ isOn) ∧ (!g.has 'u' ∨ !isOn) then
        out (if g.has 'p' then "set " ++ (if isOn then "-o " else "+o ") ++ name ++ "\n"
          else Switch.furtherLine false name isOn)
      if !isOn ∧ !g.rest.isEmpty ∧ !g.has 's' ∧ !g.has 'u' then status := 1
  return status

def shopt (args : List String) : Act Nat :=
  options "shopt" "psuqo" "" args fun g => do
    if g.has 's' ∧ g.has 'u' then
      return ← refuse "shopt" "cannot set and unset shell options simultaneously" 1
    if g.has 'o' then return ← shoptCommon g
    let names := if g.rest.isEmpty then Switch.further.map (·.1) else g.rest
    let mut status := 0
    for name in names do
      match Switch.further.lookup name with
      | none => status ← refuse "shopt" (name ++ ": invalid shell option name") 1
      | some standard =>
        let isOn := (← get).hasFurther name
        if (g.has 's' ∨ g.has 'u') ∧ !g.rest.isEmpty then
          modify fun s => { s with
            changed := s.changed.filter (· ≠ name) ++ if g.has 's' != standard then [name] else [] }
        else if !g.has 'q' ∧ (!g.has 's' ∨ isOn) ∧ (!g.has 'u' ∨ !isOn) then
          out (Switch.furtherLine (g.has 'p') name isOn)
        if !isOn ∧ !g.rest.isEmpty ∧ !g.has 's' ∧ !g.has 'u' then status := 1
    return status

/-! ### Options of scripts -/

/-- What the next option of a script is. -/
inductive Next
  | finish (index : Nat)
  | found (c : Char) (value : Option String) (index offset : Nat)
  | unknown (c : Char) (index offset : Nat)
  | short (c : Char) (index : Nat)

/-- The letters behind the sign of an argument that holds options. -/
def letters? (arg : String) : Option (List Char) :=
  match arg.toList with
  | '-' :: c :: cs => some (c :: cs)
  | _ => none

/-- Looks for the next option in the large shell, from an argument and a place in it; arguments count
from one. -/
def nextOption (known : List Char) (args : List String) (index offset : Nat) : Next :=
  let arg := (args[index - 1]?).getD ""
  let remaining := ((letters? arg).getD []).drop (offset - 1)
  let (letters, offset) := if offset = 0 ∨ remaining.isEmpty then ((letters? arg).getD [], 0)
    else (remaining, offset)
  match letters with
  | [] => .finish index
  | c :: rest =>
    if arg = "--" ∧ offset = 0 then .finish (index + 1)
    else
      let (after, place) := if rest.isEmpty then (index + 1, 0) else (index, max offset 1 + 1)
      if c = ':' ∨ !known.contains c then .unknown c after place
      else if (known.dropWhile (· ≠ c))[1]? = some ':' then
        if !rest.isEmpty then .found c (some (String.ofList rest)) (index + 1) 0
        else match args[index]? with
          | some value => .found c (some value) (index + 2) 0
          | none => .short c (index + 1)
      else .found c none after place

/-- Whether the plain shell knows an option, and whether that has a value. -/
def known? (c : Char) : List Char → Option Bool
  | [] => none
  | k :: rest =>
    if k = c then some (rest.head? = some ':')
    else match rest with
      | ':' :: rest => known? c rest
      | rest => known? c rest

/-- Looks for the next option in the plain shell: the index is that of the argument behind the one with
the last option. -/
def nextPlain (known : List Char) (args : List String) (index offset : Nat) : Next :=
  let (index, offset) := if args.length + 1 < index then (1, 0) else (index, offset)
  let current := if offset = 0 then [] else ((args.getD (index - 2) "").toList).drop offset
  let arg := args.getD (index - 1) ""
  let (letters, after) := if current.isEmpty then ((letters? arg).getD [], index + 1) else (current, index)
  match letters with
  | [] => .finish index
  | c :: rest =>
    if current.isEmpty ∧ arg = "--" then .finish (index + 1)
    else
      let size := (args.getD (after - 2) "").length
      let place := if rest.isEmpty then 0 else size - rest.length
      match known? c known with
      | none => .unknown c after place
      | some false => .found c (some "") after place
      | some true =>
        if !rest.isEmpty then .found c (some (String.ofList rest)) after 0
        else match args[after - 1]? with
          | some value => .found c (some value) (after + 1) 0
          | none => .short c after

/-- Sets variables to an option of a script. -/
def setOption (name letter : String) (argument : Option String) (index offset : Nat) (status : Nat) :
    Act Nat := do
  let plain ← isPlain
  assign "OPTIND" (toString index)
  match argument with
  | some text => assign "OPTARG" text
  | none => if !(plain ∧ status ≠ 0) then removeBinding "OPTARG"
  modify fun s => { s with optionOffset := offset }
  let fixed := ((← bound? name).map (·.fixed)).getD false
  if plain ∧ (fixed ∨ !isName name) then restartOptions
  if !isName name then
    if plain then refuse "getopts" (name ++ ": bad variable name") 2 else refuse "getopts" (noName name) 1
  else if !plain ∧ fixed then
    protest (fixedMessage .bash name)
    return if status = 0 then 2 else status
  else
    assign name letter
    return status

def getopts (args : List String) : Act Nat := do
  match args with
  | known :: name :: rest =>
    let s ← get
    let words := if rest.isEmpty then s.args else rest
    let plain := s.setting.dialect = .plain
    let silent := known.startsWith ":"
    let tells : Bool := !silent && (plain || ((← value? "OPTERR").filter (· ≠ "")).all fun text => text.toInt? ≠ some 0)
    let text (c : Char) : String := String.ofList [c]
    let next ← if plain then pure (nextPlain known.toList words s.optionIndex s.optionOffset)
      else do
        let index := ((← value? "OPTIND").bind (·.toNat?)).getD 1
        pure (nextOption known.toList words (max index 1) s.optionOffset)
    match next with
    | .finish index => setOption name "?" none index 0 1
    | .found c value index offset => setOption name (text c) value index offset 0
    | .unknown c index offset =>
      if tells then
        err (if plain then "Illegal option -" ++ text c ++ "\n"
          else s.setting.name ++ ": illegal option -- " ++ text c ++ "\n")
      setOption name "?" (if silent then some (text c) else none) index offset 0
    | .short c index =>
      if tells then
        err (if plain then "No arg for -" ++ text c ++ " option\n"
          else s.setting.name ++ ": option requires an argument -- " ++ text c ++ "\n")
      setOption name (if silent then ":" else "?") (if silent then some (text c) else none) index 0 0
  | _ =>
    if ← isPlain then refuse "getopts" "Usage: getopts optstring var [arg...]" 2
    else
      tellUsage "getopts"
      return 2

end ScriptSearch.Host.Shell.Builtin
