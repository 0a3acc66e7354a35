import ScriptSearch.Host.Shell.Assigning
import ScriptSearch.Host.Shell.Builtin.Basic

/-! Commands that set variables and mark them, and functions. -/

namespace ScriptSearch.Host.Shell.Builtin

open Act

/-- A name, and the value after `=` if there is one. -/
def splitSetting (arg : String) : String × Option String :=
  let name := arg.toList.takeWhile (· ≠ '=')
  match arg.toList.drop name.length with
  | _ :: value => (String.ofList name, some (String.ofList value))
  | [] => (String.ofList name, none)

/-- What an argument declares: a variable or an element of one, and its value. -/
structure Declared where
  name : String
  key : Option String := none
  append : Bool := false
  value : Option String := none

/-- Reads what an argument declares, if it begins with a name. -/
def Declared.ofArg? (arg : String) : Option Declared :=
  let name := arg.toList.takeWhile isNameChar
  if !isName (String.ofList name) then none
  else
    let rest := arg.toList.drop name.length
    let key := Arithmetic.bracketed rest
    let rest := match key with
      | some key => rest.drop (key.length + 2)
      | none => rest
    let found : Declared := { name := String.ofList name, key := key.map String.ofList }
    match rest with
    | [] => some found
    | '=' :: value => some { found with value := some (String.ofList value) }
    | '+' :: '=' :: value => some { found with append := true, value := some (String.ofList value) }
    | _ => none

/-- What an argument declares, as it is written in front of the value. -/
def Declared.target (d : Declared) : String := d.name ++ if d.append then "+=" else "="

/-! ### Showing -/

/-- A variable as the large shell declares it. -/
def declaration (wide : Bool) (name : String) (v : Variable) : String :=
  let marks := v.letters
  let value := match v.content with
    | .text s => (s.map fun s => "=" ++ Expander.declaredText wide s).getD ""
    | c => if c.isSet then "=" ++ Expander.declaredElements wide c else ""
  "declare -" ++ (if marks = "" then "-" else marks) ++ " " ++ name ++ value ++ "\n"

/-- A variable as `set` shows it in the large shell, if it has a value. -/
def settingLine (wide : Bool) (name : String) (v : Variable) : String :=
  match v.content with
  | .text none => ""
  | .text (some s) => name ++ "=" ++ (if s = "" then "" else
      if Quoted.needsEscapes wide s then Quoted.escapes wide s else shown wide s) ++ "\n"
  | c => if c.isSet then name ++ "=" ++ Expander.declaredElements wide c ++ "\n" else ""

def sortedBindings : Act (List (String × Variable)) := do
  let s ← get
  let named := (s.bindings.filter fun b => !State.isOutermost b.1).map fun b => (b.1, (s.bound? b.1).getD b.2)
  return named.mergeSort fun a b => decide (a.1 ≤ b.1)

def sortedFunctions : Act (List (String × Function)) :=
  return (← get).functions.mergeSort fun a b => decide (a.1 ≤ b.1)

/-- The definition of a function. -/
def definition (name : String) (f : Function) : String := Printed.function name true f.body ++ "\n"

/-- The letters that say how a function is marked. -/
def functionLetters (f : Function) : String :=
  "f" ++ (if f.fixed then "r" else "") ++ (if f.traced then "t" else "") ++ if f.exported then "x" else ""

/-- Writes the definitions of functions, with how they are marked behind them. -/
def showFunctions (fs : List (String × Function)) : Act Unit := do
  for (name, f) in fs do
    out (definition name f)
    if functionLetters f ≠ "f" then out ("declare -" ++ functionLetters f ++ " " ++ name ++ "\n")

/-- Writes all variables that have a value, and in the large shell all functions. -/
def showAll : Act Unit := do
  let d ← dialect
  let wide ← isWide
  for (name, v) in ← sortedBindings do
    match d with
    | .bash => out (settingLine wide name v)
    | .plain => if let some text := v.text? then out (name ++ "=" ++ singleQuoted d text ++ "\n")
  if d = .bash ∧ !(← isOn .posix) then
    for (name, f) in ← sortedFunctions do out (definition name f)

/-! ### Exporting and fixing -/

/-- Marks of a variable. -/
inductive Mark
  | exported | fixed
  deriving DecidableEq, Repr

def Mark.set (m : Mark) (v : Variable) (on : Bool) : Variable :=
  match m with
  | exported => { v with exported := on }
  | fixed => { v with fixed := v.fixed || on }

def Mark.isOn (m : Mark) (v : Variable) : Bool :=
  match m with
  | exported => v.exported
  | fixed => v.fixed

/-- Writes the variables with a mark. -/
def showMarked (command : String) (m : Mark) (suits : Variable → Bool) : Act Nat := do
  let d ← dialect
  let wide ← isWide
  let posix ← isOn .posix
  for (name, v) in ← sortedBindings do
    if m.isOn v ∧ suits v then
      match d with
      | .plain =>
        let value := (v.text?.map fun s => "=" ++ singleQuoted d s).getD ""
        out (command ++ " " ++ name ++ value ++ "\n")
      | .bash =>
        if posix then
          let value := (v.text?.map fun s => "=" ++ Expander.declaredText wide s).getD ""
          out (command ++ " " ++ name ++ value ++ "\n")
        else out (declaration wide name v)
  return 0

/-- The name with a quote on both sides, in front of what is wrong with it. -/
def noName (arg : String) : String := "\x60" ++ arg ++ "': not a valid identifier"

/-- Marks functions, or shows those with a mark. -/
def markFunctions (command : String) (m : Mark) (on : Bool) (names : List String) : Act Nat := do
  let marked (f : Function) : Bool := match m with
    | .exported => f.exported
    | .fixed => f.fixed
  if names.isEmpty then
    showFunctions ((← sortedFunctions).filter fun f => marked f.2)
    return 0
  let mut status := 0
  for name in names do
    match (← get).functions.lookup name with
    | some f =>
      let f := match m with
        | .exported => { f with exported := on }
        | .fixed => { f with fixed := true }
      modify fun s => { s with functions := Content.put name f s.functions }
    | none => status ← refuse command (name ++ ": not a function") 1
  return status

/-- Sets variables and marks them. -/
def mark (command : String) (m : Mark) (args : List String) : Act Nat := do
  let plain ← isPlain
  options command (if plain then "p" else if m = .exported then "pfn" else "pfnaA") "" args fun g => do
    let suits (v : Variable) : Bool :=
      if g.has 'A' then v.content.isTable else !g.has 'a' || !(v.content.isTable || v.content.isText)
    if g.has 'f' then return ← markFunctions command m (!g.has 'n') g.rest
    if g.rest.isEmpty then return ← showMarked command m suits
    let mut status := 0
    for arg in g.rest do
      if plain then
        let (name, value) := splitSetting arg
        if !isName name then status ← refuse command (name ++ ": bad variable name") 2
        else
          if let some text := value then assign name text
          let v := (← binding? name).getD {}
          putBinding name (m.set v true)
      else match Declared.ofArg? arg with
        | some { name, key := none, append, value } =>
          if let some text := value then
            traceSetting (expandPrompt Scripts.none) (name ++ if append then "+=" else "=") text
            if !(← managed (assignTo name none append text)) then
              status := 1
              continue
          warnCircle 1 name
          let name := ((← get).target name).1
          discard (keepLent? name)
          let v := (← binding? name).getD {}
          let v := if value.isNone ∧ v.content matches .text none then
              if g.has 'A' then { v with content := .table none }
              else if g.has 'a' then { v with content := .list none } else v
            else v
          if !(m = .fixed ∧ g.has 'n') then putBinding name (m.set v (!g.has 'n'))
        | _ => status ← refuse command (noName arg) 1
    return status

/-! ### Declaring -/

/-- Keeps a variable, to be put back when the function ends; says whether it was not kept
before. -/
def keep (name : String) : Act Bool := do
  let old ← binding? name
  let s ← get
  match s.saved with
  | frame :: frames =>
    if (frame.lookup name).isSome then return false
    set { s with saved := ((name, old) :: frame) :: frames }
    return true
  | [] => return false

/-- Keeps a variable as it was before in place of what has been kept. -/
def replaceKept (name : String) (before : Option Variable) : Act Unit :=
  modify fun s => match s.saved with
    | frame :: frames =>
      { s with saved := (frame.map fun v => if v.1 = name then (name, before) else v) :: frames }
    | [] => s

/-- Marks that are to be turned on and off, and the arguments behind them. -/
structure Flags where
  on : List Char := []
  off : List Char := []
  rest : List String := []
  unknown : Option String := none

/-- Takes marks up to the first argument that is none. -/
def Flags.read (known : List Char) : List String → Flags
  | [] => {}
  | arg :: args =>
    match arg.toList with
    | ['-', '-'] => { rest := args }
    | sign :: c :: cs =>
      if sign ≠ '-' ∧ sign ≠ '+' then { rest := arg :: args }
      else match (c :: cs).find? (!known.contains ·) with
        | some bad => { unknown := some (String.ofList [sign, bad]) }
        | none =>
          let f := Flags.read known args
          if sign = '-' then { f with on := c :: cs ++ f.on } else { f with off := c :: cs ++ f.off }
    | _ => { rest := arg :: args }

def Flags.has (f : Flags) (c : Char) : Bool := f.on.contains c

/-- Whether a variable is marked in all the ways that flags say. -/
def Flags.suits (f : Flags) (v : Variable) : Bool :=
  f.on.all fun c => match c with
    | 'a' => !(v.content.isTable || v.content.isText)
    | 'A' => v.content.isTable
    | 'i' => v.integer
    | 'n' => v.reference
    | 'r' => v.fixed
    | 't' => v.traced
    | 'x' => v.exported
    | 'u' => v.casing = some .upper
    | 'l' => v.casing = some .lower
    | 'c' => v.casing = some .capital
    | _ => true

/-- A variable with its marks changed, but for the one that fixes it. -/
def Flags.applied (f : Flags) (v : Variable) : Variable :=
  let casings := f.on.filterMap fun c => match c with
    | 'u' => some Casing.upper
    | 'l' => some .lower
    | 'c' => some .capital
    | _ => none
  let casing := match casings.eraseDups with
    | [] =>
      let letter := match v.casing with
        | some .upper => 'u'
        | some .lower => 'l'
        | _ => 'c'
      if f.off.contains letter then none else v.casing
    | [c] => some c
    | _ => none
  let isOn (c : Char) (now : Bool) : Bool := (now || f.has c) && !f.off.contains c
  { v with
    integer := isOn 'i' v.integer, exported := isOn 'x' v.exported, traced := isOn 't' v.traced
    reference := isOn 'n' v.reference, casing }

/-- Shows functions, by definition or by name, or marks them. -/
def declareFunctions (command : String) (f : Flags) : Act Nat := do
  let marks := f.on.filter "rtx".toList.contains
  let tell (name : String) (g : Function) (named : Bool) : Act Unit := do
    if f.has 'F' then
      out ((if named then name else "declare -" ++ functionLetters g ++ " " ++ name) ++ "\n")
    else if named ∧ !f.has 'p' then out (definition name g)
    else showFunctions [(name, g)]
  if f.rest.isEmpty then
    for (name, g) in ← sortedFunctions do
      if (!f.has 'x' ∨ g.exported) ∧ (!f.has 'r' ∨ g.fixed) ∧ (!f.has 't' ∨ g.traced) then
        tell name g false
    return 0
  let mut status := 0
  for name in f.rest do
    if name.toList.contains '=' then
      status ← refuse command "cannot use \x60-f' to make functions" 1
      break
    match (← get).functions.lookup name with
    | none => status := 1
    | some g =>
      if marks.isEmpty ∧ f.off.isEmpty then tell name g true
      else
        let isOn (c : Char) (now : Bool) : Bool := (now || f.has c) && !f.off.contains c
        let g := { g with fixed := g.fixed || f.has 'r', traced := isOn 't' g.traced
                          exported := isOn 'x' g.exported }
        modify fun s => { s with functions := Content.put name g s.functions }
  return status

/-- Values between parentheses in a text, read anew. -/
def fillingsOfText? (name value : String) (table : Bool) : Act (Option (List Filling)) := do
  if !(value.startsWith "(" ∧ value.endsWith ")") then return none
  let c : Cursor := { rest := (name ++ "=" ++ value).toList }
  match EStateM.run (Reader.settingWord (← ground)) c with
  | .ok w _ =>
    match w.pieces with
    | [.text _ _, .list _ elements] => return some (← fillings Scripts.none table elements)
    | _ => return none
  | .error _ _ => return none

/-- Gives the content that flags ask for, if the variable's content can become that. -/
def shaped (f : Flags) (keyed : Bool) (c : Content) : Except String Content :=
  match c with
  | .table e =>
    if f.off.contains 'A' then .error destroys
    else if f.has 'a' then .error "cannot convert associative to indexed array" else .ok (.table e)
  | .list e =>
    if f.off.contains 'a' then .error destroys
    else if f.has 'A' then .error "cannot convert indexed to associative array" else .ok (.list e)
  | .text s =>
    if f.has 'A' then .ok (.table (s.map fun s => [("0", s)]))
    else if f.has 'a' ∨ keyed then .ok (.list (s.map fun s => [(0, s)]))
    else .ok (.text s)
where
  destroys : String := "cannot destroy array variables in this way"

/-- Keeps the options, which are in force again when the current function ends. -/
def keepSwitches : Act Unit :=
  modify fun s => { s with keptSwitches := s.keptSwitches <|> some s.switches }

/-- Declares a variable, within a function for the time that it runs. -/
def declareOne (command : String) (f : Flags) (arg : String) : Act Nat := do
  if command = "local" ∧ arg = "-" then
    keepSwitches
    return 0
  match Declared.ofArg? arg with
  | none => refuse command (noName arg) 1
  | some d =>
    let s ← get
    let isLocal := !f.has 'g' && !s.saved.isEmpty
    let refers := f.has 'n' || f.off.contains 'n'
    if f.has 'n' then
      if let some target := d.value then
        if target = d.name ∧ !isLocal then
          return ← refuse command (d.name ++ ": nameref variable self references not allowed") 1
        if !isName (State.splitKey target).1 then
          return ← refuse command ("\x60" ++ target ++ "': invalid variable name for name reference") 1
    let old := if isLocal && ((s.saved.head?).getD []).all (·.1 ≠ d.name) then {} else
      (s.bindings.lookup (if refers || isLocal then d.name else (s.target d.name).1)).getD {}
    let global := s.bindings.lookup d.name
    if ((global.map (·.fixed)).getD false ∧ isLocal) ∨
        (old.fixed ∧ (d.value.isSome ∨ f.off.contains 'r')) then
      return ← refuse command (d.name ++ ": readonly variable") 1
    let name := if refers || isLocal then d.name else (s.target d.name).1
    if isLocal then
      let isNew ← keep d.name
      match ← keepLent? d.name with
      | some before => replaceKept d.name before
      | none =>
        if isNew then
          let inherits ← isFurtherOn "localvar_inherit"
          putBinding d.name (if inherits then global.getD {}
            else { exported := (global.map (·.exported)).getD false })
    else if f.has 'x' ∨ f.has 'r' then discard (keepLent? d.name)
    let v := (← binding? name).getD {}
    match shaped f d.key.isSome v.content with
    | .error text => refuse command (name ++ ": " ++ text) 1
    | .ok content =>
      let v := f.applied { v with content }
      putBinding name (if f.has 'n' ∧ d.value.isSome then { v with reference := false } else v)
      if let some text := d.value then
        if f.has 'n' then
          putBinding name { v with content := .text (some text) }
          if text = d.name then
            complain (command ++ ": warning: " ++ name ++ ": circular name reference")
            warnCircle 1 name
            let outer := ((← get).saved.filterMap (·.lookup name)).getLastD none
            if let some v := outer then putBinding (State.outermost name) v
        else
          let listed ← if d.key.isNone ∧ (f.has 'a' ∨ f.has 'A') then
              fillingsOfText? name text v.content.isTable
            else pure none
          match listed, d.key with
          | some values, _ => assignFillings name d.append values
          | none, some key =>
            if key = "" then protest (name ++ "[]: bad array subscript"); return 1
            assignTo name (some (← keyOf name key)) d.append text
          | none, none => assignTo name none d.append text
      else if d.key.isSome ∧ !content.isSet then
        putBinding name { v with content := .list (some []) }
      if f.has 'r' then
        let v := (← binding? name).getD {}
        putBinding name { v with fixed := true }
      return 0

/-- Shows variables as they are declared. -/
def showDeclared (command : String) (f : Flags) : Act Nat := do
  let s ← get
  let wide ← isWide
  if f.rest.isEmpty then
    let isOwn (name : String) : Bool :=
      command ≠ "local" || ((s.saved.head?).getD []).any (·.1 = name)
    for (name, v) in ← sortedBindings do
      if isOwn name ∧ f.suits v then out (declaration wide name v)
    return 0
  let mut status := 0
  for name in f.rest do
    refresh name
    match (← get).bound? name with
    | some v => out (declaration wide name v)
    | none => status ← refuse command (name ++ ": not found") 1
  return status

/-- The letters of marks. -/
def flagLetters : List Char := "aAcfFgiIlnprtux".toList

def declareLarge (command : String) (args : List String) : Act Nat := do
  let f := Flags.read flagLetters args
  match f.unknown with
  | some option =>
    complain (command ++ ": " ++ option ++ ": invalid option")
    tellUsage command
    return 2
  | none =>
    if f.has 'f' ∨ f.has 'F' then declareFunctions command f
    else if f.has 'p' ∨ (f.rest.isEmpty ∧ (command = "local" ∨ !f.on.isEmpty)) then
      showDeclared command f
    else if f.rest.isEmpty then
      showAll
      return 0
    else
      let mut status := 0
      for arg in f.rest do
        let ended ← declareOne command f arg
        if ended ≠ 0 then status := ended
      return status

/-- Sets variables of a function of the plain shell. -/
def declarePlain (command : String) (args : List String) : Act Nat := do
  for arg in args do
    if arg = "-" then
      keepSwitches
      continue
    let (name, value) := splitSetting arg
    if !isName name then
      return ← refuse command (name ++ ": bad variable name") 2
    if ((← binding? name).map (·.fixed)).getD false then assign name ""
    discard (keep name)
    match value with
    | some text => assign name text
    | none => if (← binding? name).isNone then putBinding name {}
  return 0

/-- Sets variables, within a function for the time that it runs. -/
def declare (command : String) (args : List String) : Act Nat := do
  let plain ← isPlain
  if command = "local" ∧ (← get).saved.isEmpty then
    refuse command (if plain then "not in a function" else "can only be used in a function") 1
  else if plain then declarePlain command args
  else declareLarge command args

/-- Gives a variable of a declaration values for its elements, before the declaration itself is
performed with the marks behind it. -/
def declareList (x : Scripts) (command : String) (args : List String) (a : Assignment)
    (elements : List (Element Piece)) : Act Unit := do
  let f := Flags.read flagLetters args
  let marks := f.on.filter "aAgilcu".toList.contains
  let outside := ["export", "readonly", "alias"].contains command
  let inner := if outside then "declare" else command
  let marks := if outside then 'g' :: marks else marks
  let marks := if marks.contains 'A' ∨ marks.contains 'a' ∨ (← isTable a.name) then marks else 'a' :: marks
  discard (declareOne inner { on := marks } a.name)
  let values ← fillings x (← isTable a.name) elements
  let wide ← isWide
  let quoted (s : String) : String := singleQuoted .bash s
  let shownValue (v : Filling) : String :=
    ((v.key.map fun key => "[" ++ quoted key ++ "]" ++ if v.append then "+=" else "=").getD "") ++
      if Quoted.needsEscapes wide v.value then Quoted.escapes wide v.value else quoted v.value
  traceLine (expandPrompt x) (targetText a ++ "(" ++
    String.intercalate " " (values.map shownValue) ++ ")")
  assignFillings a.name a.append values

/-! ### Taking away -/

/-- Takes away the element of a variable. -/
def unsetElement (name key : String) : Act Nat := do
  let (name, _) := (← get).target name
  match ← binding? name with
  | none => return 0
  | some v =>
    if v.fixed then return ← refuse "unset" (name ++ ": cannot unset: readonly variable") 1
    if key = "@" ∨ key = "*" then
      let content : Content := match v.content with
        | .table _ => .table (some [])
        | .list _ => .list (some [])
        | .text _ => .text none
      putBinding name { v with content }
      return 0
    let found ← keyOf name key
    match v.content with
    | .text _ =>
      if found = "0" then
        removeVariable name
        return 0
      else refuse "unset" (name ++ ": not an array variable") 1
    | content =>
      if !content.hasRoom found then refuse "unset" ("[" ++ key ++ "]: bad array subscript") 1
      else
        putBinding name { v with content := content.without found }
        return 0

/-- Takes a function away. -/
def unsetFunction (name : String) : Act Nat := do
  if (((← get).functions.lookup name).map (·.fixed)).getD false then
    refuse "unset" (name ++ ": cannot unset: readonly function") 1
  else
    modify fun s => { s with functions := s.functions.filter (·.1 ≠ name) }
    return 0

/-- Takes away what a name stands for in the large shell: a variable, or else a function. -/
def unsetLarge (g : Given) (arg : String) : Act Nat := do
  if g.has 'f' then return ← unsetFunction arg
  match State.splitKey arg with
  | (name, some key) => if isName name then unsetElement name key else return 0
  | (name, none) =>
    let s ← get
    if !g.has 'n' then warnCircle 2 name
    let name := if g.has 'n' then name else (s.target name).1
    if State.unchangedNames.contains name ∧ s.isDerived name then
      return ← refuse "unset" (name ++ ": cannot unset") 1
    match (s.target arg).2, s.bound? name with
    | some key, some _ => if g.has 'n' then removeVariable name; return 0 else unsetElement name key
    | _, none => if g.has 'v' then return 0 else unsetFunction name
    | _, some v =>
      if v.fixed then refuse "unset" (name ++ ": cannot unset: readonly variable") 1
      else
        removeVariable name
        return 0

def unset (args : List String) : Act Nat := do
  let plain ← isPlain
  options "unset" (if plain then "fv" else "fvn") "" args fun g => do
    if !plain ∧ g.has 'f' ∧ g.has 'v' then
      return ← refuse "unset" "cannot simultaneously unset a function and a variable" 1
    let mut status := 0
    for name in g.rest do
      if !plain then
        let ended ← unsetLarge g name
        if ended ≠ 0 then status := ended
      else if g.has 'f' then status ← unsetFunction name
      else
        if ((← binding? name).map (·.fixed)).getD false then
          status ← refuse "unset" (name ++ ": is read only") 1
        else if !isName name then status ← refuse "unset" (name ++ ": bad variable name") 2
        else
          checkPosition name ""
          removeVariable name
    return status

end ScriptSearch.Host.Shell.Builtin
