import ScriptSearch.Host.Shell.Builtin.Variables
import ScriptSearch.Host.Shell.Lookup

/-! Commands that leave what is being done, and commands about names. -/

namespace ScriptSearch.Host.Shell.Builtin

open Act

/-! ### Leaving -/

/-- Arguments behind a first `--`, which the large shell skips. -/
def afterDashes (d : Dialect) : List String → List String
  | "--" :: args => if d = .bash then args else "--" :: args
  | args => args

/-- The low eight bits, as far as a status has them. -/
def lowByte (n : Int) : Nat := (n % 256).toNat

def exit (args : List String) : Act Nat := do
  let s ← get
  let last := s.interrupted.getD s.status
  match s.setting.dialect, afterDashes s.setting.dialect args with
  | _, [] => exitWith last
  | .plain, arg :: _ => exitWith (← count "exit" arg)
  | .bash, arg :: rest =>
    match whole? arg with
    | none =>
      complain ("exit: " ++ arg ++ ": numeric argument required")
      exitWith 2
    | some n =>
      if !rest.isEmpty then tooMany "exit"
      exitWith (lowByte n)

/-- Leaves a function or a file. -/
def leave (args : List String) : Act Nat := do
  let s ← get
  match s.setting.dialect, afterDashes s.setting.dialect args with
  | .plain, [] =>
    setStatus (s.interrupted.getD s.status)
    throw .return
  | .plain, arg :: _ =>
    setStatus (← count "return" arg)
    throw .return
  | .bash, args =>
    if s.calls = 0 ∧ s.files = 0 ∧ s.acting.isEmpty then
      if let arg :: rest := args then
        if (whole? arg).isNone then complain ("return: " ++ arg ++ ": numeric argument required")
        else if !rest.isEmpty then tooMany "return"
      refuse "return" "can only \x60return' from a function or sourced script" 2
    else match args with
      | [] => throw .return
      | arg :: rest =>
        match whole? arg with
        | none =>
          complain ("return: " ++ arg ++ ": numeric argument required")
          setStatus 2
          throw .return
        | some n =>
          if !rest.isEmpty then tooMany "return"
          setStatus (lowByte n)
          throw .return

/-- Leaves loops, or goes on with the next pass of one. -/
def leaveLoop (command : String) (jump : Nat → Jump) (args : List String) : Act Nat := do
  let s ← get
  match s.setting.dialect, afterDashes s.setting.dialect args with
  | .plain, args =>
    let n ← match args with
      | [] => pure 1
      | arg :: _ => count command arg
    if n = 0 then return ← refuse command ("Illegal number: " ++ args.headD "") 2
    if s.loops = 0 then return 0
    setStatus 0
    throw (jump (min n s.loops))
  | .bash, args =>
    if s.loops = 0 then
      refuse command "only meaningful in a \x60for', \x60while', or \x60until' loop" 0
    else
      let arg := args.headD "1"
      match whole? arg with
      | none =>
        complain (command ++ ": " ++ arg ++ ": numeric argument required")
        exitWith (s.status ||| 128)
      | some n =>
        if !(args.drop 1).isEmpty then tooMany command
        if n ≤ 0 then
          complain (command ++ ": " ++ arg ++ ": loop count out of range")
          setStatus 1
          -- the action for the end belongs to what is left
          if s.switches.contains .exitOnError ∧ s.tested = 0 then
            modify fun s => { s with traps := s.traps.filter (·.1 ≠ "EXIT") }
            throw .exit
          throw (.break s.loops)
        else
          setStatus 0
          throw (jump (min n.toNat s.loops))

/-! ### Names -/

/-- The first path of a program. -/
def found (paths : List String) : Act (Option String) := do
  match paths with
  | path :: _ =>
    let s ← get
    let known := s.machine.tree.present s.here path
    if s.setting.dialect = .plain then return if known then some path else none
    else return if ← isProgram path then some path else none
  | [] => return none

/-- Tells what names stand for: in words, or by what a command would be called. For
`command`, one name that stands for something is enough. -/
def describe (command : String) (words : Bool) (names : List String) : Act Nat := do
  let d ← dialect
  let mut unknown := 0
  for name in names do
    let s ← get
    let keyword := (Reader.keywords d).contains name
    let alias? := if d = .plain ∨ s.hasFurther "expand_aliases" then s.aliases.lookup name else none
    if keyword then out (name ++ (if words then " is a shell keyword" else "") ++ "\n")
    else if let some text := alias? then
      if words then
        out (name ++ (if d = .plain then " is an alias for " ++ text else " is aliased to \x60" ++ text ++ "'") ++ "\n")
      else out ("alias " ++ name ++ "=" ++ singleQuoted d text ++ "\n")
    else
      match ← meaning true name with
      | .function f =>
        out (name ++ (if words then (if d = .plain then " is a shell function" else " is a function")
          else "") ++ "\n")
        if words ∧ d = .bash then out (definition name f)
      | .builtin =>
        let special := d = .plain ∧ specialBuiltins.contains name ∧ name ≠ "local"
        out (name ++ (if !words then "" else if special then " is a special shell builtin"
          else " is a shell builtin") ++ "\n")
      | m =>
        let path? ← match m with
          | .program paths => found paths
          | _ => pure none
        match path? with
        | some path =>
          let known := (s.hashed.lookup name).isSome
          if !words then out (path ++ "\n")
          else if known ∧ d = .plain then out (name ++ " is a tracked alias for " ++ path ++ "\n")
          else if known then out (name ++ " is hashed (" ++ path ++ ")\n")
          else out (name ++ " is " ++ path ++ "\n")
          if d = .plain ∧ !name.toList.contains '/' then
            modify fun s => { s with hashed := (name, path) :: s.hashed.filter (·.1 ≠ name) }
        | none =>
          unknown := unknown + 1
          if words ∧ d = .plain then out (name ++ ": not found\n")
          else if words then complain (command ++ ": " ++ name ++ ": not found")
  if unknown = 0 ∨ (command = "command" ∧ unknown < names.length) then return 0
  else return if d = .plain then 127 else 1

/-- The kind of a name in one word. -/
def kind? (name : String) : Act (Option String) := do
  let s ← get
  if s.hasFurther "expand_aliases" ∧ (s.aliases.lookup name).isSome then return some "alias"
  if (Reader.keywords (← dialect)).contains name then return some "keyword"
  match ← meaning true name with
  | .function _ => return some "function"
  | .builtin => return some "builtin"
  | .program paths => return (← found paths).map fun _ => "file"
  | .missing _ => return none

/-- Tells all that a name stands for, in words or by a kind or a path; says whether there is
anything. -/
def describeAll (g : Given) (name : String) : Act Bool := do
  let s ← get
  let tell (kind words path : String) : Act Unit := do
    let bare := g.has 'p' || g.has 'P'
    if g.has 't' then out (kind ++ "\n")
    else if !bare then out (name ++ " is " ++ words ++ "\n")
    else if path ≠ "" then out (path ++ "\n")
  let mut found := false
  if !g.has 'P' then
    if s.hasFurther "expand_aliases" then
      if let some text := s.aliases.lookup name then
        tell "alias" ("aliased to \x60" ++ text ++ "'") ""
        found := true
    if (Reader.keywords .bash).contains name then
      tell "keyword" "a shell keyword" ""
      found := true
    if !g.has 'f' then
      if let some f := s.functions.lookup name then
        tell "function" "a function" ""
        if !g.has 't' ∧ !g.has 'p' then out (definition name f)
        found := true
    if ← isBuiltin name then
      tell "builtin" "a shell builtin" ""
      found := true
  let paths ← if name.toList.contains '/' then pure [name] else programPaths name
  for path in paths do
    if ← isProgram path then
      tell "file" path path
      found := true
  return found

def type (args : List String) : Act Nat := do
  if ← isPlain then describe "type" true args
  else options "type" "afptP" "" args fun g => do
    if g.has 'a' then
      let mut status := 0
      for name in g.rest do
        if !(← describeAll g name) then
          if !g.has 't' ∧ !g.has 'p' ∧ !g.has 'P' then complain ("type: " ++ name ++ ": not found")
          status := 1
      return status
    if g.has 't' ∨ g.has 'p' ∨ g.has 'P' then
      let mut status := 0
      for name in g.rest do
        let text? ← if g.has 't' then kind? name
          else match ← (if g.has 'P' then search name else meaning true name) with
            | .program paths => found paths
            | _ => pure none
        match text? with
        | some text => out (text ++ "\n")
        | none => if (← kind? name).isNone ∨ g.has 'P' then status := 1
      return status
    else if g.has 'f' then
      let kept := (← get).functions
      modify fun s => { s with functions := [] }
      always (modify fun s => { s with functions := kept }) (describe "type" true g.rest)
    else describe "type" true g.rest

/-- Keeps the path of a program that has been found. -/
def remember (name path : String) (hits : Nat) : Act Unit :=
  modify fun s => { s with
    hashed := (name, path) :: s.hashed.filter (·.1 ≠ name)
    hits := (name, hits) :: s.hits.filter (·.1 ≠ name) }

/-- Shows or drops programs that have been found before. -/
def hashKnown (g : Given) : Act Nat := do
  let mut status := 0
  for name in g.rest do
    match (← get).hashed.lookup name with
    | none =>
      complain ("hash: " ++ name ++ ": not found")
      status := 1
    | some path =>
      if g.has 'd' then modify fun s => { s with hashed := s.hashed.filter (·.1 ≠ name) }
      else if g.has 'l' then out ("builtin hash -p " ++ path ++ " " ++ name ++ "\n")
      else out ((if 1 < g.rest.length then name ++ "\t" else "") ++ path ++ "\n")
  return status

def hash (args : List String) : Act Nat := do
  options "hash" (if (← get).setting.dialect = .plain then "rv" else "rldt")
      (if (← get).setting.dialect = .plain then "" else "p") args fun g => do
    let d ← dialect
    if d = .bash ∧ !(← isOn .hashing) then return ← refuse "hash" "hashing disabled" 1
    if g.has 'r' then modify fun s => { s with hashed := [] }
    if g.rest.isEmpty ∧ !g.has 'r' then
      let known := (← get).hashed
      match d with
      | .plain =>
        let known := known.reverse.mergeSort fun a b => place 31 a.1 ≤ place 31 b.1
        out (String.join (known.map (·.2 ++ "\n")))
      | .bash =>
        let known := inRows 256 known.reverse
        let hits := (← get).hits
        if g.has 'l' then
          out (String.join (known.map fun k => "builtin hash -p " ++ k.2 ++ " " ++ k.1 ++ "\n"))
        else if known.isEmpty then out "hash: hash table empty\n"
        else
          out ("hits\tcommand\n" ++ String.join (known.map fun k =>
            let n := toString ((hits.lookup k.1).getD 0)
            "".pushn ' ' (4 - n.length) ++ n ++ "\t" ++ k.2 ++ "\n"))
        return 0
    if g.has 'd' ∨ g.has 't' then return ← hashKnown g
    if let some path := g.valued.lookup 'p' then
      for name in g.rest do remember name path 0
      return 0
    let mut status := 0
    for name in g.rest do
      match ← meaning false name with
      | .program paths =>
        match ← found paths with
        | some path => remember name path 0
        | none => pure ()
      | .missing _ =>
        complain ((if d = .plain then "" else "hash: ") ++ name ++ ": not found")
        status := 1
      | _ => pure ()
    return status

/-! ### Aliases -/

/-- Shows or sets names that stand for texts. -/
def setAliases (args : List String) : Act Nat := do
  if ← isPlain then setNames args.isEmpty args
  else options "alias" "p" "" args fun g => setNames (g.rest.isEmpty || g.has 'p') g.rest
where
setNames (all : Bool) (args : List String) : Act Nat := do
  let d ← dialect
  let tell (a : String × String) : Act Unit :=
    let mark := if d = .plain then "" else if a.1.startsWith "-" then "alias -- " else "alias "
    out (mark ++ a.1 ++ "=" ++ singleQuoted d a.2 ++ "\n")
  if all then
    if d = .bash ∧ (← get).aliases.isEmpty then return 0
    let before (a b : String) : Bool := if d = .plain then place 39 a ≤ place 39 b else decide (a ≤ b)
    for a in (← get).aliases.mergeSort fun a b => before a.1 b.1 do tell a
  let mut status := 0
  for arg in args do
    let name := arg.toList.takeWhile (· ≠ '=')
    let text := arg.toList.drop (name.length + 1)
    let name := String.ofList name
    if name.length < arg.length ∧ name ≠ "" then
      if d = .bash ∧ !name.toList.all isAliasChar then
        complain ("alias: \x60" ++ name ++ "': invalid alias name")
        status := 1
      else
        modify fun s => { s with aliases := Content.put name (String.ofList text) s.aliases }
    else
      match (← get).aliases.lookup arg with
      | some text => tell (arg, text)
      | none =>
        if d = .plain then err ("alias: " ++ arg ++ " not found\n")
        else complain ("alias: " ++ arg ++ ": not found")
        status := 1
  return status

def unsetAliases (args : List String) : Act Nat :=
  options "unalias" "a" "" args fun g => do
    let d ← dialect
    if g.has 'a' then
      modify fun s => { s with aliases := [] }
      return 0
    if g.rest.isEmpty ∧ d = .bash then
      tellUsage "unalias"
      return 2
    let mut status := 0
    for name in g.rest do
      if ((← get).aliases.lookup name).isSome then
        modify fun s => { s with aliases := s.aliases.filter (·.1 ≠ name) }
      else
        if d = .plain then err ("unalias: " ++ name ++ " not found\n")
        else complain ("unalias: " ++ name ++ ": not found")
        status := 1
    return status

/-! ### The bits of new files -/

/-- The rights that a mask leaves, in letters. -/
def rights (mask : Nat) : String :=
  let part (shift : Nat) : String :=
    let left := 7 - mask / shift % 8
    (if left / 4 % 2 = 1 then "r" else "") ++ (if left / 2 % 2 = 1 then "w" else "") ++
      (if left % 2 = 1 then "x" else "")
  "u=" ++ part 64 ++ ",g=" ++ part 8 ++ ",o=" ++ part 1

def octal (n : Nat) : String :=
  let digits := String.ofList (Nat.toDigits 8 n)
  "".pushn '0' (4 - digits.length) ++ digits

/-- The rights of those that letters name, changed by an operator. -/
def changedRights (rights : Nat) (who : List Char) (op : Char) (bits : Nat) : Nat :=
  let all := who.isEmpty || who.contains 'a'
  [('u', 64), ('g', 8), ('o', 1)].foldl
    (fun rights (c, shift) =>
      if all || who.contains c then
        let old := rights / shift % 8
        let new := match op with
          | '=' => bits
          | '+' => Nat.lor old bits
          | '-' => old - Nat.land old bits
          | _ => old
        rights - old * shift + new * shift
      else rights) rights

/-- The bits of rights that letters name. -/
def bitsOf (cs : List Char) : Nat :=
  (if cs.contains 'r' then 4 else 0) + (if cs.contains 'w' then 2 else 0) + (if cs.contains 'x' then 1 else 0)

/-- Rights changed as the large shell is told, or what it takes offence at. -/
def rightsLarge (rights : Nat) (arg : String) : Except String Nat :=
  let marked (cs : List Char) : String := "\x60" ++ String.singleton (cs.headD '\x00') ++ "'"
  (Text.split ',' arg).foldlM
    (fun rights clause =>
      let who := clause.toList.takeWhile "ugoa".toList.contains
      let behind := clause.toList.drop who.length
      let cs := behind.drop 1
      let bits := cs.takeWhile "rwx".toList.contains
      if !(behind.headD ' ' ∈ ['=', '+', '-']) then
        let behind := if behind.isEmpty ∧ arg.startsWith "," then [','] else behind
        .error (marked behind ++ ": invalid symbolic mode operator")
      else if bits.length < cs.length then
        .error (marked (cs.drop bits.length) ++ ": invalid symbolic mode character")
      else .ok (changedRights rights who (behind.headD ' ') (bitsOf bits))) rights

/-- Rights changed as the plain shell is told; `was` is what they were before. Those who are named stay
named up to a comma. The first argument bounds the steps. -/
def rightsPlain? (was : Nat) : Nat → (rights : Nat) → (who : List Char) → List Char → Option Nat
  | 0, rights, _, _ | _, rights, _, [] => some rights
  | steps + 1, rights, who, cs =>
    let named := cs.takeWhile "ugoa".toList.contains
    let who := who ++ named
    match cs.drop named.length with
    | [] => some rights
    | op :: cs =>
      if !(op ∈ ['=', '+', '-']) then none
      else
        let letters := cs.takeWhile "rwxugoXs".toList.contains
        let bits := letters.foldl
          (fun bits c => Nat.lor bits (match c with
            | 'u' => was / 64 % 8
            | 'g' => was / 8 % 8
            | 'o' => was % 8
            | 'X' => if Nat.land was 0o111 = 0 then 0 else 1
            | c => bitsOf [c])) 0
        let rights := changedRights rights who op bits
        match cs.drop letters.length with
        | ',' :: cs => rightsPlain? was steps rights [] cs
        | cs => if cs.headD '=' ∈ ['=', '+', '-'] then rightsPlain? was steps rights who cs else none

def umask (args : List String) : Act Nat := do
  options "umask" (if ← isPlain then "S" else "Sp") "" args fun g => do
    let s ← get
    match g.rest with
    | [] =>
      out ((if g.has 'p' then (if g.has 'S' then "umask -S " else "umask ") else "") ++
        (if g.has 'S' then rights s.mask else octal s.mask) ++ "\n")
      return 0
    | arg :: _ =>
      let plain := s.setting.dialect = .plain
      if (arg.toList.head?.map Char.isDigit).getD false then
        match Escape.number 8 arg.length arg.toList with
        | some (n, []) =>
          modify fun s => { s with mask := n % 512 }
          return 0
        | _ => refuse "umask" (if plain then "Illegal number: " ++ arg
            else arg ++ ": octal number out of range") 1
      else
        let rights := 511 - s.mask
        let changed : Except String Nat :=
          if plain then match rightsPlain? rights arg.length rights [] arg.toList with
            | some rights => .ok rights
            | none => .error ("Illegal mode: " ++ arg)
          else rightsLarge rights arg
        match changed with
        | .ok rights =>
          modify fun s => { s with mask := 511 - rights }
          return 0
        | .error message => refuse "umask" message 1

/-! ### Limits -/

/-- What the limits count and their units, by letter. -/
def limitNames : List (Char × String × String) :=
  [('R', "real-time non-blocking time", "microseconds, "), ('c', "core file size", "blocks, "),
    ('d', "data seg size", "kbytes, "), ('e', "scheduling priority", ""), ('f', "file size", "blocks, "),
    ('i', "pending signals", ""), ('l', "max locked memory", "kbytes, "),
    ('m', "max memory size", "kbytes, "), ('n', "open files", ""), ('p', "pipe size", "512 bytes, "),
    ('q', "POSIX message queues", "bytes, "), ('r', "real-time priority", ""),
    ('s', "stack size", "kbytes, "), ('t', "cpu time", "seconds, "), ('u', "max user processes", ""),
    ('v', "virtual memory", "kbytes, "), ('x', "file locks", "")]

/-- A limit, which is none unless it has been set. -/
def limit (letter : Char) : Act String := return ((← get).limits.lookup letter).getD "unlimited"

def ulimit (args : List String) : Act Nat := do
  options "ulimit" (if ← isPlain then "HSatfdsmcpnvlwr" else "SHacdefilmnpqrstuvxR") "" args fun g => do
    let letters := g.letters.filter fun c => c ≠ 'S' && c ≠ 'H' && c ≠ 'a'
    let letter := letters.getLastD 'f'
    match g.rest with
    | [] =>
      if letters.length ≤ 1 then out ((← limit letter) ++ "\n")
      else
        for c in letters do
          let (name, unit) := (limitNames.lookup c).getD ("", "")
          let label := "(" ++ unit ++ "-" ++ String.ofList [c] ++ ")"
          out (name ++ "".pushn ' ' (38 - name.length - label.length) ++ label ++ " " ++ (← limit c) ++ "\n")
      return 0
    | text :: _ =>
      let known := ["unlimited", "hard", "soft"].contains text || (text ≠ "" && text.toList.all Char.isDigit)
      if !known then
        refuse "ulimit" (if ← isPlain then "bad number" else text ++ ": invalid number") 1
      else
        if text ≠ "hard" ∧ text ≠ "soft" then
          modify fun s => { s with limits := (letter, text) :: s.limits.filter (·.1 ≠ letter) }
        return 0

end ScriptSearch.Host.Shell.Builtin
