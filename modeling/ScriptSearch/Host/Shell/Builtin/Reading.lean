import ScriptSearch.Host.Shell.Builtin.Variables

/-! Commands that read lines into variables. -/

namespace ScriptSearch.Host.Shell.Builtin

open Act

/-- How reading is to stop: at a character, or after a number of them. -/
structure Stop where
  char : Char := '\n'
  limit : Option Nat := none
  /-- Whether the character counts for nothing. -/
  blind : Bool := false

/-- What has been taken of a text. -/
structure Taken where
  /-- The characters, and which of them are protected, the last first. -/
  glyphs : List Glyph := []
  /-- How many characters they are. -/
  count : Nat := 0
  /-- How many characters of the text have been used for them. -/
  size : Nat := 0
  /-- Whether the end of what was to be taken has been reached. -/
  ended : Bool := false

/-- What has been taken with one more character, which has used several of the text. -/
def Taken.add (stop : Stop) (t : Taken) (g : Glyph) (size : Nat) : Taken :=
  { glyphs := g :: t.glyphs, count := t.count + 1, size := t.size + size
    ended := stop.limit = some (t.count + 1) }

/-- Takes characters from a text. Unless it is taken as it is, a backslash protects the character behind
it, and the two count as one; with the end of a line they count as nothing. -/
def takeGlyphs (raw : Bool) (stop : Stop) (t : Taken) : List Char → Taken
  | [] => t
  | c :: cs =>
    if t.ended then t
    else if c = '\\' ∧ !raw then
      match cs with
      | [] => { t with size := t.size + 1 }
      | c :: cs =>
        if c = '\n' then takeGlyphs raw stop { t with size := t.size + 2 } cs
        else takeGlyphs raw stop (t.add stop ⟨c, true⟩ 2) cs
    else if c = stop.char ∧ !stop.blind then { t with size := t.size + 1, ended := true }
    else if c = '\x00' ∧ stop.char ≠ '\x00' then takeGlyphs raw stop { t with size := t.size + 1 } cs
    else takeGlyphs raw stop (t.add stop ⟨c, false⟩ 1) cs

/-- Takes characters from a descriptor; the flag says whether all were there. -/
def readGlyphs (descriptor : Nat) (raw : Bool) (stop : Stop) : Act (List Glyph × Bool) := do
  let wide ← isWide
  let s ← get
  match s.descriptors.lookup descriptor with
  | none => return ([], false)
  | some c =>
    let text := Octet.units wide (s.machine.unread c)
    let t := takeGlyphs raw stop { ended := stop.limit = some 0 } text
    let used := Octet.size (Octet.join (text.take t.size))
    let machine := s.machine.advance used c
    set { s with machine := if t.ended then machine else machine.lack c }
    heed
    return (t.glyphs.reverse, t.ended)

def isSeparatorIn (separators : List Char) (g : Glyph) : Bool :=
  !g.quoted && separators.contains g.char

def isBlankIn (separators : List Char) (g : Glyph) : Bool :=
  isSeparatorIn separators g && (g.char == ' ' || g.char == '\t' || g.char == '\n')

/-- Drops what separates a field from the next. -/
def dropSeparator (separators : List Char) (gs : List Glyph) : List Glyph :=
  let gs := gs.dropWhile (isBlankIn separators)
  match gs with
  | g :: rest =>
    if isSeparatorIn separators g then rest.dropWhile (isBlankIn separators) else gs
  | [] => []

/-- Values for so many variables; the last one takes all that is left. -/
def readFields (separators : List Char) : Nat → List Glyph → List String
  | 0, _ => []
  | 1, gs =>
    let field := gs.takeWhile fun g => !isSeparatorIn separators g
    let rest := gs.drop field.length
    if (dropSeparator separators rest).isEmpty then [textOf field]
    else [textOf (gs.reverse.dropWhile (isBlankIn separators)).reverse]
  | n + 2, gs =>
    let field := gs.takeWhile fun g => !isSeparatorIn separators g
    textOf field :: readFields separators (n + 1) (dropSeparator separators (gs.drop field.length))

/-- All fields, by what separates them. The first number bounds the steps. -/
def allFields (separators : List Char) : Nat → List Glyph → List String
  | 0, _ | _, [] => []
  | steps + 1, gs =>
    let field := gs.takeWhile fun g => !isSeparatorIn separators g
    textOf field :: allFields separators steps (dropSeparator separators (gs.drop field.length))

/-- How much is read at most where nothing else bounds it. -/
def readLimit : Nat := 1000000

/-- Whether a text can be a descriptor's number that is open. -/
def descriptor? (command : String) (text : Option String) : Act (Option Nat) := do
  match text with
  | none => return some 0
  | some text =>
    match text.toNat? with
    | none =>
      complain (command ++ ": " ++ text ++ ": invalid file descriptor specification")
      return none
    | some n =>
      if ((← get).descriptors.lookup n).isNone then
        complain (command ++ ": " ++ text ++ ": invalid file descriptor: " ++ OsError.badDescriptor.message)
        return none
      return some n

/-- Whether a text can be a time that is waited at most. -/
def isTimeLimit (text : String) : Bool :=
  let digits := text.toList.filter (· ≠ '.')
  !digits.isEmpty && digits.all Char.isDigit && digits.length + 1 ≥ text.length

/-- Whether a variable can get elements by number, or else a message. -/
def listable (command name : String) : Act Bool := do
  if ((← bound? name).map (·.fixed)).getD false then
    complain (fixedMessage .bash name)
    return false
  else if ← isTable name then
    complain (command ++ ": " ++ name ++ ": not an indexed array")
    return false
  else return true

/-- Sets a variable or an element to what has been read. The status tells whether that can be
done. -/
def assignRead (name value : String) : Act Nat := do
  match State.splitKey name with
  | (base, some key) =>
    if !isName base then return ← refuse "read" (noName name) 1
    assignTo base (some (← keyOf base key)) false value
    return 0
  | (name, none) =>
    let plain ← isPlain
    if !isName name then
      if plain then refuse "read" (name ++ ": bad variable name") 2 else refuse "read" (noName name) 1
    else if !plain ∧ ((← bound? name).map (·.fixed)).getD false then
      protest (fixedMessage .bash name)
      return 1
    else
      assign name value
      return 0

/-- Sets variables to values in turn, up to the first that cannot be set. -/
def assignAll : List (String × String) → Act Nat
  | [] => return 0
  | (name, value) :: rest => do
    let status ← assignRead name value
    if status ≠ 0 then return status
    assignAll rest

def read (args : List String) : Act Nat := do
  let d ← dialect
  let flags := if d = .plain then "r" else "res"
  let valued := if d = .plain then "p" else "pdntuNai"
  options "read" flags valued args fun g => do
    let names := g.rest
    if names.isEmpty ∧ d = .plain then return ← refuse "read" "arg count" 2
    let bad := "nN".toList.findSome? fun c =>
      (g.valued.lookup c).bind fun text => if (whole? text).all (· < 0) then some text else none
    if let some text := bad then return ← refuse "read" (text ++ ": invalid number") 1
    if let some text := (g.valued.lookup 't').filter (!isTimeLimit ·) then
      return ← refuse "read" (text ++ ": invalid timeout specification") 1
    if let some name := names.head? then
      if d = .bash ∧ !isName (State.splitKey name).1 then return ← refuse "read" (noName name) 1
    match ← descriptor? "read" (g.valued.lookup 'u') with
    | none => return 1
    | some descriptor =>
      match Process.unreadable? (← get).descriptors descriptor, d with
      | some e, .bash => complain ("read: read error: " ++ toString descriptor ++ ": " ++ e.message)
      | _, _ => pure ()
      if (g.valued.lookup 't') = some "0" then return 0
      let number (c : Char) : Option Nat := ((g.valued.lookup c).bind whole?).map (·.toNat)
      let count := number 'N'
      let stop : Stop :=
        { char := ((g.valued.lookup 'd').map fun s => s.toList.headD '\x00').getD '\n'
          limit := count <|> number 'n', blind := count.isSome }
      let (gs, ended) ← readGlyphs descriptor (g.has 'r') stop
      let separators ← separators
      let bare := gs.dropWhile (isBlankIn separators)
      let status ← match g.valued.lookup 'a', names with
        | some name, _ => do
          if !isName name then return ← refuse "read" (noName name) 1
          if !(← listable "read" name) then return 1
          let values := if count.isSome then [textOf gs] else allFields separators (gs.length + 1) bare
          assignFillings name false (values.map fun value => { value })
          pure 0
        | none, [] => do
          assign "REPLY" (textOf gs)
          pure 0
        | none, names => do
          let values := if count.isSome then textOf gs :: names.tail.map fun _ => ""
            else readFields separators names.length bare
          assignAll (names.zip values)
      return if status ≠ 0 then status else if ended then 0 else 1

/-- Takes lines into the elements of a list, from a number on. After every so many of them a script is
told of the next element before that is there. -/
def takeEach (descriptor : Nat) (stop : Char) (bare : Bool) (limit : Option Nat) (name : String)
    (origin quantum : Nat) (tell : Nat → String → Act Unit) : Nat → (taken : Nat) → Act Unit
  | 0, _ => return
  | steps + 1, taken => do
    if limit.any (· ≤ taken) then return
    let line := (← readUpTo descriptor stop none).toList
    if line.isEmpty then return
    let text := String.ofList
      (if (bare || stop = '\x00') && line.getLast? == some stop then line.dropLast else line)
    if (taken + 1) % quantum = 0 then tell (origin + taken) text
    assignTo name (some (toString (origin + taken))) false text
    takeEach descriptor stop bare limit name origin quantum tell steps (taken + 1)

/-- Takes lines, each with its end unless that is left out: at most so many if there is a limit. -/
def takeLines (descriptor : Nat) (stop : Char) (bare : Bool) (limit : Option Nat) :
    Nat → Act (List String)
  | 0 => return []
  | steps + 1 => do
    if limit = some 0 then return []
    let line := (← readUpTo descriptor stop none).toList
    if line.isEmpty then return []
    let text := if (bare || stop = '\x00') && line.getLast? == some stop then line.dropLast else line
    return String.ofList text :: (← takeLines descriptor stop bare (limit.map (· - 1)) steps)

/-- Reads lines into the elements of a list. A script can be run while that is done. -/
def mapfile (perform : String → Act Unit) (command : String) (args : List String) : Act Nat :=
  options command "t" "dnOsuCc" args fun g => do
    let number (c : Char) : Option Nat := (g.valued.lookup c).bind (·.toNat?)
    let wrong (c : Char) : Option String := (g.valued.lookup c).bind fun text =>
      if text.toNat?.isNone ∨ c = 'c' ∧ text.toNat? = some 0 then some text else none
    for (c, words) in faults do
      if let some text := wrong c then return ← refuse command (text ++ ": " ++ words) 1
    let name := g.rest.headD "MAPFILE"
    if name = "" then return ← refuse command "empty array variable name" 2
    if !isName name then return ← refuse command (noName name) 1
    match ← descriptor? command (g.valued.lookup 'u') with
    | none => return 1
    | some descriptor =>
      if !(← listable command name) then return 1
      let stop := ((g.valued.lookup 'd').map fun s => s.toList.headD '\x00').getD '\n'
      discard (takeLines descriptor stop true (some ((number 's').getD 0)) readLimit)
      let limit := (number 'n').filter (· ≠ 0)
      if let some script := g.valued.lookup 'C' then
        let (name, _) ← settable name
        let old := ((← binding? name).map (·.content.listed)).getD []
        assignContent name (.list (some (if (number 'O').isSome then old else [])))
        takeEach descriptor stop (g.has 't') limit name ((number 'O').getD 0) ((number 'c').getD 5000)
          (fun n line => perform (script ++ " " ++ toString n ++ " " ++ singleQuoted .bash line)) readLimit 0
        return 0
      let lines ← takeLines descriptor stop (g.has 't') limit readLimit
      let (name, _) ← settable name
      let held := ((← binding? name).map (·.content.listed)).getD []
      let old := if (number 'O').isSome then held else []
      let origin := (number 'O').getD 0
      let found := lines.zipIdx.map fun (line, i) => (origin + i, line)
      let elements := if old.isEmpty then found
        else found.foldl (fun es (n, line) => Content.insert n line es) old
      assignContent name (.list (some elements))
      return 0
where
  /-- What is wrong with the value of an option, by its letter. -/
  faults : List (Char × String) :=
    [('c', "invalid callback quantum"), ('n', "invalid line count"), ('O', "invalid array origin"),
      ('s', "invalid line count")]

end ScriptSearch.Host.Shell.Builtin
