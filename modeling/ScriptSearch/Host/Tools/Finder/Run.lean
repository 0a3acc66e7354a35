import ScriptSearch.Host.Numeral
import ScriptSearch.Host.Tools.Changing
import ScriptSearch.Host.Tools.Finder.Reading
import ScriptSearch.Host.Tools.Listing

/-! Searching directories for files that a condition holds for. -/

namespace ScriptSearch.Host.Finder

open Tools Work

/-- A file that has been come to. -/
structure Found where
  path : String
  /-- The path that it was come from. -/
  start : String
  depth : Nat
  known : Known

/-- The last name of a path. -/
def baseName (path : String) : String :=
  match (FileTree.names path).filter (· ≠ "") |>.getLast? with
  | some name => name
  | none => if path = "" then "" else "/"

/-- What stands before the last name of a path. -/
def leading (path : String) : String :=
  let cs := path.toList.reverse
  let bare := (cs.dropWhile (· = '/')).dropWhile (· ≠ '/')
  if !path.toList.contains '/' then "."
  else if (cs.dropWhile (· = '/')).contains '/' then String.ofList (bare.drop 1).reverse
  else if (cs.dropWhile (· = '/')).isEmpty then ""
  else "."

/-- What stands before the last name, as `%h` gives it. -/
def Found.directory (f : Found) : String :=
  if f.path = "/" then "" else if f.path.endsWith "/" then (f.path.dropEnd 1).toString else leading f.path

/-- What has come out of a search so far: whether to go into the directory at hand, whether the
search is over, and the files that commands are still to be called for. -/
structure Sweep where
  pruned : Bool := false
  finished : Bool := false
  gathered : List (Nat × Call × List Found) := []

abbrev Search := StateT Sweep Work

/-- How a search is done. -/
structure Setup where
  options : Options
  condition : Condition

/-- Writes text to a file or to the standard output. -/
def put (file : Option String) (text : String) : Work Unit := do
  match file with
  | none => say text
  | some path => discard (store path text .appending)

/-- What is known of what a file leads to. -/
def Found.followed (f : Found) : Work (Except OsError Known) := do
  let (tree, here) ← place
  return Known.at? tree here true f.path

/-! ### Formats -/

/-- The letter of a kind, as conditions give it. -/
def kindLetter (k : Known) : Char := if k.letter = '-' then 'f' else k.letter

/-- What a letter in a format stands for: a text, or a number. -/
def Found.part (f : Found) (c : Char) : Work (String ⊕ Nat) := do
  let k := f.known
  let number (n : Nat) : Work (String ⊕ Nat) := return .inr n
  let text (s : String) : Work (String ⊕ Nat) := return .inl s
  let blocks := if k.size = 0 ∨ k.letter = 'l' then 0 else (k.size + 4095) / 4096 * 8
  match c with
  | 'p' => text f.path
  | 'f' => text (if f.path.endsWith "/" ∧ f.path ≠ "/" then baseName f.path ++ "/" else baseName f.path)
  | 'h' => text f.directory
  | 'H' => text f.start
  | 'P' =>
    let rest := f.path.toList.drop f.start.length
    text (String.ofList (if rest.head? = some '/' then rest.drop 1 else rest))
  | 'd' => number f.depth
  | 's' => text (toString k.size)
  | 'b' => text (toString blocks)
  | 'k' => text (toString (blocks / 2))
  | 'm' => number k.mode
  | 'M' => text k.modeText
  | 'y' => text (String.singleton (kindLetter k))
  | 'Y' =>
    text (match ← f.followed with
      | .ok k => String.singleton (kindLetter k)
      | .error .noEntry => "N"
      | .error .tooManyLinks => "L"
      | .error _ => "?")
  | 'l' => text (match k.entry with
    | .link target => target
    | _ => "")
  | 'n' => text (toString k.links)
  | 'u' | 'g' => text k.ownerName
  | 'U' | 'G' => text k.ownerNumber
  | _ => text ""

def Found.formatted (f : Found) : List FormatPart → Work String
  | [] => return ""
  | .finish :: _ => return ""
  | .text s :: rest => return s ++ (← f.formatted rest)
  | .known c left zero alternate width most :: rest => do
    let l : Numeral.Layout := { left, zero, alternate, width, precision := most }
    let text := match ← f.part c with
      | .inl s => { l with precision := none }.pad (match most with
        | some n => (s.take n).toString
        | none => s)
      | .inr n => l.unsigned (if c = 'm' then 8 else 10) false n
    return text ++ (← f.formatted rest)

/-- A line with all that is known of a file. -/
def Found.line (f : Found) : String :=
  let k := f.known
  let padded (n : Nat) (s : String) : String := { width := n : Numeral.Layout }.pad s
  let before (n : Nat) (s : String) : String := { width := n, left := true : Numeral.Layout }.pad s
  padded 9 "0" ++ " " ++ padded 6 (toString ((k.size + 4095) / 4096 * 4)) ++ " " ++ k.modeText ++ " " ++
    padded 3 (toString k.links) ++ " " ++ before 8 k.ownerName ++ " " ++ before 8 k.ownerName ++ " " ++
    padded 8 (toString k.size) ++ " Jan  1 00:00 " ++ f.path ++
    (match k.entry with
      | .link target => " -> " ++ target
      | _ => "") ++ "\n"

/-! ### Commands -/

/-- The directory that a file is in, and its name there. -/
def Found.inside (f : Found) : String × String :=
  let name := baseName f.path
  (leading f.path, if name.startsWith "/" then name else "./" ++ name)

/-- Runs a command; says whether it has ended well. -/
def callCommand (words : List String) (directory : Option String) : Work Bool := do
  let p ← process
  match words with
  | [] => return false
  | program :: args =>
    let (tree, here) ← place
    let here := match directory with
      | some path => (tree.directory here path).toOption.getD here
      | none => here
    match ← runProgram { p with name := program, args, here } with
    | .ok ending => return ending.status = 0
    | .error e =>
      warn ((← quoted program) ++ ": " ++ e.message)
      return false

/-- Runs a command for a file. -/
def Call.run (c : Call) (f : Found) : Work Bool := do
  let (directory, name) := f.inside
  let path := if c.inside then name else f.path
  let words := c.words.map fun word => word.replace "\x7b\x7d" path
  if c.asks then
    flush
    let p ← process
    p.err ("< " ++ c.words.headD "" ++ " ... " ++ f.path ++ " > ? ")
    let answer ← match p.channel? 0 with
      | none => pure ""
      | some channel => do
        let (line, m) := (← machine).readUpTo false '\n' none channel
        set m
        pure line
    if !(answer.startsWith "y" || answer.startsWith "Y") then return false
  callCommand words (if c.inside then some directory else none)

/-- Runs a command for all files that have been gathered. -/
def runGathered : Search Unit := do
  for (_, c, files) in (← get).gathered.reverse do
    let directories := if c.inside then (files.map fun f => f.inside.1).eraseDups else [""]
    for directory in directories do
      let here := files.filter fun f => !c.inside || f.inside.1 = directory
      let paths := here.map fun f => if c.inside then f.inside.2 else f.path
      if !(← callCommand (c.words ++ paths) (if c.inside then some directory else none)) then setStatus 1
  modify fun s => { s with gathered := [] }

/-! ### Conditions -/

/-- Whether the bits of a mode are as asked for. -/
def modeHolds (how : Char) (bits mode : Nat) : Bool :=
  let common := mode % 4096 &&& bits
  if how = '-' then common = bits else if how = '/' then common ≠ 0 else mode % 4096 = bits

/-- Removes a file. -/
def Found.delete (f : Found) : Work Bool := do
  if f.path = "." then return true
  let isDirectory := f.known.isDirectory
  match ← change fun tree here =>
      if isDirectory then tree.removeDirectory here f.path else tree.unlink here f.path with
  | none => return true
  | some e =>
    fault ("cannot delete " ++ (← quoted f.path) ++ ": " ++ e.message)
    return false

/-- Whether something holds for a file, and does what it says. -/
def Primary.holds (o : Options) (f : Found) : Primary → Search Bool
  | .always b => return b
  | .name foldCase pattern => return matchesName (← isWide) foldCase pattern (baseName f.path)
  | .path foldCase pattern => return matchesName (← isWide) foldCase pattern f.path
  | .target foldCase pattern => do
    match f.known.entry with
    | .link text => return matchesName (← isWide) foldCase pattern text
    | _ => return false
  | .regex rule r => do
    let text := (Octet.units rule.wide f.path).toArray
    return (Regex.matchAt? rule text r 0).any (·.finish = text.size)
  | .kind turned letters => do
    if !turned then return letters.contains (kindLetter f.known)
    if o.follows = .always then
      let (tree, here) ← place
      return match Known.at? tree here false f.path with
        | .ok k => letters.contains (kindLetter k)
        | .error _ => false
    else
      return match ← f.followed with
        | .ok k => letters.contains (kindLetter k)
        | .error _ => letters.contains 'l'
  | .size a unit => return a.admits ((f.known.size + unit - 1) / unit)
  | .links a => return a.admits f.known.links
  | .age a => return a.admits 0
  | .owner a | .group a => return a.admits (f.known.ownerNumber.toNat?.getD 0)
  | .nameless => return f.known.own
  | .mode how bits => return modeHolds how bits f.known.mode
  | .permitted r => do
    let (tree, here) ← place
    return match tree.locate here f.path with
      | .ok d => (tree.entry d).toOption.any (tree.permits r d.location)
      | .error _ => false
  | .empty => do
    let (tree, _) ← place
    return match f.known.entry with
      | .directory _ => tree.isEmptyAt f.known.location
      | .file _ | .record _ => f.known.size = 0
      | _ => false
  | .same location => do
    let (tree, _) ← place
    return f.known.location = location || match f.known.entry, tree.get? location with
      | .file n, some (.file m) => n = m
      | _, _ => false
  | .print file stop => do
    put file (f.path ++ stop)
    return true
  | .format file parts => do
    put file (← f.formatted parts)
    return true
  | .list file => do
    put file f.line
    return true
  | .call c => c.run f
  | .gather n c => do
    modify fun s =>
      if s.gathered.any (·.1 = n) then
        { s with gathered := s.gathered.map fun (m, c, files) => (m, c, if m = n then files ++ [f] else files) }
      else { s with gathered := (n, c, [f]) :: s.gathered }
    return true
  | .delete => f.delete
  | .prune => do
    modify fun s => { s with pruned := true }
    return true
  | .quit => do
    modify fun s => { s with finished := true }
    return true

/-- Whether a condition holds for a file. Nothing more is asked once the search is over. -/
def Condition.holds (o : Options) (f : Found) : Condition → Search Bool
  | .primary p => p.holds o f
  | .negated c => return !(← c.holds o f)
  | .join j a b => do
    let found ← a.holds o f
    if (← get).finished then return false
    match j with
    | .and => if found then b.holds o f else return false
    | .or => if found then return true else b.holds o f
    | .comma => b.holds o f

/-! ### Searching -/

/-- What is known of the file at a path; of a link that leads nowhere, the link itself. -/
def knownAt (o : Options) (depth : Nat) (path : String) : Work (Except OsError Known) := do
  let (tree, here) ← place
  let plain := Known.at? tree here false path
  if o.follows = .always ∨ (o.follows = .arguments ∧ depth = 0) then
    match Known.at? tree here true path with
    | .ok k => return .ok k
    | .error e => return match plain with
      | .ok k => if k.letter = 'l' then plain else .error e
      | .error e => .error e
  else return plain

/-- Searches what is at a path and below it; `above` are the directories that it was come to
through. The first argument bounds the depth. -/
def sweep (s : Setup) : Nat → (start path : String) → (above : List Location) → (depth : Nat) → Search Unit
  | 0, _, _, _, _ => return
  | steps + 1, start, path, above, depth => do
    if (← get).finished then return
    match ← knownAt s.options depth path with
    | .error e => fault ((← quoted path) ++ ": " ++ e.message)
    | .ok known =>
      let f : Found := { path, start, depth, known }
      let ask : Search Unit := do
        if s.options.least ≤ depth then discard (s.condition.holds s.options f)
      let deeper := known.isDirectory && s.options.most.all (depth < ·)
      if known.isDirectory ∧ above.contains known.location then
        fault ("File system loop detected; " ++ (← quoted path) ++
          " is part of the same file system loop as " ++ (← quoted start) ++ ".")
      else
        modify fun t => { t with pruned := false }
        if !s.options.inner then ask
        let t ← get
        if deeper ∧ !(t.pruned && !s.options.inner) ∧ !t.finished then
          let (tree, _) ← place
          match tree.get? known.location with
          | some (.directory _) =>
            if !tree.permitsAt .read known.location then
              fault ((← quoted path) ++ ": " ++ OsError.accessDenied.message)
            else
              for name in tree.children known.location do
                sweep s steps start (if path.endsWith "/" then path ++ name else path ++ "/" ++ name)
                  (known.location :: above) (depth + 1)
          | _ => fault ((← quoted path) ++ ": " ++ OsError.noEntry.message)
        if s.options.inner ∧ !(← get).finished then ask

/-- Takes the options that stand before all else. -/
def firstOptions (follows : Follows) : List String → Follows × List String
  | "-H" :: rest => firstOptions .arguments rest
  | "-L" :: rest => firstOptions .always rest
  | "-P" :: rest => firstOptions .never rest
  | "--" :: rest => (follows, rest)
  | word :: rest =>
    if word.startsWith "-O" ∧ word ≠ "-O" ∧ (word.toList.drop 2).all Char.isDigit then firstOptions follows rest
    else (follows, word :: rest)
  | [] => (follows, [])

/-- Searches directories. -/
def find : Work Unit := do
  let p ← process
  let (follows, args) := firstOptions .never p.args
  let starts := args.takeWhile fun word => !beginsCondition true word
  let words := args.drop starts.length
  let d ← marksOf (words.length + 1) { options := { follows } } none words
  let marks := d.marks.reverse
  let isPrune (m : Mark) : Bool := match m with
    | .primary .prune => true
    | _ => false
  if d.options.inner ∧ !d.options.innerAsked ∧ marks.any isPrune then
    fail ("The -delete action automatically turns on -depth, but -prune does nothing when -depth is in " ++
      "effect.  If you want to carry on anyway, just explicitly use the -depth option.")
  match Condition.ofMarks (completed marks) with
  | .error f => fail f.message
  | .ok condition =>
    let s : Setup := { options := d.options, condition }
    let search : Search Unit := do
      for start in if starts.isEmpty then ["."] else starts do
        sweep s depthLimit start start [] 0
      runGathered
    discard (search.run {})

end ScriptSearch.Host.Finder
