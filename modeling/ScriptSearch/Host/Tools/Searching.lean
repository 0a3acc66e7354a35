import ScriptSearch.Host.Numeral
import ScriptSearch.Host.Regex
import ScriptSearch.Host.Tools.Lines
import ScriptSearch.Host.Tools.Listing
import ScriptSearch.Host.Tools.Work

/-! A tool that looks for lines that match patterns. -/

namespace ScriptSearch.Host.Tools

open Work

/-- What is looked for. -/
structure Sought where
  rule : RegexRule
  patterns : List Regex
  /-- Whether only whole words match, or whole lines. -/
  words : Bool := false
  whole : Bool := false

namespace Sought

/-- Where matches that begin at a place end, the farthest last. -/
def ends (s : Sought) (text : Array Char) (start : Nat) (r : Regex) : List Nat :=
  if r.hasReference then ((r.ways s.rule text (start, [])).map (·.1)).mergeSort (· ≤ ·)
  else r.places s.rule text [start]

/-- Whether a part of a line stands by itself. -/
def isWord (s : Sought) (text : Array Char) (start finish : Nat) : Bool :=
  let isWordAt (i : Nat) : Bool := (text[i]?).any (Regex.isWordChar s.rule)
  !(0 < start && isWordAt (start - 1)) && !isWordAt finish

/-- The end of the longest match that begins at a place. -/
def longestAt (s : Sought) (text : Array Char) (start : Nat) : Option Nat :=
  let all := s.patterns.flatMap (s.ends text start)
  let suits (finish : Nat) : Bool :=
    if s.whole then start = 0 && finish = text.size
    else !s.words || s.isWord text start finish
  (all.filter suits).foldl (fun best finish => some (max finish (best.getD 0))) none

/-- The first match at a place or behind it. The first argument bounds the steps. -/
def findFrom (s : Sought) (text : Array Char) : Nat → (start : Nat) → Option (Nat × Nat)
  | 0, _ => none
  | steps + 1, start =>
    match s.longestAt text start with
    | some finish => some (start, finish)
    | none => if start < text.size ∧ !s.whole then findFrom s text steps (start + 1) else none

/-- All matches that are not empty. The first argument bounds the steps. -/
def findAll (s : Sought) (text : Array Char) : Nat → (start : Nat) → List (Nat × Nat)
  | 0, _ => []
  | steps + 1, start =>
    match s.findFrom text (text.size + 1 - start) start with
    | none => []
    | some (first, last) =>
      if first = last then (if first < text.size then findAll s text steps (first + 1) else [])
      else (first, last) :: findAll s text steps last

end Sought

/-- The names that lead to files below a path, in order. The first argument bounds the depth. -/
def filesBelow (tree : FileTree) (follows : Bool) (takes enters : String → Bool) :
    Nat → (shown : String) → Location → List String
  | 0, _, _ => []
  | depth + 1, shown, location =>
    (tree.children location).flatMap fun name =>
      let path := if shown = "" then name else if shown.endsWith "/" then shown ++ name else shown ++ "/" ++ name
      match tree.get? (location ++ [name]) with
      | some (.directory _) =>
        if enters name then filesBelow tree follows takes enters depth path (location ++ [name]) else []
      | some (.file _) | some (.record _) => if takes name then [path] else []
      | some (.link target) =>
        if !follows then []
        else
          match tree.find ⟨location, 0⟩ target with
          | .ok (.file _) => if takes name then [path] else []
          | _ => []
      | _ => []

def searchRules : List OptionRule :=
  flags "EFGPyTuUIhHaZz" ++
    [flag "E" "extended-regexp", flag "F" "fixed-strings", flag "F" "fixed-regexp", flag "G" "basic-regexp",
      flag "P" "perl-regexp", valued "e" "regexp", valued "f" "file", flag "i" "ignore-case",
      flag "" "no-ignore-case", flag "v" "invert-match", flag "w" "word-regexp", flag "x" "line-regexp",
      flag "c" "count", flag "L" "files-without-match", flag "l" "files-with-matches", valued "m" "max-count",
      flag "o" "only-matching", flag "q" "quiet", flag "q" "silent", flag "s" "no-messages",
      flag "b" "byte-offset", flag "H" "with-filename", flag "h" "no-filename", valued "" "label",
      flag "n" "line-number", flag "T" "initial-tab", flag "Z" "null", valued "A" "after-context",
      valued "B" "before-context", valued "C" "context", valued "" "group-separator",
      flag "" "no-group-separator", flag "a" "text", valued "" "binary-files", valued "d" "directories",
      valued "D" "devices", valued "" "exclude", valued "" "exclude-dir", valued "" "exclude-from",
      valued "" "include", flag "r" "recursive", flag "R" "dereference-recursive", flag "U" "binary",
      flag "z" "null-data", perhaps "" "color", perhaps "" "colour", flag "" "line-buffered"]

/-- How a call is refused: by a line of what would be right. -/
def refuseSearch {α : Type} (text : Option String) : Work α := do
  if let some text := text then warn text
  let p ← process
  p.err ("Usage: " ++ p.name ++ " [OPTION]... PATTERNS [FILE]...\nTry '" ++ p.name ++
    " --help' for more information.\n")
  leave 2

/-- Options with a number right behind a dash, which is the size of a context. -/
def withContextNumbers (args : List String) : List String :=
  match args with
  | [] => []
  | "--" :: rest => "--" :: rest
  | arg :: rest =>
    let (ds, more) := digitsOf (arg.toList.drop 1)
    if arg.startsWith "-" ∧ !ds.isEmpty then
      ("-C" ++ String.ofList ds) :: (if more.isEmpty then [] else ["-" ++ String.ofList more]) ++
        withContextNumbers rest
    else arg :: withContextNumbers rest

/-- What Perl's short names for classes are without them. -/
def withoutShortClasses : List Char → List Char
  | '\\' :: 'd' :: rest => "[0-9]".toList ++ withoutShortClasses rest
  | '\\' :: 'D' :: rest => "[^0-9]".toList ++ withoutShortClasses rest
  | '\\' :: c :: rest => '\\' :: c :: withoutShortClasses rest
  | '(' :: '?' :: ':' :: rest => '(' :: withoutShortClasses rest
  | c :: rest => c :: withoutShortClasses rest
  | [] => []

/-- Operators at the start of a pattern that repeat nothing. -/
def idleOperator? (cs : List Char) : Option String :=
  match cs with
  | '^' :: rest => idle? rest
  | cs => idle? cs
where
  idle? : List Char → Option String
    | '*' :: _ => some "*"
    | '+' :: _ => some "+"
    | '?' :: _ => some "?"
    | _ => none

/-- The patterns that lines of texts mean. -/
def soughtOf (g : Given) (texts : List String) : Work Sought := do
  let wide ← isWide
  let fixed := g.has "F"
  let extended := g.hasAny ["E", "P"]
  let rule : RegexRule :=
    { extended, wide, foldCase := g.hasAny ["i", "y"] && !g.has "no-ignore-case", lenient := true }
  let mut patterns : List Regex := []
  for text in texts.flatMap (Text.split '\n') do
    if fixed then
      patterns := patterns ++ [.sequence ((Octet.units wide text).map .char)]
    else
      if text.startsWith "[:" ∧ text.endsWith ":]" then
        fail "character class syntax is [[:space:]], not [:space:]" 2
      if extended then
        if let some operator := idleOperator? text.toList then
          warn ("warning: " ++ operator ++ " at start of expression")
      let text := if g.has "P" then String.ofList (withoutShortClasses text.toList) else text
      match Regex.read rule text with
      | .ok (r, _) => patterns := patterns ++ [r]
      | .error f => fail f.message 2
  return { rule, patterns, words := g.has "w", whole := g.has "x" }

/-- How matches are shown. -/
structure Showing where
  names : Bool
  numbers : Bool
  offsets : Bool
  before : Nat
  after : Nat
  /-- The line between groups of lines. -/
  separator : Option String
  most : Option Nat
  stop : Char

/-- What stands in front of a line; the mark is between its parts. -/
def Showing.head (s : Showing) (zero : Bool) (name : String) (mark : String) (number offset : Nat) : String :=
  (if s.names then name ++ (if zero then "\x00" else mark) else "") ++
    (if s.numbers then toString number ++ mark else "") ++ (if s.offsets then toString offset ++ mark else "")

/-- Lines with whether each is selected, and how many bytes come before it. -/
def selectedLines (sought : Sought) (inverted : Bool) (stop : Char) (lines : List String) :
    List (String × Nat × Bool) :=
  let found := lines.foldl
    (fun ((rows, offset) : List (String × Nat × Bool) × Nat) line =>
      let text := (Octet.units sought.rule.wide line).toArray
      let hit := (sought.findFrom text (text.size + 1) 0).isSome
      ((line, offset, hit != inverted) :: rows, offset + Octet.size line + (String.singleton stop).utf8ByteSize))
    ([], 0)
  found.1.reverse

/-- The rows that are shown: those that are selected, up to a number, with their surroundings. -/
def shownRows (s : Showing) (rows : List (String × Nat × Bool)) : List (Nat × String × Nat × Bool) :=
  let numbered := rows.zipIdx 1
  let selected := (numbered.filter fun r => r.1.2.2).map (·.2)
  let selected := match s.most with
    | some n => selected.take n
    | none => selected
  let last := selected.getLastD 0
  numbered.filterMap fun ((line, offset, hit), number) =>
    let hit := hit && selected.contains number
    let near := selected.any fun k => (number < k && k ≤ number + s.before) || (k < number && number ≤ k + s.after)
    if hit ∨ (near ∧ (number ≤ last ∨ number ≤ last + s.after)) then some (number, line, offset, hit) else none

/-- Searches a text, and writes what is to be shown. Whether something was selected. -/
def searchText (g : Given) (sought : Sought) (s : Showing) (name text : String) : Work Bool := do
  let inverted := g.has "v"
  let zero := g.has "Z"
  let lines := linesOf s.stop text
  let rows := selectedLines sought inverted s.stop lines
  let total := (rows.filter (·.2.2)).length
  let count : Nat := match s.most with
    | some n => min n total
    | none => total
  let found := decide (0 < count)
  let nameEnd := if zero then "\x00" else "\n"
  if found ∧ (g.hasAny ["q", "l", "L"] ∨ s.most.any (· ≤ total)) then satisfied
  if g.has "q" then
    if found then leave 0
    return found
  if g.hasAny ["l", "L"] then
    if found = (g.lastOf ["l", "L"] == some "l") then say (name ++ nameEnd)
    return found
  if g.has "c" then
    say ((if s.names then name ++ (if zero then "\x00" else ":") else "") ++ toString count ++ "\n")
    return found
  let binary := !g.has "a" && g.last? "binary-files" ≠ some "text" &&
    ((text.toList.contains '\x00' && s.stop ≠ '\x00') || (sought.rule.wide && text.any Octet.isSingle))
  if binary then
    if found ∧ g.last? "binary-files" ≠ some "without-match" ∧ !g.has "I" then warn (name ++ ": binary file matches")
    return found && !(g.has "I")
  let shown := shownRows s rows
  let mut last : Nat := 0
  for (number, line, offset, hit) in shown do
    if let some separator := s.separator then
      if last ≠ 0 ∧ last + 1 < number then say (separator ++ "\n")
    last := number
    if g.has "o" then
      if hit ∧ !inverted then
        let cs := (Octet.units sought.rule.wide line).toArray
        for (first, finish) in sought.findAll cs (cs.size + 1) 0 do
          let part := Octet.join (cs.extract first finish).toList
          let place := offset + Octet.size (Octet.join (cs.extract 0 first).toList)
          say ((s.head zero name ":" number place ++ part).push s.stop)
    else say ((s.head zero name (if hit then ":" else "-") number offset ++ line).push s.stop)
  return found

/-- Looks for lines in files. -/
def searchLines (kind : String) : Work Unit := do
  modify fun g => { g with lostStatus := 2 }
  let p ← process
  let strict ← isStrict
  let args := (if kind = "" then [] else [kind]) ++ withContextNumbers p.args
  let g ← match ({ rules := searchRules, inOrder := strict } : OptionTable).read args with
    | .ok g => pure g
    | .error f => refuseSearch (some f.message)
  if g.hasAny ["help", "version"] then leave 0
  let kinds := (g.options.map (·.1)).filter ["E", "F", "G", "P"].contains
  if kinds.any (fun k => kinds.any (· ≠ k)) then
    fail "conflicting matchers specified" 2
  let chosen := g.lastOf ["E", "F", "G"]
  let counts (o : String × String) : Bool := !(["E", "F", "G"] : List String).contains o.1 || some o.1 == chosen
  let g := { g with options := g.options.filter counts }
  let number (letter : String) : Work (Option Nat) := do
    match g.last? letter with
    | none => return none
    | some text =>
      if text ≠ "" ∧ text.toList.all Char.isDigit then return some (natOf text.toList)
      else if letter = "m" then
        if (Numeral.decimal? text).any (· < 0) then return none
        fail "invalid max count" 2
      else fail (text ++ ": invalid context length argument") 2
  let after ← number "A"
  let before ← number "B"
  let around ← number "C"
  let most ← number "m"
  if let some v := g.last? "d" then
    if !(["read", "recurse", "skip"] : List String).contains v then
      warn ("invalid argument " ++ (← quoted v) ++ " for " ++ (← quoted "--directories"))
      p.err ("Valid arguments are:\n" ++ String.join (← ["read", "recurse", "skip"].mapM fun v =>
        return "  - " ++ (← quoted v) ++ "\n"))
      p.err ("Usage: " ++ p.name ++ " [OPTION]... PATTERNS [FILE]...\nTry '" ++ p.name ++
        " --help' for more information.\n")
      leave 1
  let mut texts := g.all "e"
  for name in g.all "f" do
    match ← contents name with
    | .ok text => if text ≠ "" then texts := texts ++ linesOf '\n' text
    | .error e => fail (name ++ ": " ++ e.message) 2
  let given := g.hasAny ["e", "f"]
  if !given ∧ g.operands.isEmpty then refuseSearch none
  if !given then texts := g.operands.take 1
  let files := if given then g.operands else g.operands.drop 1
  let sought ← soughtOf g texts
  let recursive := g.hasAny ["r", "R"] || g.last? "d" = some "recurse"
  let bareHere := recursive && files.isEmpty
  let names := if files.isEmpty then (if recursive then ["."] else ["-"]) else files
  let grouped := after.isSome || before.isSome || around.isSome
  let s : Showing :=
    { names := if g.hasAny ["h", "H"] then decide (g.lastOf ["h", "H"] = some "H")
        else recursive || 1 < names.length
      numbers := g.has "n", offsets := g.has "b", before := before.getD (around.getD 0)
      after := after.getD (around.getD 0)
      separator := if !grouped ∨ g.has "no-group-separator" then none
        else some ((g.last? "group-separator").getD "--")
      most, stop := lineStop (g.has "z") }
  let wide ← isWide
  let glob (option name : String) : Bool := (g.all option).any fun pattern => matchesName wide false pattern name
  let takes (name : String) : Bool := (!g.has "include" || glob "include" name) && !glob "exclude" name
  let mut found := false
  let mut failed := false
  let tell (text : String) : Work Unit := if g.has "s" then pure () else warn text
  for name in names do
    let (tree, here) ← place
    let shownName := if name = "-" then (g.last? "label").getD "(standard input)" else name
    let location? : Option Location := if name = "-" then none
      else match tree.locate here name with
        | .ok d => if tree.isDirectory d.location then some d.location else none
        | .error _ => none
    match location? with
    | some location =>
      if recursive then
        for path in filesBelow tree (g.has "R") takes (fun n => !glob "exclude-dir" n) 1000
            (if bareHere then "" else name) location do
          match ← contents path with
          | .ok text => if ← searchText g sought s path text then found := true
          | .error e =>
            tell (path ++ ": " ++ e.message)
            failed := true
      else if g.last? "d" ≠ some "skip" then
        tell (name ++ ": " ++ OsError.isDirectory.message)
        failed := true
    | none =>
      if name ≠ "-" ∧ !takes (lastName name) ∧ (g.has "include" ∨ g.has "exclude") then pure ()
      else
        match ← contents name with
        | .ok text => if ← searchText g sought s shownName text then found := true
        | .error e =>
          tell (name ++ ": " ++ e.message)
          failed := true
  setStatus (if failed then 2 else if found then 0 else 1)

end ScriptSearch.Host.Tools
