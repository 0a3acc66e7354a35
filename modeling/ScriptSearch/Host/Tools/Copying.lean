import ScriptSearch.Host.Tools.Lines
import ScriptSearch.Host.Tools.Work

/-! Tools that copy files to the output, whole or in part. -/

namespace ScriptSearch.Host.Tools

open Work

/-! ### Whole files -/

/-- How the characters of files are shown. -/
structure Look where
  number : Bool := false
  numberFilled : Bool := false
  squeeze : Bool := false
  ends : Bool := false
  tabs : Bool := false
  unprintable : Bool := false

/-- Where showing stands: the number of the last line that got one, and how many line ends
came last. A file begins as if a line had ended. -/
structure Shown where
  line : Nat := 0
  ends : Nat := 1
  bytes : Array UInt8 := #[]

namespace Look

def isRaw (l : Look) : Bool :=
  !(l.number || l.numberFilled || l.squeeze || l.ends || l.tabs || l.unprintable)

/-- A byte that is no line end, as it is shown. -/
def shownByte (l : Look) (b : UInt8) : List UInt8 :=
  if b = 9 then (if l.tabs then Octet.ofChars ['^', 'I'] else [b])
  else if !l.unprintable then [b]
  else
    let low (b : UInt8) : List UInt8 :=
      if b < 32 then [94, b + 64] else if b = 127 then [94, 63] else [b]
    if b < 128 then low b else Octet.ofChars ['M', '-'] ++ low (b - 128)

/-- A line's number in front of it. -/
def lineNumber (n : Nat) : List UInt8 :=
  let digits := (toString n).toUTF8.toList
  List.replicate (6 - digits.length) 32 ++ digits ++ [9]

/-- Shows a byte. -/
def add (l : Look) (s : Shown) (b : UInt8) : Shown :=
  if b = 10 then
    if l.squeeze ∧ 2 ≤ s.ends then { s with ends := s.ends + 1 }
    else
      let counts := s.ends ≠ 0 && l.number && !l.numberFilled
      let line := if counts then s.line + 1 else s.line
      { line, ends := s.ends + 1
        bytes := s.bytes ++ (if counts then lineNumber line else []) ++
          (if l.ends then Octet.ofChars ['$', '\n'] else [b]) }
  else
    let counts := s.ends ≠ 0 && (l.number || l.numberFilled)
    let line := if counts then s.line + 1 else s.line
    { line, ends := 0
      bytes := s.bytes ++ (if counts then lineNumber line else []) ++ l.shownByte b }

end Look

def concatenateRules : List OptionRule :=
  flags "etu" ++
    [flag "b" "number-nonblank", flag "n" "number", flag "s" "squeeze-blank",
      flag "v" "show-nonprinting", flag "E" "show-ends", flag "T" "show-tabs", flag "A" "show-all"]

/-- Copies files to the output one after the other. -/
def concatenate : Work Unit := do
  let g ← options { rules := concatenateRules }
  let l : Look :=
    { number := g.has "n", numberFilled := g.has "b", squeeze := g.has "s"
      ends := g.hasAny ["E", "e", "A"], tabs := g.hasAny ["T", "t", "A"]
      unprintable := g.hasAny ["v", "e", "t", "A"] }
  let p ← process
  if Process.obstacle? p.descriptors 1 = some .badDescriptor then
    fail ("standard output: " ++ OsError.badDescriptor.message)
  copy l {} (inputs g)
  if (inputs g).contains "-" ∧ (p.channel? 0).isNone then
    fault ("closing standard input: " ++ OsError.badDescriptor.message)
where
  copy (l : Look) (s : Shown) : List String → Work Unit
    | [] => pure ()
    | name :: rest => do
      if (← process).writesInto name (← machine) then
        fault ((← bare name) ++ ": input file is output file")
        copy l s rest
      else
        match ← contents? name with
        | none => copy l s rest
        | some text =>
          let s := if l.isRaw then s else (Octet.bytes text).foldl l.add { s with bytes := #[] }
          say (if l.isRaw then text else Octet.text s.bytes.toList)
          flush
          copy l s rest

/-- Copies the input to the output and into files. -/
def tee : Work Unit := do
  let g ← options { rules := [flag "a" "append", flag "i" "ignore-interrupts", perhaps "p" "output-error"] }
  let opening : Opening := if g.has "a" then .appending else .replacing
  match ← contents "-" with
  | .error e => fault ("read error: " ++ e.message)
  | .ok text =>
    say text
    flush
    for name in g.operands do
      if let some e := ← store name text opening then fault (← about name e)

/-! ### Lines in another order -/

/-- A text cut at a separator, which stays with what is before it, or with what is behind it. -/
def recordsOf (separator : String) (before : Bool) (s : String) : List String :=
  let parts := s.splitOn separator
  let parts :=
    if before then parts.take 1 ++ (parts.drop 1).map (separator ++ ·)
    else parts.dropLast.map (· ++ separator) ++ parts.getLast?.toList
  parts.filter (· ≠ "")

/-- Copies files with their lines in reverse order. -/
def reverseLines : Work Unit := do
  let g ← options
    { rules := [flag "b" "before", flag "r" "regex", valued "s" "separator"] }
  let separator := (g.last? "s").getD "\n"
  if separator = "" ∧ g.has "r" then fail "separator cannot be empty"
  let separator := if separator = "" then "\x00" else separator
  for name in inputs g do
    match ← contents name with
    | .ok text => say (String.join (recordsOf separator (g.has "b") text).reverse)
    | .error .isDirectory => fault ((← bare name) ++ ": read error: " ++ OsError.invalid.message)
    | .error e => fault ("failed to open " ++ (← always name) ++ " for reading: " ++ e.message)

/-- Copies files with the characters of each line in reverse order. -/
def reverseCharacters : Work Unit := do
  let g ← options { rules := [flag "0" "zero"] }
  let stop := lineStop (g.has "0")
  for name in inputs g do
    match ← contents name with
    | .ok text =>
      for line in fullLines stop text do
        let ended := line.endsWith stop
        let body := Octet.units (← isWide) (if ended then (line.dropEnd 1).toString else line)
        say (Octet.join body.reverse ++ if ended then String.singleton stop else "")
    | .error e => fault ("cannot open " ++ name ++ ": " ++ e.message)

/-! ### The beginning and the end of files -/

/-- How much of a file is copied: so many bytes or lines from one of its ends, or all but them. -/
structure Portion where
  size : Nat := 10
  bytes : Bool := false
  /-- Whether the size says what is left out. -/
  without : Bool := false
  stop : Char := '\n'

namespace Portion

/-- How many bytes are taken from the beginning. -/
def fromStart (n : Portion) (text : String) : Nat :=
  if n.bytes then (if n.without then Octet.size text - n.size else n.size)
  else
    let lines := fullLines n.stop text
    let count := if n.without then lines.length - n.size else n.size
    ((lines.take count).map Octet.size).foldl (· + ·) 0

/-- Whether a text has all that is taken from its beginning, whatever stands behind it. -/
def isIn (n : Portion) (text : String) : Bool :=
  !n.without && if n.bytes then decide (n.size ≤ Octet.size text)
    else decide (n.size ≤ (text.toList.filter (· = n.stop)).length)

/-- What is taken from the end. -/
def ofEnd (n : Portion) (text : String) : String :=
  if n.bytes then
    (Octet.splitAt (if n.without then n.size else Octet.size text - n.size) text).2
  else
    let lines := fullLines n.stop text
    String.join (lines.drop (if n.without then n.size else lines.length - n.size))

end Portion

/-- Takes text from the beginning of a file or of the standard input. Of an input that is a file
no more is taken than that. -/
def beginningOf (n : Portion) (name : String) : Work (Except OsError String) := do
  let p ← process
  let m ← machine
  match name, p.channel? 0 with
  | "-", some (.file k true w) =>
    let c : Channel := .file k true w
    let text := m.unread c
    let size := n.fromStart text
    let (text, m) := m.readBytes size c
    set m
    return .ok text
  | _, _ =>
    let found ← contents name
    if let .ok text := found then
      if n.isIn text then satisfied
    return found.map fun text => (Octet.splitAt (n.fromStart text) text).1

/-- What a file is called in a heading. -/
def headingName (name : String) : String := if name = "-" then "standard input" else name

/-- Copies parts of files, with headings if there are several of them. The flag is whether no
heading has been written yet. -/
def copyParts (g : Given) (part : String → Work (Except OsError String)) :
    (first : Bool) → List String → Work Unit
  | _, [] => pure ()
  | first, name :: rest => do
    let headed : Bool := match g.lastOf ["q", "v"] with
      | some "q" => false
      | some _ => true
      | none => 1 < (inputs g).length
    let heading := (if first then "" else "\n") ++ "==> " ++ headingName name ++ " <==\n"
    match ← part name with
    | .ok text =>
      if headed then say heading
      say text
      copyParts g part (first && !headed) rest
    | .error .isDirectory =>
      if headed then say heading
      fault ("error reading " ++ (← always name) ++ ": " ++ OsError.isDirectory.message)
      copyParts g part (first && !headed) rest
    | .error e =>
      fault ("cannot open " ++ (← always (headingName name)) ++ " for reading: " ++ e.message)
      copyParts g part first rest

def portionRules : List OptionRule :=
  [valued "c" "bytes", valued "n" "lines", flag "q" "quiet", flag "q" "silent", flag "v" "verbose",
    flag "z" "zero-terminated"]

/-- How much options ask for. A sign says what is left out: `-` at the beginning, and `+`, which
counts from one, at the end. -/
def portionOf (g : Given) (ofEnd : Bool) : Work Portion := do
  let stop := lineStop (g.has "z")
  match g.lastOf ["c", "n"] with
  | none => return { stop }
  | some kind =>
    let bytes := decide (kind = "c")
    let text := (g.last? kind).getD ""
    let (sign, digits) := match text.toList with
      | '-' :: cs => ('-', String.ofList cs)
      | '+' :: cs => ('+', String.ofList cs)
      | cs => (' ', String.ofList cs)
    let what := "invalid number of " ++ (if bytes then "bytes" else "lines") ++ ": "
    match count true digits with
    | .error .malformed => fail (what ++ (← quoted text))
    | .error .tooLarge =>
      fail (what ++ (← quoted (if ofEnd then text else digits)) ++ ": " ++ "Value too large for defined data type")
    | .ok n =>
      if ofEnd then return { size := if sign = '+' then n - 1 else n, bytes, without := sign = '+', stop }
      else return { size := n, bytes, without := sign = '-', stop }

/-- Arguments with a number behind a dash at their start, which is an old way to ask for so many
lines, written as an option. Letters behind it are units and other options. -/
def withOldCount (args : List String) : Except Char (List String) :=
  match args with
  | arg :: rest =>
    match arg.toList with
    | '-' :: d :: cs =>
      if d.isDigit then
        let (ds, letters) := digitsOf (d :: cs)
        let units := letters.filter "bkm".toList.contains
        let others := letters.filter fun c => !"bkm".toList.contains c
        match others.find? fun c => !"clqvz".toList.contains c with
        | some c => .error c
        | none =>
          let kind := if others.contains 'c' ∨ !units.isEmpty then "-c" else "-n"
          let flags := (others.filter "qvz".toList.contains).map fun c => "-" ++ String.singleton c
          .ok ((kind ++ String.ofList (ds ++ units.take 1)) :: flags ++ rest)
      else .ok args
    | _ => .ok args
  | [] => .ok []

/-- Copies the beginning of files. -/
def beginnings : Work Unit := do
  match withOldCount (← process).args with
  | .error c => refuse ("invalid trailing option -- " ++ String.singleton c)
  | .ok args =>
    let g ← optionsOf { rules := portionRules } args
    let n ← portionOf g false
    copyParts g (beginningOf n) true (inputs g)

/-- Arguments with a number of lines from the end in the old way, which can have one operand
behind it. -/
def withOldEnd (args : List String) : Except Nat (List String) :=
  match args with
  | arg :: rest =>
    let old (sign : String) (cs : List Char) : Except Nat (List String) :=
      let (ds, letters) := digitsOf cs
      if ds.isEmpty ∨ 1 < (rest.filter (· ≠ "--")).length then .ok args
      else if ["", "l", "f", "lf"].contains (String.ofList letters) then
        .ok (("-n" ++ sign ++ String.ofList ds) :: rest)
      else if letters.head? = some 'c' then .ok (("-c" ++ sign ++ String.ofList ds) :: rest)
      else if letters.head? = some 'b' then
        .ok (("-c" ++ sign ++ toString (natOf ds * 512)) :: rest)
      else if sign = "+" then .ok args
      else .error (natOf (ds.take 1))
    match arg.toList with
    | '-' :: d :: cs => if d.isDigit then old "" (d :: cs) else .ok args
    | '+' :: cs => old "+" cs
    | _ => .ok args
  | [] => .ok []

/-- Copies the end of files. -/
def endings : Work Unit := do
  match withOldEnd (← process).args with
  | .error digit => fail ("option used in invalid context -- " ++ toString digit)
  | .ok args =>
    let g ← optionsOf
      { rules := portionRules ++
          [perhaps "f" "follow", flag "F", flag "" "retry", valued "" "pid", valued "s" "sleep-interval",
            valued "" "max-unchanged-stats"] } args
    let n ← portionOf g true
    copyParts g (fun name => return (← contents name).map n.ofEnd) true (inputs g)

end ScriptSearch.Host.Tools
