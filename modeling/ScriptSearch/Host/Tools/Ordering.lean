import ScriptSearch.Host.Letters
import ScriptSearch.Host.Real
import ScriptSearch.Host.Tools.Lines
import ScriptSearch.Host.Tools.Work
import ScriptSearch.Host.Version

/-! Tools that put lines in order, and that compare lines that are in order. Lines are compared by
their bytes. -/

namespace ScriptSearch.Host.Tools

open Work

/-! ### Keys -/

/-- A place in a line: so many fields, and so many characters, behind its start. -/
structure KeyPlace where
  fields : Nat
  characters : Nat
  skipsBlanks : Bool := false

/-- A key by which lines are compared, and how. -/
structure SortKey where
  start : KeyPlace := ⟨0, 0, false⟩
  finish : Option KeyPlace := none
  /-- Letters that say how it is compared. -/
  ways : List Char := []

def isBlankByte (b : UInt8) : Bool := b == 32 || b == 9 || b == 10

/-- What is left of a line behind so many fields. -/
def behindFields (separator : Option UInt8) : (fields : Nat) → List UInt8 → List UInt8
  | 0, bs => bs
  | n + 1, bs =>
    match separator with
    | some c => behindFields separator n ((bs.dropWhile (· ≠ c)).drop 1)
    | none => behindFields separator n ((bs.dropWhile isBlankByte).dropWhile (!isBlankByte ·))

/-- How many bytes of a line come before a place. -/
def KeyPlace.offset (p : KeyPlace) (separator : Option UInt8) (bs : List UInt8) : Nat :=
  let rest := behindFields separator p.fields bs
  let rest := if p.skipsBlanks then rest.dropWhile isBlankByte else rest
  min bs.length (bs.length - rest.length + p.characters)

/-- How many bytes of a line come before the end of a key. Without characters the whole field
belongs to it. -/
def KeyPlace.endOffset (p : KeyPlace) (separator : Option UInt8) (bs : List UInt8) : Nat :=
  if p.characters = 0 then
    match separator with
    | some c =>
      let rest := behindFields separator p.fields bs
      bs.length - (rest.dropWhile (· ≠ c)).length
    | none => bs.length - (behindFields none (p.fields + 1) bs).length
  else p.offset separator bs

/-- The part of a line that a key means. -/
def SortKey.part (k : SortKey) (separator : Option UInt8) (bs : List UInt8) : List UInt8 :=
  let first := k.start.offset separator bs
  match k.finish with
  | none => bs.drop first
  | some p => (bs.take (p.endOffset separator bs)).drop first

/-! ### Ways to compare -/

/-- A decimal number: its sign, its digits, and how many of them are behind the point. -/
structure DecimalText where
  negative : Bool := false
  digits : Nat := 0
  places : Nat := 0
  rest : List Char := []

/-- The number at the start of a text; zero if there is none. -/
def decimalOf (cs : List Char) : DecimalText :=
  let cs := cs.dropWhile fun c => c = ' ' || c = '\t' || c = '\n'
  let (negative, cs) := match cs with
    | '-' :: cs => (true, cs)
    | cs => (false, cs)
  let (whole, rest) := digitsOf cs
  let (fraction, rest) := match rest with
    | '.' :: more => digitsOf more
    | rest => ([], rest)
  { negative, digits := natOf (whole ++ fraction), places := fraction.length, rest }

def DecimalText.compare (a b : DecimalText) : Ordering :=
  let value (a b : DecimalText) : Int :=
    let n : Int := a.digits * Nat.pow 10 b.places
    if a.negative then -n else n
  Ord.compare (value a b) (value b a)

/-- The rank of the unit behind a number. -/
def unitRank (a : DecimalText) : Int :=
  if a.digits = 0 then 0
  else
    let rank : Int := match a.rest with
      | c :: _ => ((['K', 'M', 'G', 'T', 'P', 'E', 'Z', 'Y'].zipIdx 1).lookup (if c = 'k' then 'K' else c)).getD 0
      | [] => 0
    if a.negative then -rank else rank

def monthNames : List String :=
  ["JAN", "FEB", "MAR", "APR", "MAY", "JUN", "JUL", "AUG", "SEP", "OCT", "NOV", "DEC"]

/-- The number of the month that a text begins with, and zero if it does not. -/
def monthRank (cs : List Char) : Nat :=
  let cs := cs.dropWhile fun c => c = ' ' || c = '\t'
  ((monthNames.zipIdx 1).lookup (String.ofList ((cs.take 3).map Char.toUpper))).getD 0

/-- The order of two numbers. -/
def compareNumbers (a b : Real.Number) : Ordering :=
  match a, b with
  | ⟨n, .finite p q⟩, ⟨n', .finite p' q'⟩ =>
    let sign (negative : Bool) (k : Nat) : Int := if negative then -(k : Int) else k
    compare (sign n (p * q')) (sign n' (p' * q))
  | ⟨n, .infinite⟩, ⟨n', .infinite⟩ => compare n' n
  | ⟨n, .infinite⟩, _ => if n then .lt else .gt
  | _, ⟨n', .infinite⟩ => if n' then .gt else .lt
  | _, _ => .eq

/-- The order of numbers of any form: texts that are none come first, then what is undefined. -/
def compareReals (a b : List Char) : Ordering :=
  let kind : Option Real.Reading → Nat
    | none => 0
    | some ⟨⟨_, .undefined⟩, _, _⟩ => 1
    | some _ => 2
  let x := Real.read Real.extended a
  let y := Real.read Real.extended b
  (compare (kind x) (kind y)).then <|
    match x, y with
    | some x, some y => compareNumbers x.number y.number
    | _, _ => .eq

/-- The order of two keys. -/
def SortKey.compareParts (k : SortKey) (a b : List UInt8) : Ordering :=
  let chars (bs : List UInt8) : List Char := bs.map Octet.char
  let has (c : Char) : Bool := k.ways.contains c
  if has 'n' then (decimalOf (chars a)).compare (decimalOf (chars b))
  else if has 'g' then compareReals (chars a) (chars b)
  else if has 'h' then
    let x := decimalOf (chars a)
    let y := decimalOf (chars b)
    (compare (unitRank x) (unitRank y)).then (x.compare y)
  else if has 'M' then compare (monthRank (chars a)) (monthRank (chars b))
  else if has 'V' then Version.compareNames a b
  else
    let keeps (b : UInt8) : Bool :=
      let c := Octet.char b
      if has 'd' then c.isAlphanum || isBlankByte b
      else if has 'i' then ' ' ≤ c && c ≤ '~'
      else true
    let shown (bs : List UInt8) : List UInt8 :=
      let kept := bs.filter keeps
      if has 'f' then kept.map fun b => if 97 ≤ b && b ≤ 122 then b - 32 else b else kept
    compare (shown a) (shown b)

/-! ### Putting in order -/

/-- How lines are put in order. -/
structure Sorting where
  keys : List SortKey
  separator : Option UInt8 := none
  /-- Whether the order of whole lines is turned round where keys do not decide. -/
  reversed : Bool := false
  /-- Whether keys alone decide. -/
  stable : Bool := false

/-- A line with its keys. -/
structure SortLine where
  text : String
  bytes : List UInt8
  parts : List (List UInt8)

def Sorting.line (s : Sorting) (text : String) : SortLine :=
  let bytes := Octet.bytes text
  { text, bytes, parts := s.keys.map fun k => k.part s.separator bytes }

/-- The order that the keys give. -/
def Sorting.compareKeys (s : Sorting) (a b : SortLine) : Ordering :=
  ((s.keys.zip (a.parts.zip b.parts)).map fun (k, x, y) =>
    let o := k.compareParts x y
    if k.ways.contains 'r' then o.swap else o).foldl Ordering.then .eq

def Sorting.compare (s : Sorting) (a b : SortLine) : Ordering :=
  let byKeys := if s.keys.isEmpty then .eq else s.compareKeys a b
  if byKeys ≠ .eq ∨ s.stable then byKeys
  else
    let o := Ord.compare a.bytes b.bytes
    if s.reversed then o.swap else o

/-- Leaves the first of lines that are equal. -/
def firstOfEqual {α : Type} (same : α → α → Bool) : List α → List α
  | [] => []
  | a :: rest =>
    let rec go (last : α) : List α → List α
      | [] => []
      | b :: rest => if same last b then go last rest else b :: go b rest
    a :: go a rest

/-- What is wrong with a key, and where. -/
def keyWays : List Char := "bdfghiMnRrV".toList

/-- A place of a key at the start of a text: a field, and a character in it. -/
def placeOf (what : String) (cs : List Char) : Except String (Nat × Option Nat × List Char) :=
  let (ds, rest) := digitsOf cs
  if ds.isEmpty then .error ("invalid number " ++ what ++ ": invalid count at start of ")
  else
    match rest with
    | '.' :: more =>
      let (cds, rest) := digitsOf more
      if cds.isEmpty then .error "invalid number after '.': invalid count at start of "
      else .ok (natOf ds, some (natOf cds), rest)
    | rest => .ok (natOf ds, none, rest)

/-- The key that an argument means. -/
def keyOfText (text : String) : Work SortKey := do
  let bad (why : String) : Work SortKey := do fail (why ++ (← quoted text)) 2
  match placeOf "at field start" text.toList with
  | .error why => bad why
  | .ok (field, character, rest) =>
    if field = 0 then return ← bad "field number is zero: invalid field specification "
    if character = some 0 then return ← bad "character offset is zero: invalid field specification "
    let ways := rest.takeWhile keyWays.contains
    let start : KeyPlace := ⟨field - 1, character.getD 1 - 1, ways.contains 'b'⟩
    match rest.drop ways.length with
    | [] => return { start, ways }
    | ',' :: rest =>
      match placeOf "after ','" rest with
      | .error why => fail (why ++ (← quoted (String.ofList rest))) 2
      | .ok (field, character, rest) =>
        if field = 0 then return ← bad "field number is zero: invalid field specification "
        let more := rest.takeWhile keyWays.contains
        if !(rest.drop more.length).isEmpty then
          return ← bad "stray character in field spec: invalid field specification "
        return { start, finish := some ⟨field - 1, character.getD 0, more.contains 'b'⟩, ways := ways ++ more }
    | _ => bad "stray character in field spec: invalid field specification "

/-- Merges two rows of lines that are each in order. -/
def mergeLines (le : SortLine → SortLine → Bool) : Nat → List SortLine → List SortLine → List SortLine
  | 0, as, bs => as ++ bs
  | _, [], bs => bs
  | _, as, [] => as
  | steps + 1, a :: as, b :: bs =>
    if le a b then a :: mergeLines le steps as (b :: bs) else b :: mergeLines le steps (a :: as) bs

def sortRules : List OptionRule :=
  [flag "b" "ignore-leading-blanks", flag "d" "dictionary-order", flag "f" "ignore-case",
    flag "g" "general-numeric-sort", flag "i" "ignore-nonprinting", flag "M" "month-sort",
    flag "h" "human-numeric-sort", flag "n" "numeric-sort", flag "R" "random-sort",
    flag "r" "reverse", flag "V" "version-sort", perhaps "" "check", flag "c", flag "C",
    flag "m" "merge", valued "o" "output", flag "s" "stable", valued "S" "buffer-size",
    valued "t" "field-separator", valued "T" "temporary-directory", flag "u" "unique",
    flag "z" "zero-terminated", valued "k" "key", valued "" "parallel", valued "" "batch-size",
    valued "" "compress-program", valued "" "sort", valued "" "files0-from", flag "" "debug"]

/-- The letter of a way to compare that has a name. -/
def wayOfName? (name : String) : Option Char :=
  ([("general-numeric", 'g'), ("human-numeric", 'h'), ("month", 'M'), ("numeric", 'n'), ("random", 'R'),
    ("version", 'V')] : List (String × Char)).lookup name

/-- Writes the lines of files in order, or looks whether they are. -/
def sortLines : Work Unit := do
  modify fun g => { g with lostStatus := 2 }
  let g ← options { rules := sortRules } 2
  let named := (g.all "sort").filterMap wayOfName?
  let ways := keyWays.filter fun c => g.has (String.singleton c) || named.contains c
  let clash := ways.filter "ghnMVRdi".toList.contains
  let numeric := clash.filter "ghnMVR".toList.contains
  if 1 < numeric.length ∨ (!numeric.isEmpty ∧ numeric ≠ ['R'] ∧ numeric ≠ ['V'] ∧ clash.length ≠ numeric.length) then
    let order := "dfghiMnRV".toList.filter clash.contains
    let order := (order.filter Char.isUpper) ++ order.filter Char.isLower
    fail ("options '-" ++ String.ofList order ++ "' are incompatible") 2
  let separator ← match g.last? "t" with
    | none => pure none
    | some "" => fail "empty tab" 2
    | some "\\0" => pure (some 0)
    | some text =>
      match Octet.bytes text with
      | [b] => pure (some b)
      | _ => fail ("multi-character tab " ++ (← quoted text)) 2
  let given ← (g.all "k").mapM keyOfText
  let own := given.map fun k =>
    if k.ways.isEmpty then
      { k with ways, start := { k.start with skipsBlanks := ways.contains 'b' }
               finish := k.finish.map fun p => { p with skipsBlanks := ways.contains 'b' } }
    else k
  let keys : List SortKey :=
    if own.isEmpty ∧ ways.any (· ≠ 'r') then
      [{ ways, start := ⟨0, 0, ways.contains 'b'⟩ }]
    else own
  let s : Sorting :=
    { keys, separator, reversed := ways.contains 'r', stable := g.hasAny ["s", "u"] && !keys.isEmpty }
  let stop := lineStop (g.has "z")
  let checks := g.hasAny ["c", "C", "check"]
  if checks then
    if let some extra := g.operands[1]? then
      fail ("extra operand " ++ (← quoted extra) ++ " not allowed with -" ++ (if g.has "C" then "C" else "c")) 2
  let unique := g.has "u"
  let mut texts : List (List SortLine) := []
  for name in inputs g do
    match ← contents name with
    | .ok text => texts := texts ++ [(linesOf stop text).map s.line]
    | .error .isDirectory => fail ("read failed: " ++ (← about name .isDirectory)) 2
    | .error e => fail ((if checks then "open failed: " else "cannot read: ") ++ (← about name e)) 2
  let le (a b : SortLine) : Bool := s.compare a b ≠ .gt
  if checks then
    let lines := texts.flatten
    let wrong (a b : SortLine) : Bool := if unique then s.compare a b ≠ .lt else s.compare a b = .gt
    match (lines.zip (lines.drop 1)).zipIdx.find? fun ((a, b), _) => wrong a b with
    | none => pure ()
    | some ((_, b), i) =>
      if !(g.has "C" ∨ (g.all "check").any fun v => v = "quiet" || v = "silent") then
        fault ((← bare ((inputs g).headD "-")) ++ ":" ++ toString (i + 2) ++ ": disorder: " ++ b.text)
      setStatus 1
  else
    let sorted :=
      if g.has "m" then texts.foldl (fun all lines => mergeLines le (all.length + lines.length + 1) all lines) []
      else texts.flatten.mergeSort le
    let kept := if unique then firstOfEqual (fun a b => s.compare a b = .eq) sorted else sorted
    let text := ofLines stop (kept.map (·.text))
    match g.last? "o" with
    | none => say text
    | some name =>
      if let some e := ← store name text then fail ("open failed: " ++ (← about name e)) 2

/-! ### Lines that repeat -/

/-- A line without the first fields and characters, cut to a width. -/
def comparedPart (fields characters : Nat) (width : Option Nat) (line : String) : List UInt8 :=
  let rec skip : Nat → List UInt8 → List UInt8
    | 0, bs => bs
    | n + 1, bs => skip n ((bs.dropWhile isBlankByte).dropWhile (!isBlankByte ·))
  let bs := (skip fields (Octet.bytes line)).drop characters
  match width with
  | some w => bs.take w
  | none => bs

/-- Groups of lines that follow each other and have the same key. -/
def groupsOf (key : String → List UInt8) : List String → List (List String)
  | [] => []
  | line :: rest =>
    match groupsOf key rest with
    | (next :: group) :: groups =>
      if key line = key next then (line :: next :: group) :: groups
      else [line] :: (next :: group) :: groups
    | groups => [line] :: groups

/-- Writes one of lines that repeat. -/
def uniqueLines : Work Unit := do
  let g ← options
    { rules := [flag "c" "count", flag "d" "repeated", flag "D", perhaps "" "all-repeated",
        valued "f" "skip-fields", perhaps "" "group", flag "i" "ignore-case", valued "s" "skip-chars",
        flag "u" "unique", flag "z" "zero-terminated", valued "w" "check-chars"] }
  let number (letter what : String) : Work (Option Nat) := do
    match g.last? letter with
    | none => return none
    | some text =>
      match count false text with
      | .ok n => return some n
      | .error .tooLarge => return some countLimit
      | .error .malformed => fail (text ++ ": invalid number of " ++ what)
  let fields ← number "f" "fields to skip"
  let characters ← number "s" "bytes to skip"
  let width ← number "w" "bytes to compare"
  if let some extra := g.operands[2]? then refuse ("extra operand " ++ (← quoted extra))
  let every := g.hasAny ["D", "all-repeated"]
  if g.has "c" ∧ every then
    refuse "printing all duplicated lines and repeat counts is meaningless"
  let stop := lineStop (g.has "z")
  let name := g.operands.headD "-"
  match ← contents name with
  | .error .isDirectory => fail ("error reading " ++ (← quoted name))
  | .error e => fail (← about name e)
  | .ok text =>
    let key (line : String) : List UInt8 :=
      let bs := comparedPart (fields.getD 0) (characters.getD 0) width line
      if g.has "i" then bs.map fun b => if 97 ≤ b && b ≤ 122 then b - 32 else b else bs
    let groups := groupsOf key (linesOf stop text)
    let shown (group : List String) : List String :=
      let n := group.length
      let first := (group.head?).toList
      let counted (line : String) : String :=
        if g.has "c" then "".pushn ' ' (7 - (toString n).length) ++ toString n ++ " " ++ line else line
      if every then (if n = 1 ∨ g.has "u" then [] else group)
      else if g.has "group" then group
      else if (g.has "d" ∧ n = 1) ∨ (g.has "u" ∧ n ≠ 1) then []
      else first.map counted
    let parts := (groups.map shown).filter fun part => !part.isEmpty
    let method := ((g.last? "all-repeated").orElse fun _ => g.last? "group").getD
      (if g.has "group" then "separate" else "none")
    let method := if g.has "group" ∧ method = "" then "separate" else method
    let empty := String.singleton stop
    let blocks := parts.map (ofLines stop)
    let text := match method with
      | "prepend" => String.join (blocks.map (empty ++ ·))
      | "append" => String.join (blocks.map (· ++ empty))
      | "both" => if blocks.isEmpty then "" else empty ++ String.join (blocks.map (· ++ empty))
      | "separate" => String.intercalate empty blocks
      | _ => String.join blocks
    match g.operands[1]? with
    | some name => if let some e := ← store name text then fail (← about name e)
    | none => say text

/-! ### Lines in common -/

/-- A line of one file, of the other, or of both. -/
inductive Shared
  | first | second | both
  deriving DecidableEq, Repr

/-- Walks through two rows of lines that are in order. The first argument bounds the steps. -/
def sharedLines : Nat → List String → List String → List (Shared × String)
  | 0, _, _ | _, [], [] => []
  | steps + 1, a :: as, [] => (.first, a) :: sharedLines steps as []
  | steps + 1, [], b :: bs => (.second, b) :: sharedLines steps [] bs
  | steps + 1, a :: as, b :: bs =>
    match compare (Octet.bytes a) (Octet.bytes b) with
    | .lt => (.first, a) :: sharedLines steps as (b :: bs)
    | .gt => (.second, b) :: sharedLines steps (a :: as) bs
    | .eq => (.both, a) :: sharedLines steps as bs

/-- Whether lines are out of order behind a number of them, or at their end. -/
def isOutOfOrder (skipped : Nat) (lines : List String) : Bool :=
  let keys := lines.map Octet.bytes
  let pairs := keys.zip (keys.drop 1)
  ((pairs.drop skipped) ++ pairs.drop (pairs.length - 1)).any fun (a, b) => b < a

/-- Compares two files line by line. -/
def commonLines : Work Unit := do
  let g ← options
    { rules := flags "123" ++
        [flag "" "check-order", flag "" "nocheck-order", valued "" "output-delimiter", flag "" "total",
          flag "z" "zero-terminated"] }
  match g.operands with
  | [] => refuse "missing operand"
  | [one] => refuse ("missing operand after " ++ (← quoted one))
  | _ :: _ :: extra :: _ => refuse ("extra operand " ++ (← quoted extra))
  | [left, right] =>
    let stop := lineStop (g.has "z")
    let read (name : String) : Work (List String) := do
      match ← contents name with
      | .ok text => return linesOf stop text
      | .error e => fail (← about name e)
    let as ← read left
    let bs ← read right
    let rows := sharedLines (as.length + bs.length + 1) as bs
    let tab := match g.last? "output-delimiter" with
      | some "" => "\x00"
      | some s => s
      | none => "\t"
    let hides (kind : Shared) : Bool :=
      g.has (match kind with | .first => "1" | .second => "2" | .both => "3")
    let indent (kind : Shared) : String :=
      let before : List Shared := match kind with
        | .first => []
        | .second => [.first]
        | .both => [.first, .second]
      String.join ((before.filter (!hides ·)).map fun _ => tab)
    for (kind, line) in rows do
      if !hides kind then say ((indent kind ++ line).push stop)
    if g.has "total" then
      let total (kind : Shared) : String := toString (rows.filter (·.1 = kind)).length
      say ((total .first ++ tab ++ total .second ++ tab ++ total .both ++ tab ++ "total").push stop)
    let same := (rows.takeWhile (·.1 = .both)).length
    let strict := g.has "check-order"
    if strict ∨ (same < rows.length ∧ !g.has "nocheck-order") then
      for (n, lines) in [(1, as), (2, bs)] do
        if isOutOfOrder (if strict then 0 else same) lines then
          let text := "file " ++ toString n ++ " is not in sorted order"
          if strict then fail text
          fault text
      if (← get).status ≠ 0 then fail "input is not in sorted order"

/-! ### An order that relations allow -/

/-- An item of relations: how many items have to come before it, and those that come behind it, the
last one first. -/
structure Related where
  name : String
  before : Nat := 0
  behind : List String := []

/-- Items in the order of their names. -/
abbrev Relations := List Related

def Relations.add (r : Relations) (name : String) : Relations :=
  if r.any (·.name = name) then r
  else
    let earlier (i : Related) : Bool := Octet.bytes i.name < Octet.bytes name
    r.takeWhile earlier ++ { name } :: r.dropWhile earlier

def Relations.change (r : Relations) (name : String) (f : Related → Related) : Relations :=
  r.map fun i => if i.name = name then f i else i

/-- The relations that pairs of names mean. -/
def Relations.ofNames : Relations → List String → Relations
  | r, a :: b :: rest =>
    let r := (r.add a).add b
    let r :=
      if a = b then r
      else
        Relations.change (Relations.change r b fun i => { i with before := i.before + 1 }) a
          fun i => { i with behind := b :: i.behind }
    r.ofNames rest
  | r, _ => r

/-- Takes items that nothing has to come before, and then those that this makes free. The first
argument bounds the steps. -/
def Relations.release : Nat → (queue : List String) → Relations → List String × Relations
  | 0, _, r | _, [], r => ([], r)
  | steps + 1, name :: queue, r =>
    match r.find? (·.name = name) with
    | none => release steps queue r
    | some item =>
      let (freed, r) := item.behind.foldl
        (fun ((freed, r) : List String × Relations) b =>
          let r := r.change b fun i => { i with before := i.before - 1 }
          if r.any fun i => i.name = b && i.before = 0 then (freed ++ [b], r) else (freed, r))
        ([], r)
      let (rest, r) := release steps (queue ++ freed) (r.filter (·.name ≠ name))
      (name :: rest, r)

/-- A row of items each of which has to come before the one in front of it in the row, found by
walking over the items in order until the first of a loop is met again; then the loop. -/
def Relations.loop (r : Relations) : Nat → (row : List String) → Option (List String × String × String)
  | 0, _ => none
  | rounds + 1, row =>
    let step (state : List String × Option (List String × String × String)) (k : Related) :
        List String × Option (List String × String × String) :=
      match state with
      | (row, some found) => (row, some found)
      | ([], none) => if 0 < k.before then ([k.name], none) else ([], none)
      | (first :: row, none) =>
        if 0 < k.before ∧ k.behind.contains first ∧ k.name ≠ first then
          if row.contains k.name then
            let upTo := (first :: row).takeWhile (· ≠ k.name)
            (first :: row, some (upTo ++ [k.name], k.name, first))
          else (k.name :: first :: row, none)
        else (first :: row, none)
    match r.foldl step (row, none) with
    | (_, some found) => some found
    | (row, none) => r.loop rounds row

/-- Writes names in an order that relations between them allow. -/
def orderTopologically : Work Unit := do
  let g ← options {}
  refuseExtra g 1
  let name := g.operands.headD "-"
  match ← contents name with
  | .error .isDirectory => fail ((← bare name) ++ ": read error: " ++ OsError.isDirectory.message)
  | .error e => fail (← about name e)
  | .ok text =>
    let names := ((Text.split '\n' text).flatMap fun s => (Text.split ' ' s).flatMap (Text.split '\t')).filter (· ≠ "")
    if names.length % 2 = 1 then fail ((← bare name) ++ ": input contains an odd number of tokens")
    go name (names.length * names.length + 1) (Relations.ofNames [] names)
where
  go (name : String) : Nat → Relations → Work Unit
    | 0, _ => pure ()
    | rounds + 1, r => do
      let free := (r.filter (·.before = 0)).map (·.name)
      let (taken, r) := Relations.release (r.length + 1) free r
      say (ofLines '\n' taken)
      if !r.isEmpty then
        fault ((← bare name) ++ ": input contains a loop:")
        match r.loop (r.length + 1) [] with
        | none => pure ()
        | some (loop, last, first) =>
          for item in loop do warn item
          go name rounds ((r.change first fun i => { i with before := i.before - 1 }).change last
            fun i => { i with behind := i.behind.erase first })

end ScriptSearch.Host.Tools
